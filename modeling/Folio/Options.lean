import Folio.Fault
import Folio.Setting
import Folio.Signature

/-!
# Options

The options of the two operations that have any: giving references to sections and building
a table of contents. Any value is kept that passes its test; nothing else about its kind is
asked for.
-/

namespace Folio

/-- Why option values are refused. -/
inductive OptionError where
  | unfit (cause : CallError)
  | emptyFallback
  | suffixTooSmall (value : Setting)
  | depthTooSmall (value : Setting)
  | notANumber (cause : Fault)
  deriving Inhabited, Repr

namespace OptionError

/-- The wording of a refusal. -/
def message : OptionError → String
  | unfit cause => cause.message
  | emptyFallback => "fallback_slug must not be empty"
  | suffixTooSmall value => "suffix_start must be >= 2, got " ++ value.plain
  | depthTooSmall value => "max_depth must be >= 1, got " ++ value.plain
  | notANumber cause => cause.message

/-- A value of the right kind was out of range. -/
def isRange : OptionError → Bool
  | emptyFallback | suffixTooSmall _ | depthTooSmall _ => true
  | unfit _ | notANumber _ => false

end OptionError

/-- An option: its name, its default and what it is for. -/
structure OptionField where
  name : String
  default : Setting
  help : String

/-- Refuse numbers below a bound, and what cannot be compared with it. -/
def checkBound (bound : Nat) (value : Setting) (refusal : Setting → OptionError) :
    Except OptionError Unit :=
  match value.below? bound with
  | some false => .ok ()
  | some true => .error (refusal value)
  | none => .error (.notANumber (.notOrdered value.faultName "int"))

/-- How generated references look: the slug of titles that give none, and the first number
that is put behind a slug already in use. -/
structure ReferenceOptions where
  fallbackSlug : Setting := .text "section"
  suffixStart : Setting := .int 2
  deriving Inhabited, Repr

namespace ReferenceOptions

/-- The options by name. -/
def fields : List OptionField :=
  [⟨"fallback_slug", .text "section",
      "Slug used for sections whose title produces an empty slug"⟩,
    ⟨"suffix_start", .int 2, "First numeric suffix appended to colliding slugs"⟩]

/-- Fallbacks must not be empty and suffixes start at 2 or above. -/
def check (options : ReferenceOptions) : Except OptionError ReferenceOptions :=
  if options.fallbackSlug.isSet then do
    checkBound 2 options.suffixStart .suffixTooSmall
    pure options
  else .error .emptyFallback

/-- The values by name. -/
def values (options : ReferenceOptions) : List (String × Setting) :=
  [("fallback_slug", options.fallbackSlug), ("suffix_start", options.suffixStart)]

/-- How options are built. -/
def signature : Signature where
  name := "ReferenceOptions.__init__()"
  receiver := true
  optional := fields.map (·.name)

/-- These options with some values replaced by name. -/
def update (options : ReferenceOptions) (named : List (String × Setting)) :
    Except OptionError ReferenceOptions :=
  match signature.bind [] named with
  | .error cause => .error (.unfit cause)
  | .ok bound =>
    check
      { fallbackSlug := (bound.get? "fallback_slug").getD options.fallbackSlug
        suffixStart := (bound.get? "suffix_start").getD options.suffixStart }

end ReferenceOptions

/-- What a table of contents asks of references and how many levels it has. -/
structure ContentsOptions where
  requireReferences : Setting := .bool false
  maxDepth : Setting := .null
  deriving Inhabited, Repr

namespace ContentsOptions

/-- The options by name. -/
def fields : List OptionField :=
  [⟨"require_references", .bool false,
      "Fail on sections with missing or duplicated references"⟩,
    ⟨"max_depth", .null, "Maximum section nesting depth included in the table of contents"⟩]

/-- A limit on the depth must be 1 or above. -/
def check (options : ContentsOptions) : Except OptionError ContentsOptions :=
  match options.maxDepth with
  | .null => .ok options
  | depth => do
    checkBound 1 depth .depthTooSmall
    pure options

/-- The values by name. -/
def values (options : ContentsOptions) : List (String × Setting) :=
  [("require_references", options.requireReferences), ("max_depth", options.maxDepth)]

/-- How options are built. -/
def signature : Signature where
  name := "TocOptions.__init__()"
  receiver := true
  optional := fields.map (·.name)

/-- These options with some values replaced by name. -/
def update (options : ContentsOptions) (named : List (String × Setting)) :
    Except OptionError ContentsOptions :=
  match signature.bind [] named with
  | .error cause => .error (.unfit cause)
  | .ok bound =>
    check
      { requireReferences := (bound.get? "require_references").getD options.requireReferences
        maxDepth := (bound.get? "max_depth").getD options.maxDepth }

/-- A level, counted from 0, is beyond the limit. -/
def beyond (options : ContentsOptions) (level : Nat) : Bool :=
  match options.maxDepth with
  | .scalar (.float limit) => limit ≤ Float.ofNat level
  | limit =>
    match limit.scalar?.bind Scalar.whole? with
    | some limit => limit ≤ (level : Int)
    | none => false

end ContentsOptions

end Folio
