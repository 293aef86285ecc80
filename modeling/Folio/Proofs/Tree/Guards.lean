import Folio.Failure
import Folio.Proofs.Tree.Grammar

/-!
# Guards of the decoder

Most uses of a value suit values of some kinds only: nothing but an object has members, nothing
but a text is looked up as a tag, a number cannot be gone through item by item. Here every use is
an operation that fails by misuse on all values that do not suit it, and the guards are told
apart from the uses. `decodeLevel` is one level of the decoder written that way, with the values
inside left to `below`. The decoder solves its equation, so every use is guarded at every depth,
and no value makes the decoder fail other than by a refusal of its own.
-/

namespace Folio.Tree

/-- The members of a value; only objects have any. -/
def membersOf : Json → Except Failure Json.Members
  | .obj members => .ok members
  | other => .error (.ofFault (.noMember other.typeName "get"))

/-- What is met when a value is gone through: the items of a list, the names in an object, the
characters of a text. -/
def partsOf : Json → Except Failure (List Json)
  | .arr items => .ok items
  | .obj members => .ok (members.map fun member => .str member.1)
  | .str text => .ok (text.toList.map fun character => .str character.toString)
  | other => .error (.ofFault (.notIterable other.typeName))

/-- The kind with a tag. There may be none, and lists and objects cannot be looked up. -/
def kindOf : Json → Except Failure Kind
  | .str text =>
    match Kind.ofTag? text with
    | some kind => .ok kind
    | none => .error (.unknownKey text)
  | .scalar other => .error (.unknownKey other.display)
  | other => .error (.ofFault (.notHashable other.typeName))

/-- The field with a name, which there may not be. -/
def fieldOf (kind : Kind) (name : String) : Except Failure Field :=
  match kind.field? name with
  | some field => .ok field
  | none => .error (.unknownKey name)

/-- The timestamp that a value writes. Only texts write any, and not all of them do. -/
def momentOf : Json → Except Failure Timestamp
  | .str text =>
    match Timestamp.parse? text with
    | some time => .ok time
    | none => .error (.ofMisuse .value ("Invalid isoformat string: " ++ Text.quote text))
  | _ => .error (.ofMisuse .type "fromisoformat: argument must be str")

/-- The node of a kind with some contents in its fields; one that needs more cannot be built. -/
def nodeOf (kind : Kind) (contents : List (String × Content)) : Except CallError Tree :=
  (kind.signature.bind [] contents).map fun bound => kind.assemble bound.values

/-- A refusal. -/
def refuse {α : Type} (cause : DecodeError) : Except Failure α := .error (.ofDecode cause)

/-- Misuse of the given classes is refused; every other failure passes. -/
def refusing {α : Type} (caught : List Misuse) (cause : DecodeError) :
    Except Failure α → Except Failure α
  | .ok value => .ok value
  | .error failure =>
    match failure.failureClass with
    | .misuse misuse => if caught.contains misuse then refuse cause else .error failure
    | .own _ => .error failure

/-- The value is an object. -/
def isObject : Json → Bool
  | .obj _ => true
  | _ => false

/-- The value is a list. -/
def isList : Json → Bool
  | .arr _ => true
  | _ => false

/-- The value is the tag of a kind. -/
def isTag : Json → Bool
  | .str text => (Kind.ofTag? text).isSome
  | _ => false

/-- The content of a field, with each use behind its guard. -/
def fieldLevel (below : Json → Except Failure Tree) (kind : Kind) (field : Field) (value : Json) :
    Except Failure Content :=
  match field.type with
  | .many _ =>
    if isList value then do
      let items ← partsOf value
      let trees ← items.mapM below
      pure (.slot (.many trees))
    else refuse (.notNodes kind field.name value.typeName)
  | .one _ =>
    if isObject value then do
      let tree ← below value
      pure (.slot (.one tree))
    else refuse (.notOneNode kind field.name value.typeName)
  | .metadata =>
    if isObject value then do
      let members ← membersOf value
      pure (.metadata members)
    else refuse (.notMetadata kind field.name value.typeName)
  | .moment =>
    match value with
    | .null => pure (.attr (.moment none))
    | value => do
      let time ← refusing [.type, .value] (.notAMoment value) (momentOf value)
      pure (.attr (.moment (some time)))
  | .words =>
    if isList value then do
      let items ← partsOf value
      match texts? items with
      | some words => pure (.attr (.words words))
      | none => refuse (.notWords kind field.name)
    else refuse (.notWords kind field.name)
  | .text =>
    match value with
    | .str text => pure (.attr (.text text))
    | other => refuse (.notText kind field.name other.typeName)

/-- The kind of an object, with each use behind its guard. -/
def kindLevel (members : Json.Members) : Except Failure Kind :=
  let tag := (members.get? tagField).getD .null
  if isTag tag then do
    let kind ← kindOf tag
    let unknown := (members.map (·.1)).filter fun name =>
      name != tagField && (kind.field? name).isNone
    if unknown.isEmpty then pure kind
    else refuse (.unknownFields kind (unknown.mergeSort fun first second => first ≤ second))
  else refuse (.unknownKind tag)

/-- The content of a member under its name. -/
def memberLevel (below : Json → Except Failure Tree) (kind : Kind) (member : String × Json) :
    Except Failure (String × Content) := do
  let field ← fieldOf kind member.1
  let content ← fieldLevel below kind field member.2
  pure (member.1, content)

/-- The tree that a value encodes, with each use behind its guard. -/
def decodeLevel (below : Json → Except Failure Tree) (value : Json) : Except Failure Tree :=
  if isObject value then do
    let members ← membersOf value
    let kind ← kindLevel members
    let fields := members.filter fun member => member.1 != tagField
    let contents ← fields.mapM (memberLevel below kind)
    match nodeOf kind contents with
    | .ok tree => pure tree
    | .error cause => refusing [.type] (.incomplete kind cause) (.error (.ofCall cause))
  else refuse (.notAnObject value.typeName)

/-- The tree that a value encodes, or the failure that is reported. -/
def decodeReported (value : Json) : Except Failure Tree := (decode value).mapError .ofDecode

variable {kind : Kind} {field : Field}

/-- Steps whose refusals are reported are refused together as they are one by one. -/
theorem mapM_mapError {ε ε' α β : Type} (report : ε → ε') (step : α → Except ε β)
    (values : List α) :
    (values.mapM fun value => (step value).mapError report) =
      (values.mapM step).mapError report := by
  induction values with
  | nil => rfl
  | cons value rest hypothesis =>
    rw [List.mapM_cons, List.mapM_cons, hypothesis]
    cases step value with
    | error cause => rfl
    | ok first => cases rest.mapM step <;> rfl

/-- A field is decoded behind its guards. -/
theorem fieldLevel_decodeReported (kind : Kind) (field : Field) (value : Json) :
    fieldLevel decodeReported kind field value =
      (decodeField kind field value).mapError .ofDecode := by
  obtain ⟨name, type⟩ := field
  cases type with
  | many element =>
    cases value with
    | arr items =>
      have together : items.mapM decodeReported = (decodeAll items).mapError .ofDecode := by
        rw [decodeAll_eq, ← mapM_mapError]
        rfl
      simp only [fieldLevel, isList, if_true, partsOf, decodeField]
      change (items.mapM decodeReported >>= _) = _
      rw [together]
      cases decodeAll items <;> rfl
    | _ => rfl
  | one element =>
    cases value with
    | obj members =>
      simp only [fieldLevel, decodeField, isObject, if_true, decodeReported]
      cases decode (.obj members) <;> rfl
    | _ => rfl
  | metadata => cases value <;> rfl
  | moment =>
    cases value with
    | scalar value =>
      cases value with
      | text text =>
        simp only [fieldLevel, momentOf, decodeField, decodeAttribute]
        cases Timestamp.parse? text <;> rfl
      | _ => rfl
    | _ => rfl
  | words =>
    cases value with
    | arr items =>
      simp only [fieldLevel, isList, if_true, partsOf, decodeField, decodeAttribute]
      change (match texts? items with | some words => _ | none => _) = _
      cases texts? items <;> rfl
    | _ => rfl
  | text =>
    cases value with
    | scalar value => cases value <;> rfl
    | _ => rfl

/-- Members that are all fields are decoded behind their guards. -/
theorem fieldsLevel_decodeReported {kind : Kind} {members : Json.Members}
    (known : ∀ member ∈ members, (kind.field? member.1).isSome = true) :
    members.mapM (memberLevel decodeReported kind) =
      (decodeFields kind members).mapError .ofDecode := by
  induction members with
  | nil => rfl
  | cons member rest hypothesis =>
    obtain ⟨name, value⟩ := member
    obtain ⟨here, later⟩ := List.forall_mem_cons.1 known
    obtain ⟨field, found⟩ := Option.isSome_iff_exists.1 here
    rw [List.mapM_cons, hypothesis later, decodeFields_of_field found]
    simp only [memberLevel, fieldOf, found]
    change ((fieldLevel decodeReported kind field value >>= _) >>= _) = _
    rw [fieldLevel_decodeReported]
    cases decodeField kind field value with
    | error cause => rfl
    | ok content => cases decodeFields kind rest <;> rfl

/-- The member with the tag is no field. -/
theorem decodeFields_others (kind : Kind) (members : Json.Members) :
    decodeFields kind (members.filter fun member => member.1 != tagField) =
      decodeFields kind members := by
  induction members with
  | nil => rfl
  | cons member rest hypothesis =>
    obtain ⟨name, value⟩ := member
    by_cases isTag : name = tagField
    · rw [List.filter_cons, if_neg (by simpa using isTag), hypothesis,
        decodeFields_of_none (isTag ▸ kind.field?_tagField)]
    · rw [List.filter_cons, if_pos (by simpa using isTag)]
      cases known : kind.field? name with
      | none => rw [decodeFields_of_none known, decodeFields_of_none known, hypothesis]
      | some field => rw [decodeFields_of_field known, decodeFields_of_field known, hypothesis]

/-- The kind of an object is found behind its guards. -/
theorem kindLevel_eq (members : Json.Members) :
    kindLevel members = (decodeKind members).mapError .ofDecode := by
  rw [kindLevel, decodeKind]
  cases (members.get? tagField).getD .null with
  | scalar value =>
    cases value with
    | text text =>
      simp only [isTag, kindOf]
      rcases Option.eq_none_or_eq_some (Kind.ofTag? text) with none | ⟨kind, found⟩
      · simp only [none]
        rfl
      · simp only [found, Option.isSome_some, if_true]
        change (if _ then _ else _) = _
        split <;> rfl
    | _ => rfl
  | _ => rfl

/-- The decoder solves the equation of one level: behind the guards no use fails by misuse. -/
theorem decodeLevel_decodeReported (value : Json) :
    decodeLevel decodeReported value = decodeReported value := by
  cases value with
  | obj members =>
    simp only [decodeLevel, isObject, if_true, membersOf, decodeReported, decode]
    change (kindLevel members >>= _) = _
    rw [kindLevel_eq]
    cases found : decodeKind members with
    | error cause => rfl
    | ok kind =>
      have known : ∀ member ∈ members.filter fun member => member.1 != tagField,
          (kind.field? member.1).isSome = true := by
        intro member inside
        obtain ⟨listed, notTag⟩ := List.mem_filter.1 inside
        rw [isSome_field?]
        exact ((decodeKind_eq_ok.1 found).2 member listed).resolve_left (bne_iff_ne.1 notTag)
      change (List.mapM (m := Except Failure) _ _ >>= _) = _
      rw [fieldsLevel_decodeReported known, decodeFields_others]
      change _ = Except.mapError _ (decodeFields kind members >>= _)
      cases decodeFields kind members with
      | error cause => rfl
      | ok contents =>
        change (match nodeOf kind contents with | .ok tree => _ | .error cause => _) =
          (kind.assemble? contents).mapError _
        rw [nodeOf, Kind.assemble?]
        cases kind.signature.bind [] contents <;> rfl
  | _ => rfl

/-- Steps that agree on all values agree on the values in turn. -/
theorem mapM_congr {ε α β : Type} {first second : α → Except ε β} {values : List α}
    (each : ∀ value ∈ values, first value = second value) :
    values.mapM first = values.mapM second := by
  induction values with
  | nil => rfl
  | cons value rest hypothesis =>
    obtain ⟨here, later⟩ := List.forall_mem_cons.1 each
    rw [List.mapM_cons, List.mapM_cons, here, hypothesis later]

/-- The content of a field depends only on what is decoded from the value and from its items. -/
theorem fieldLevel_congr {first second : Json → Except Failure Tree} (kind : Kind) (field : Field)
    {value : Json} (single : first value = second value)
    (list : ∀ items, value = .arr items → ∀ item ∈ items, first item = second item) :
    fieldLevel first kind field value = fieldLevel second kind field value := by
  obtain ⟨name, type⟩ := field
  cases type with
  | many element =>
    cases value with
    | arr items =>
      simp only [fieldLevel, isList, if_true, partsOf]
      change (items.mapM first >>= _) = (items.mapM second >>= _)
      rw [mapM_congr (list items rfl)]
    | _ => rfl
  | one element => simp only [fieldLevel, single]
  | _ => rfl

/-- Whatever solves the equation of one level is the decoder. -/
theorem eq_decodeReported {reading : Json → Except Failure Tree}
    (solves : ∀ part, decodeLevel reading part = reading part) (value : Json) :
    reading value = decodeReported value := by
  suffices general : reading value = decodeReported value ∧
      ∀ items, value = .arr items → ∀ item ∈ items, reading item = decodeReported item from
    general.1
  induction value using Json.induction with
  | scalar value => exact ⟨(solves _).symm, fun items none => nomatch none⟩
  | arr items hypothesis =>
    refine ⟨(solves _).symm, ?_⟩
    rintro others ⟨⟩ item member
    exact (hypothesis item member).1
  | obj members hypothesis =>
    refine ⟨?_, fun items none => nomatch none⟩
    have same (kind : Kind) : ∀ member ∈ members.filter fun member => member.1 != tagField,
        memberLevel reading kind member = memberLevel decodeReported kind member := by
      intro member inside
      obtain ⟨single, list⟩ := hypothesis member (List.mem_filter.1 inside).1
      simp only [memberLevel, fieldLevel_congr kind _ single list]
    rw [← solves, ← decodeLevel_decodeReported]
    change (kindLevel members >>= _) = (kindLevel members >>= _)
    cases kindLevel members with
    | error failure => rfl
    | ok kind =>
      change (List.mapM (m := Except Failure) _ _ >>= _) =
        (List.mapM (m := Except Failure) _ _ >>= _)
      rw [mapM_congr (same kind)]

/-- A tree is reported if there is one. -/
theorem decodeReported_isOk_iff {value : Json} :
    (∃ tree, decodeReported value = .ok tree) ↔ ∃ tree, decode value = .ok tree := by
  rw [decodeReported]
  cases decode value <;> simp [Except.mapError]

/-- A value in which no object repeats a name is decoded exactly if it encodes a tree. In every
other case decoding ends with a serialization error, and with nothing else: written with every
use of a value behind its guard, where a use without one fails by misuse, the decoder is the one
solution. -/
theorem decode_accepts_grammar {value : Json} (distinct : value.Distinct) :
    ((∃ tree, decodeReported value = .ok tree) ↔ Encodes value) ∧
    (¬Encodes value → ∃ failure, decodeReported value = .error failure ∧
      failure.failureClass = .own .serialization) ∧
    ∀ reading : Json → Except Failure Tree,
      (∀ part, decodeLevel reading part = reading part) ↔ reading = decodeReported := by
  have accepted := decode_byGrammar distinct
  refine ⟨decodeReported_isOk_iff.trans accepted, fun rejected => ?_,
    fun reading => ⟨fun solves => funext (eq_decodeReported solves), ?_⟩⟩
  · cases decoded : decode value with
    | error cause => exact ⟨.ofDecode cause, by rw [decodeReported, decoded]; rfl, rfl⟩
    | ok tree => exact absurd (accepted.1 ⟨tree, decoded⟩) rejected
  · rintro rfl
    exact decodeLevel_decodeReported

/-- A document with a definition of which only some parts are given. -/
def documentDefining (parts : Json.Members) : Json :=
  .obj
    [("children", .arr
        [.obj
          [("node_type", .str "section"),
            ("title", .obj
              [("node_type", .str "definition_list"),
                ("items", .arr [.obj (("node_type", .str "definition") :: parts)])])]]),
      ("node_type", .str "document")]

/-- The term of a definition. -/
def givenTerm : String × Json := ("term", .obj [("text", .str "t"), ("node_type", .str "text")])

/-- The body of a definition: a document of its own. -/
def givenBody : String × Json := ("definition", .obj [("node_type", .str "document")])

/-- A definition is accepted with both of its parts, and refused for what it is without one of them.
-/
theorem decode_accepts_definition :
    ((documentDefining [givenBody, givenTerm]).Distinct ∧
      Encodes (documentDefining [givenBody, givenTerm]) ∧
      ∃ tree, decodeReported (documentDefining [givenBody, givenTerm]) = .ok tree) ∧
    (documentDefining [givenTerm]).Distinct ∧ ¬Encodes (documentDefining [givenTerm]) ∧
      ∃ failure, decodeReported (documentDefining [givenTerm]) = .error failure ∧
        failure.failureClass = .own .serialization := by
  have whole : (documentDefining [givenBody, givenTerm]).Distinct := by decide
  have half : (documentDefining [givenTerm]).Distinct := by decide
  obtain ⟨accepts, -⟩ := decode_accepts_grammar whole
  obtain ⟨accepted, rejects, -⟩ := decode_accepts_grammar half
  have found : ∃ tree, decodeReported (documentDefining [givenBody, givenTerm]) = .ok tree :=
    ⟨_, rfl⟩
  have rejected : ¬Encodes (documentDefining [givenTerm]) := by
    rw [← accepted]
    rintro ⟨tree, reported⟩
    cases reported
  exact ⟨⟨whole, accepts.1 found, found⟩, half, rejected, rejects rejected⟩

end Folio.Tree
