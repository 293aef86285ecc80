import Folio.Tree.Decoding

/-!
# Drafts

A draft is an encoded tree whose structural fields may hold anything: a list in the place of
one node, one node in the place of a list, or values that are no nodes. Drafts become trees
without any check, so that the checks of the library have something to find.
-/

namespace Folio.Tree

/-- The tag in a draft, if it is that of a kind. -/
def draftKind? (members : Json.Members) : Option Kind :=
  match members.get? tagField with
  | some (.str tag) => Kind.ofTag? tag
  | _ => none

mutual

/-- The tree of a draft; an object without a known tag is a stray value. -/
def ofDraft : Json → Except CallError Tree
  | .obj members =>
    match draftKind? members with
    | none => .ok (.stray (.obj members))
    | some kind => do
      let contents ← draftFields kind members
      let bound ← kind.signature.bind [] contents
      pure (kind.assemble bound.values)
  | other => .ok (.stray other)

/-- The contents of the fields of a draft. -/
def draftFields (kind : Kind) :
    List (String × Json) → Except CallError (List (String × Content))
  | [] => .ok []
  | (name, value) :: rest => do
    let others ← draftFields kind rest
    if name == tagField then pure others
    else
      let isStructural := (kind.field? name).any fun field => field.type.isStructural
      if isStructural then
        match value with
        | .arr items => do
          let trees ← draftAll items
          pure ((name, .slot (.many trees)) :: others)
        | single => do
          let tree ← ofDraft single
          pure ((name, .slot (.one tree)) :: others)
      else
        match (kind.field? name).map fun field => decodeAttribute kind field value with
        | some (.ok content) => pure ((name, content) :: others)
        | some (.error _) => pure others
        | none => pure ((name, .metadata []) :: others)

/-- The trees of several drafts. -/
def draftAll : List Json → Except CallError (List Tree)
  | [] => .ok []
  | value :: rest => do
    let tree ← ofDraft value
    let others ← draftAll rest
    pure (tree :: others)

end

end Folio.Tree
