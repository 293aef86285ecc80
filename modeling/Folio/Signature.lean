/-!
# Signatures

A signature says which arguments something that is built or called takes: by position or by
name, with or without a default, or any number of further ones. Binding sorts the given
arguments to the parameters and refuses what does not fit: first names that nothing takes,
then too many positions, then what is missing.
-/

namespace Folio

/-- The parameters of something that is called. -/
structure Signature where
  name : String
  receiver : Bool := false
  required : List String := []
  optional : List String := []
  namedOnly : List String := []
  rest : Bool := false
  others : Bool := false

/-- Arguments that do not fit a signature. -/
inductive CallError where
  | unexpectedName (callee name : String)
  | repeated (callee name : String)
  | tooMany (callee expected given : String) (one : Bool)
  | missing (callee : String) (names : List String)
  deriving DecidableEq, Repr, Inhabited

namespace CallError

/-- Names in quotes as an enumeration. -/
def enumeration : List String → String
  | [] => ""
  | [name] => s!"'{name}'"
  | [first, second] => s!"'{first}' and '{second}'"
  | [first, second, third] => s!"'{first}', '{second}', and '{third}'"
  | first :: rest => s!"'{first}', " ++ enumeration rest

/-- The wording of a call error. -/
def message : CallError → String
  | unexpectedName callee name => s!"{callee} got an unexpected keyword argument '{name}'"
  | repeated callee name => s!"{callee} got multiple values for argument '{name}'"
  | tooMany callee expected given one =>
    s!"{callee} takes {expected} but {given} " ++ (if one then "was" else "were") ++ " given"
  | missing callee names =>
    s!"{callee} missing {names.length} required positional argument" ++
      (if names.length == 1 then "" else "s") ++ ": " ++ enumeration names

end CallError

/-- Arguments sorted to the parameters of a signature. -/
structure Bound (α : Type) where
  values : List (String × α)
  rest : List α
  others : List (String × α)

/-- The argument of a parameter, if one was given. -/
def Bound.get? {α : Type} (bound : Bound α) (name : String) : Option α :=
  (bound.values.find? fun entry => entry.1 == name).map (·.2)

namespace Signature

/-- The parameters that positions can fill. -/
def positional (signature : Signature) : List String := signature.required ++ signature.optional

/-- An ending for all numbers but one. -/
def plural (count : Nat) : String := if count == 1 then "" else "s"

/-- The refusal of `given` arguments by position, with `named` of the parameters that only
take a name filled. -/
def tooMany (signature : Signature) (given named : Nat) : CallError :=
  let receiver := if signature.receiver then 1 else 0
  let most := signature.positional.length + receiver
  let expected :=
    if signature.optional.isEmpty then s!"{most} positional argument{plural most}"
    else s!"from {signature.required.length + receiver} to {most} positional arguments"
  let all := given + receiver
  .tooMany signature.name expected
    (if named == 0 then toString all
      else s!"{all} positional argument{plural all} (and {named} keyword-only " ++
        s!"argument{plural named})")
    (all == 1 && named == 0)

/-- Sort arguments given by name behind those already given by position. -/
def bindNames {α : Type} (signature : Signature) :
    Bound α → List (String × α) → Except CallError (Bound α)
  | bound, [] => .ok bound
  | bound, (name, value) :: rest =>
    if (signature.positional ++ signature.namedOnly).contains name then
      if (bound.get? name).isSome then .error (.repeated signature.name name)
      else bindNames signature { bound with values := bound.values ++ [(name, value)] } rest
    else if signature.others then
      bindNames signature { bound with others := bound.others ++ [(name, value)] } rest
    else .error (.unexpectedName signature.name name)

/-- Sort arguments to parameters. -/
def bind {α : Type} (signature : Signature) (arguments : List α)
    (named : List (String × α)) : Except CallError (Bound α) := do
  let places := signature.positional
  let bound ← bindNames signature
    { values := places.zip arguments, rest := arguments.drop places.length, others := [] } named
  if !signature.rest && places.length < arguments.length then
    let filled := bound.values.countP fun entry => signature.namedOnly.contains entry.1
    .error (signature.tooMany arguments.length filled)
  else
    let missing := signature.required.filter fun name => (bound.get? name).isNone
    if missing.isEmpty then .ok bound else .error (.missing signature.name missing)

end Signature

end Folio
