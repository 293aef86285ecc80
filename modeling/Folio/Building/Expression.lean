import Folio.Building.Factory

/-!
# Factory expressions

An expression is a nested application of factories to plain values, nodes and lists. Its
value is found from the inside out and from left to right.
-/

namespace Folio.Building

/-- A nested application of factories. -/
inductive Expression where
  | plain (value : Json)
  | node (tree : Tree)
  | encoded (value : Json)
  | list (items : List Expression)
  | call (factory : String) (arguments : List Expression)
      (named : List (String × Expression))
  deriving Inhabited, Repr

namespace Expression

mutual

/-- The value of an expression. -/
def evaluate : Expression → Except BuildError Argument
  | .plain value => .ok (.plain value)
  | .node tree => .ok (.tree tree)
  | .encoded value =>
    match Tree.decode value with
    | .ok tree => .ok (.tree tree)
    | .error cause => .error (.notEncoded cause)
  | .list items => do
    let values ← evaluateAll items
    pure (.list values)
  | .call name arguments named => do
    let values ← evaluateAll arguments
    let others ← evaluateNamed named
    match Factory.ofName? name with
    | none => .error (.unknownFactory name)
    | some factory => do
      let tree ← factory.apply values others
      pure (.tree tree)

/-- The values of several expressions. -/
def evaluateAll : List Expression → Except BuildError (List Argument)
  | [] => .ok []
  | expression :: rest => do
    let value ← evaluate expression
    let others ← evaluateAll rest
    pure (value :: others)

/-- The values of expressions that are given by name. -/
def evaluateNamed : List (String × Expression) → Except BuildError (List (String × Argument))
  | [] => .ok []
  | (name, expression) :: rest => do
    let value ← evaluate expression
    let others ← evaluateNamed rest
    pure ((name, value) :: others)

end

mutual

/-- The expression that a value stands for: a list whose first item is a factory's name is a
call, an object under `node` an encoded node, one under `list` a list; all else is plain. -/
def ofJson : Json → Expression
  | .arr (.str name :: arguments) =>
    let (given, named) := ofJsonArguments arguments
    .call name given named
  | .obj [("node", value)] => .encoded value
  | .obj [("list", .arr items)] => .list (ofJsonItems items)
  | value => .plain value

/-- The expressions that the items of a list stand for. -/
def ofJsonItems : List Json → List Expression
  | [] => []
  | item :: rest => ofJson item :: ofJsonItems rest

/-- The arguments of a call, by position and by name. -/
def ofJsonArguments : List Json → List Expression × List (String × Expression)
  | [] => ([], [])
  | [.obj [("kw", .obj members)]] => ([], ofJsonMembers members)
  | item :: rest =>
    let (given, named) := ofJsonArguments rest
    (ofJson item :: given, named)

/-- The arguments that are given by name. -/
def ofJsonMembers : List (String × Json) → List (String × Expression)
  | [] => []
  | (name, value) :: rest => (name, ofJson value) :: ofJsonMembers rest

end

end Expression

end Folio.Building
