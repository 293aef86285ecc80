import Folio.Proofs.Building.Factories
import Folio.Proofs.Validation.Operations

/-!
# Values of factory expressions

Every expression that stands for a node has a value: a well-formed node with the words of the
expression as its text. The expression, its role and its words are sorted to the parameters of
a factory in the same way, so a reading of the arguments can be bound once for all three; then
`builds_of_takes` makes one step, and an induction on the expression goes through all of them.
-/

namespace Folio.Building.Expression

/-- The value of an expression, with what it stands for and its words. -/
structure Reads (expression : Expression) (reading : Reading) : Prop where
  evaluate : expression.evaluate = .ok reading.argument
  role : expression.role? = some reading.role
  words : expression.words = reading.words

/-- Expressions with roles that have readings can be read together. -/
theorem exists_readings {expressions : List Expression} {roles : List Role}
    (each : ∀ expression ∈ expressions, ∀ role, expression.role? = some role →
      ∃ reading, expression.Reads reading)
    (isRoles : roles? expressions = some roles) :
    ∃ readings : List Reading, roles = readings.map Reading.role ∧
      evaluateAll expressions = .ok (readings.map Reading.argument) ∧
      wordsAll expressions = readings.map Reading.words := by
  induction expressions generalizing roles with
  | nil =>
    obtain rfl := Option.some.inj isRoles
    exact ⟨[], rfl, rfl, rfl⟩
  | cons expression rest hypothesis =>
    obtain ⟨here, later⟩ := List.forall_mem_cons.1 each
    obtain ⟨role, isRole, isOthers⟩ := Option.bind_eq_some_iff.1 isRoles
    obtain ⟨others, areOthers, isAll⟩ := Option.bind_eq_some_iff.1 isOthers
    obtain rfl := Option.some.inj isAll
    obtain ⟨reading, reads⟩ := here role isRole
    obtain ⟨readings, rfl, values, words⟩ := hypothesis later areOthers
    obtain rfl := Option.some.inj (isRole.symm.trans reads.role)
    refine ⟨reading :: readings, rfl, ?_, ?_⟩
    · rw [evaluateAll, reads.evaluate, values]
      rfl
    · rw [wordsAll, reads.words, words, List.map_cons]

/-- Expressions that are given by name can be read together in the same way. -/
theorem exists_namedReadings {named : List (String × Expression)} {roles : List (String × Role)}
    (each : ∀ entry ∈ named, ∀ role, entry.2.role? = some role →
      ∃ reading, entry.2.Reads reading)
    (isRoles : namedRoles? named = some roles) :
    ∃ readings : List (String × Reading), roles = readings.map (Prod.map id Reading.role) ∧
      evaluateNamed named = .ok (readings.map (Prod.map id Reading.argument)) ∧
      wordsNamed named = readings.map (Prod.map id Reading.words) := by
  induction named generalizing roles with
  | nil =>
    obtain rfl := Option.some.inj isRoles
    exact ⟨[], rfl, rfl, rfl⟩
  | cons entry rest hypothesis =>
    obtain ⟨name, expression⟩ := entry
    obtain ⟨here, later⟩ := List.forall_mem_cons.1 each
    obtain ⟨role, isRole, isOthers⟩ := Option.bind_eq_some_iff.1 isRoles
    obtain ⟨others, areOthers, isAll⟩ := Option.bind_eq_some_iff.1 isOthers
    obtain rfl := Option.some.inj isAll
    obtain ⟨reading, reads⟩ := here role isRole
    obtain ⟨readings, rfl, values, words⟩ := hypothesis later areOthers
    obtain rfl := Option.some.inj (isRole.symm.trans reads.role)
    refine ⟨(name, reading) :: readings, rfl, ?_, ?_⟩
    · rw [evaluateNamed, reads.evaluate, values]
      rfl
    · rw [wordsNamed, reads.words, words, List.map_cons, Prod.map_apply, id_eq]

/-- A call of a factory whose arguments, sorted to the parameters, are what the factory takes. -/
structure Calls (name : String) (arguments : List Expression)
    (named : List (String × Expression)) (factory : Factory) (bound : Bound Reading) :
    Prop where
  isFactory : Factory.ofName? name = some factory
  values : ∃ values others, evaluateAll arguments = .ok values ∧ evaluateNamed named = .ok others ∧
    factory.signature.bind values others = .ok (bound.map Reading.argument)
  words : factory.signature.bind (wordsAll arguments) (wordsNamed named) =
    .ok (bound.map Reading.words)
  takes : factory.takes (bound.map Reading.role) = true

section Call

variable {name : String} {arguments : List Expression} {named : List (String × Expression)}

/-- Calls with a role are calls of a factory with what it takes. -/
theorem exists_calls {role : Role}
    (each : ∀ argument ∈ arguments, ∀ role, argument.role? = some role →
      ∃ reading, argument.Reads reading)
    (eachNamed : ∀ entry ∈ named, ∀ role, entry.2.role? = some role →
      ∃ reading, entry.2.Reads reading)
    (isRole : (call name arguments named).role? = some role) :
    ∃ factory bound, Calls name arguments named factory bound ∧ role = .node factory.kind := by
  rw [role?] at isRole
  obtain ⟨roles, areRoles, isRole⟩ := Option.bind_eq_some_iff.1 isRole
  obtain ⟨others, areOthers, isRole⟩ := Option.bind_eq_some_iff.1 isRole
  obtain ⟨factory, isFactory, isRole⟩ := Option.bind_eq_some_iff.1 isRole
  obtain ⟨sorted, isSorted, isRole⟩ := Option.bind_eq_some_iff.1 isRole
  obtain ⟨readings, rfl, values, words⟩ := exists_readings each areRoles
  obtain ⟨namedReadings, rfl, namedValues, namedWords⟩ := exists_namedReadings eachNamed areOthers
  -- What is bound of the roles, the values and the words is what is bound of the readings.
  rw [Signature.bind_map] at isSorted
  cases isBound : factory.signature.bind readings namedReadings with
  | error cause =>
    rw [isBound] at isSorted
    cases isSorted
  | ok bound =>
    rw [isBound] at isSorted
    obtain rfl := Option.some.inj isSorted
    split at isRole
    · rename_i takes
      refine ⟨factory, bound, ⟨isFactory, ⟨_, _, values, namedValues, ?_⟩, ?_, takes⟩,
        (Option.some.inj isRole).symm⟩
      · rw [Signature.bind_map, isBound]
        rfl
      · rw [words, namedWords, Signature.bind_map, isBound]
        rfl
    · cases isRole

/-- The value of a call is what the factory builds. -/
theorem Calls.evaluate {factory : Factory} {bound : Bound Reading} {tree : Tree}
    (calls : Calls name arguments named factory bound)
    (build : factory.build (bound.map Reading.argument) = .ok tree) :
    (call name arguments named).evaluate = .ok (.tree tree) := by
  obtain ⟨values, others, areValues, areOthers, isBound⟩ := calls.values
  rw [Expression.evaluate, areValues, areOthers, calls.isFactory]
  change (factory.apply values others >>= _) = _
  rw [Factory.apply, isBound]
  change (factory.build _ >>= _) = _
  rw [build]
  rfl

end Call

/-- A plain value fits the role that is read off it. -/
theorem fits_ofPlain (value : Json) :
    Fits (.ofPlain value) (.plain value) (Expression.plain value).words := by
  cases value with
  | scalar value =>
    cases value with
    | text value => exact .text value
    | null => exact .null
    | _ => exact .value _
  | _ => exact .value _

/-- A node fits the role that is read off it, with its text for its words. -/
theorem fits_ofTree {tree : Tree} {role : Role} (isRole : Role.ofTree? tree = some role) :
    Fits role (.tree tree) tree.text := by
  obtain ⟨kind, isKind, isRole⟩ := Option.bind_eq_some_iff.1 isRole
  split at isRole
  · rename_i fine
    obtain rfl := Option.some.inj isRole
    obtain ⟨noDocument, valid⟩ := Bool.and_eq_true_iff.1 fine
    exact .node isKind (bne_iff_ne.1 noDocument)
      ((Contents.violations_eq_nil_iff isKind).1 (List.isEmpty_iff.1 valid)) rfl
  · cases isRole

/-- Expressions with a role can be read. -/
theorem exists_reading (expression : Expression) {role : Role}
    (isRole : expression.role? = some role) : ∃ reading, expression.Reads reading := by
  induction expression using Expression.induction generalizing role with
  | plain value => exact ⟨⟨_, _, _, fits_ofPlain value⟩, ⟨rfl, rfl, rfl⟩⟩
  | node tree => exact ⟨⟨_, _, _, fits_ofTree isRole⟩, ⟨rfl, isRole, rfl⟩⟩
  | encoded value =>
    obtain ⟨tree, isDecoded, isTree⟩ := Option.bind_eq_some_iff.1 isRole
    have decoded : Tree.decode value = .ok tree := by
      cases result : Tree.decode value with
      | error cause => simp [result, Except.toOption] at isDecoded
      | ok other => simpa [result, Except.toOption] using isDecoded
    refine ⟨⟨_, _, _, fits_ofTree isTree⟩, ⟨?_, isRole, ?_⟩⟩
    · rw [evaluate, decoded]
    · rw [words, decoded]
      rfl
  | list items hypothesis =>
    obtain ⟨roles, areRoles, isList⟩ := Option.map_eq_some_iff.1 isRole
    obtain ⟨readings, rfl, values, areWords⟩ :=
      exists_readings (fun item member _ => hypothesis item member) areRoles
    refine ⟨⟨_, _, _, .ofReadings readings⟩, ⟨?_, isList ▸ isRole, ?_⟩⟩
    · rw [evaluate, values]
      rfl
    · rw [words, areWords]
  | call name arguments named hypothesis namedHypothesis =>
    obtain ⟨factory, bound, calls, rfl⟩ := exists_calls
      (fun argument member _ => hypothesis argument member)
      (fun entry member _ => namedHypothesis entry member) isRole
    obtain ⟨tree, build, isKind, stands⟩ := builds_of_takes calls.takes
    have noDocument : factory.kind ≠ .document := by cases factory <;> decide
    refine ⟨⟨_, _, _, .node isKind noDocument stands.wellFormed stands.text_eq⟩,
      ⟨calls.evaluate build, isRole, ?_⟩⟩
    rw [words, calls.isFactory, Option.bind_eq_bind, Option.bind_some, calls.words]
    rfl

/-- An expression that stands for a node has such a node as its value, and it is no document.
Nothing is wrong with it, and its text is the words of the expression. If the expression is a
call, the factory was given the values of the arguments, and made one entry for each of them if
it builds lists or rows. -/
theorem evaluate_wellFormed {expression : Expression} {kind : Kind}
    (isNode : expression.role? = some (.node kind)) :
    ∃ tree, expression.evaluate = .ok (.tree tree) ∧
      tree.kind? = some kind ∧ tree.isA .node = true ∧
      tree.violations = [] ∧ tree.text = expression.words ∧
      ∀ name arguments named, expression = .call name arguments named →
        ∃ factory values others bound, Factory.ofName? name = some factory ∧
          kind = factory.kind ∧
          evaluateAll arguments = .ok values ∧ evaluateNamed named = .ok others ∧
          factory.signature.bind values others = .ok bound ∧
          (factory ∈ [Factory.orderedList, .unorderedList, .row] →
            LaidOut bound factory tree) := by
  obtain ⟨reading, reads⟩ := exists_reading expression isNode
  have isRole := Option.some.inj (reads.role.symm.trans isNode)
  obtain ⟨tree, isTree, isKind, stands⟩ := reading.tree_of_isNode isRole
  have value : expression.evaluate = .ok (.tree tree) := isTree ▸ reads.evaluate
  refine ⟨tree, value, isKind, stands.isA,
    (Contents.violations_eq_nil_iff isKind).2 stands.wellFormed,
    stands.text_eq.trans reads.words.symm, ?calls⟩
  case calls =>
    rintro name arguments named rfl
    obtain ⟨factory, bound, calls, isBuilt⟩ := exists_calls
      (fun argument _ _ => argument.exists_reading) (fun entry _ _ => entry.2.exists_reading) isNode
    obtain ⟨values, others, areValues, areOthers, isBound⟩ := calls.values
    obtain ⟨built, build, -⟩ := builds_of_takes calls.takes
    obtain rfl := Argument.tree.inj (Except.ok.inj ((calls.evaluate build).symm.trans value))
    exact ⟨factory, values, others, _, calls.isFactory, Role.node.inj isBuilt, areValues,
      areOthers, isBound, laidOut_of_build calls.takes build⟩

/-- A row between a header and a footer: two links, one without a label, a list one entry of which
is an item already, a definition, a block of code, a section with a figure, and a cell. -/
def mixedRow : Expression :=
  let text (value : String) : Expression := .plain (.str value)
  .call "row"
    [.call "ordered_list" [text "one ", .call "list_item" [text "two"] []] [],
      .call "definition_list" [.list [text " term", .call "bold" [text ": body "] []]] [],
      .call "code_block" [text "code"] [("language", text "python")],
      .call "section"
        [text " Title ", .call "figure" [text "file.png", text "caption"] [("alt", text "alt")]]
        [("reference", text "title")],
      .node (Tree.ofList .cell [Tree.ofText " cell"])]
    [("header", .list [text "above ", .call "web_link" [text "uri "] []]),
      ("footer", .list [.call "web_link" [text "uri", text " below"] []])]

/-- The row is well-formed and all that is said in it is its text, the header first. -/
theorem evaluate_wellFormed_mixedRow :
    mixedRow.role? = some (.node .row) ∧
    ∃ tree bound, mixedRow.evaluate = .ok (.tree tree) ∧ tree.violations = [] ∧
      tree.text = "above uri one two term: body code Title caption cell below" ∧
      LaidOut bound .row tree := by
  have isNode : mixedRow.role? = some (.node .row) := by rfl
  have words : mixedRow.words = "above uri one two term: body code Title caption cell below" := by
    decide
  obtain ⟨tree, value, -, -, valid, text, calls⟩ := evaluate_wellFormed isNode
  obtain ⟨factory, -, -, bound, isFactory, -, -, -, -, laidOut⟩ := calls _ _ _ rfl
  obtain rfl : .row = factory := Option.some.inj isFactory
  exact ⟨isNode, tree, bound, value, valid, text.trans words, laidOut (by decide)⟩

end Folio.Building.Expression
