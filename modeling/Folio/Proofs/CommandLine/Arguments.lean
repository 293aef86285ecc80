import Folio.CommandLine.Arguments
import Folio.Proofs.Signature
import Mathlib.Tactic.SplitIfs

/-!
# Options that a command does not have

However an option is written, attached to its value or not, abbreviated or among other
letters, it is looked up in the table of the command. So a command line sets no parameter that
the table of its command lacks; and only one command has a parameter for an output file.
-/

namespace Folio.CommandLine

/-- One of the options in the table is for the parameter. -/
def OptionTable.Offers (table : OptionTable) (parameter : Parameter) : Prop :=
  ∃ entry ∈ table, entry.2 = .parameter parameter

instance (table : OptionTable) (parameter : Parameter) : Decidable (table.Offers parameter) :=
  inferInstanceAs (Decidable (∃ entry ∈ table, entry.2 = .parameter parameter))

/-- An option that a name stands for is in the table. -/
theorem OptionTable.offers_of_kind? {table : OptionTable} {name : String} {parameter : Parameter}
    (found : table.kind? name = some (.parameter parameter)) : table.Offers parameter := by
  obtain ⟨entry, here, kind⟩ := Option.map_eq_some_iff.1 found
  exact ⟨entry, List.mem_of_find?_eq_some here, kind⟩

/-- The parameter for which there is a value, here or in the next word. -/
def Asked.parameter? : Asked → Option Parameter
  | .value _ parameter _ => some parameter
  | .next _ parameter => some parameter
  | _ => none

/-- The parameter that a token sets. -/
def Token.parameter? : Token → Option Parameter
  | .option asked => asked.parameter?
  | _ => none

/-- What an option asks for is what it is. -/
theorem Asked.parameter?_ofOption {kind : OptionKind} {attached : Option String}
    {parameter : Parameter} (asks : (ofOption kind attached).parameter? = some parameter) :
    kind = .parameter parameter := by
  cases kind with
  | flag flag => cases attached <;> cases asks
  | parameter own => cases attached <;> cases asks <;> rfl

@[simp] theorem Asked.parameter?_after (flag : Flag) (asked : Asked) :
    (asked.after flag).parameter? = asked.parameter? := by
  cases asked <;> rfl

variable {table : OptionTable} {parameter : Parameter}

/-- Letters in one word set no parameter that the table lacks. -/
theorem Asked.offers_ofLetters {flag : Flag} {letters : List Char}
    (asks : (ofLetters table flag letters).parameter? = some parameter) :
    table.Offers parameter := by
  induction letters generalizing flag with
  | nil => cases asks
  | cons letter rest hypothesis =>
    rw [ofLetters] at asks
    split_ifs at asks with special
    · cases asks
    · cases kind : table.kind? (String.ofList ['-', letter]) with
      | none =>
        rw [kind] at asks
        cases asks
      | some found =>
        cases found with
        | flag further =>
          rw [kind] at asks
          simp only [parameter?_after] at asks
          exact hypothesis asks
        | parameter own =>
          have same : own = parameter := by
            rw [kind] at asks
            simp only at asks
            split at asks <;> simpa [Asked.parameter?] using asks
          exact OptionTable.offers_of_kind? (same ▸ kind)

/-- A word that names no option sets no parameter. -/
theorem Token.parameter?_ofNameless (word : String) : (ofNameless word).parameter? = none := by
  rw [ofNameless]
  split_ifs <;> rfl

/-- An abbreviation sets no parameter that the table lacks. -/
theorem Token.offers_ofAbbreviation {word : String}
    (asks : (ofAbbreviation table word).parameter? = some parameter) : table.Offers parameter := by
  rw [ofAbbreviation] at asks
  dsimp only at asks
  split at asks
  · rw [parameter?_ofNameless] at asks
    cases asks
  · rename_i name kind only
    have member : (name, kind) ∈ table :=
      (List.mem_filter.1 (only ▸ List.mem_singleton_self _)).1
    exact ⟨_, member, Asked.parameter?_ofOption asks⟩
  · cases asks

/-- A letter sets no parameter that the table lacks. -/
theorem Token.offers_ofLetter {word : String} {letter : Char} {rest : List Char}
    (asks : (ofLetter table word letter rest).parameter? = some parameter) :
    table.Offers parameter := by
  rw [ofLetter] at asks
  cases kind : table.kind? (String.ofList ['-', letter]) with
  | none =>
    rw [kind, parameter?_ofNameless] at asks
    cases asks
  | some found =>
    rw [kind] at asks
    cases found with
    | flag flag => exact Asked.offers_ofLetters asks
    | parameter own =>
      obtain rfl : own = parameter := Option.some.inj asks
      exact OptionTable.offers_of_kind? kind

/-- No word sets a parameter that the table lacks. -/
theorem Token.offers_ofWord {word : String}
    (asks : (ofWord table word).parameter? = some parameter) : table.Offers parameter := by
  rw [ofWord] at asks
  split at asks
  · cases asks
  · cases whole : table.kind? word with
    | some kind =>
      simp only [whole] at asks
      exact OptionTable.offers_of_kind? (Asked.parameter?_ofOption asks ▸ whole)
    | none =>
      cases named : table.kind? (String.ofList (cutAtEquals word.toList).1) with
      | some kind =>
        simp only [whole, named] at asks
        exact OptionTable.offers_of_kind? (Asked.parameter?_ofOption asks ▸ named)
      | none =>
        simp only [whole, named] at asks
        split_ifs at asks
        · exact offers_ofAbbreviation asks
        · exact offers_ofLetter asks
  · cases asks

/-- No token sets a parameter that the table lacks. -/
theorem offers_of_mem_tokens {words : List String} {token : Token}
    (member : token ∈ tokens table words) (asks : token.parameter? = some parameter) :
    table.Offers parameter := by
  induction words with
  | nil => simp [tokens] at member
  | cons word rest hypothesis =>
    rw [tokens] at member
    split at member
    · rcases List.mem_cons.1 member with rfl | operand
      · cases asks
      · obtain ⟨text, -, rfl⟩ := List.mem_map.1 operand
        cases asks
    · rcases List.mem_cons.1 member with rfl | later
      · exact Token.offers_ofWord asks
      · exact hypothesis later

/-- The value of a parameter, if it has been set. -/
def Given.value? (given : Given) : Parameter → Option String
  | .config => given.config
  | .logLevel => given.logLevel
  | .logFile => given.logFile
  | .output => given.output

/-- A flag sets no parameter. -/
theorem Given.value?_setFlag {given after : Given} {flag : Flag}
    (set : given.setFlag flag = .ok after) (parameter : Parameter) :
    after.value? parameter = given.value? parameter := by
  cases flag <;> cases set <;> cases parameter <;> rfl

/-- A parameter sets no other. -/
theorem Given.value?_setParameter {given after : Given} {own : Parameter} {text : String}
    (set : given.setParameter own text = .ok after) (differs : own ≠ parameter) :
    after.value? parameter = given.value? parameter := by
  cases own with
  | logLevel =>
    rw [setParameter] at set
    split_ifs at set
    cases set
    cases parameter <;> first | rfl | exact absurd rfl differs
  | _ => cases set; cases parameter <;> first | rfl | exact absurd rfl differs

/-- Flags set no parameter. -/
theorem Reading.value?_setFlags {reading after : Reading} {flags : List Flag}
    (set : reading.setFlags flags = .ok after) (parameter : Parameter) :
    after.given.value? parameter = reading.given.value? parameter := by
  have general : ∀ (flags : List Flag) {before given : Given},
      flags.foldlM Given.setFlag before = .ok given →
      given.value? parameter = before.value? parameter := by
    intro flags
    induction flags with
    | nil =>
      intro before given all
      cases all
      rfl
    | cons flag rest hypothesis =>
      intro before given all
      rw [List.foldlM_cons] at all
      obtain ⟨next, first, later⟩ := bind_eq_ok.1 all
      rw [hypothesis later, Given.value?_setFlag first]
  rw [setFlags] at set
  cases all : flags.foldlM Given.setFlag reading.given with
  | error stop =>
    rw [all] at set
    cases set
  | ok given =>
    rw [all] at set
    cases set
    exact general flags all

/-- Flags and a parameter set no other parameter. -/
theorem Reading.value?_setAll {reading after : Reading} {flags : List Flag} {own : Parameter}
    {text : String} (set : reading.setAll flags own text = .ok after) (differs : own ≠ parameter) :
    after.given.value? parameter = reading.given.value? parameter := by
  obtain ⟨flagged, first, later⟩ := bind_eq_ok.1 set
  obtain ⟨given, second, last⟩ := bind_eq_ok.1 later
  cases last
  rw [Given.value?_setParameter second differs, value?_setFlags first]

/-- Consumed tokens leave alone a parameter that none of them sets. -/
theorem value?_consume {wanted : List (String → Bool)} {justTaken : Bool}
    {reading after : Reading} {found : List Token}
    (consumed : consume wanted justTaken reading found = .ok after)
    (unset : ∀ token ∈ found, token.parameter? ≠ some parameter) :
    after.given.value? parameter = reading.given.value? parameter := by
  fun_induction consume wanted justTaken reading found with
  | case1 | case4 | case8 | case10 | case12 | case15 | case16 => cases consumed
  | case2 =>
    cases consumed
    rfl
  | case3 | case5 | case6 | case7 | case14 =>
    rename_i hypothesis
    exact hypothesis consumed (List.forall_mem_cons.1 unset).2
  | case9 _ _ before flags complete rest next set hypothesis =>
    have later := hypothesis consumed (List.forall_mem_cons.1 unset).2
    have kept := Reading.value?_setFlags set parameter
    cases complete <;> exact later.trans kept
  | case11 _ _ before flags own text rest next set hypothesis =>
    obtain ⟨here, later⟩ := List.forall_mem_cons.1 unset
    have differs : own ≠ parameter := fun same => here (congrArg some same)
    exact (hypothesis consumed later).trans (Reading.value?_setAll set differs)
  | case13 _ _ before flags own text rest next set hypothesis =>
    obtain ⟨here, later⟩ := List.forall_mem_cons.1 unset
    have differs : own ≠ parameter := fun same => here (congrArg some same)
    have behind := hypothesis consumed (List.forall_mem_cons.1 later).2
    exact behind.trans (Reading.value?_setAll set differs)

/-- Whatever stands before a command, its words are what it reads. -/
theorem readFrom_command {extra : Bool} {words : List String} {invocation : Invocation}
    (asked : readFrom extra words = .ok invocation) :
    ∃ (command : Command) (rest : List String), command.read rest = .ok invocation := by
  induction words generalizing extra with
  | nil => cases asked
  | cons word rest hypothesis =>
    rw [readFrom] at asked
    split at asked
    · exact hypothesis asked
    · cases asked
    · cases asked
    · split at asked
      · cases asked
      · rename_i command _
        split at asked
        · cases asked
        · rename_i found
          split_ifs at asked
          obtain rfl := Except.ok.inj asked
          exact ⟨command, rest, found⟩
    · cases asked

/-- An invocation is what a command makes of its words. -/
theorem read_command {words : List String} {invocation : Invocation}
    (asked : read words = .ok invocation) :
    ∃ (command : Command) (rest : List String), command.read rest = .ok invocation := by
  rw [read] at asked
  split_ifs at asked
  exact readFrom_command asked

/-- What a command does with its operands is its own task, with the options it has read. -/
theorem Command.invocation?_spec {command : Command} {reading : Reading}
    {invocation : Invocation} (made : command.invocation? reading = some invocation) :
    invocation.given = reading.given ∧
      (command = .references → invocation.task = .references) := by
  rw [invocation?.eq_def] at made
  split at made
  · cases made
    exact ⟨rfl, fun other => by cases other⟩
  · cases made
    exact ⟨rfl, fun other => by cases other⟩
  · cases made
    exact ⟨rfl, fun _ => rfl⟩
  · obtain ⟨kind, -, rfl⟩ := Option.map_eq_some_iff.1 made
    exact ⟨rfl, fun other => by cases other⟩
  · cases made

/-- Only a command that gives references writes to a file named for it. -/
theorem output_eq_none {words : List String} {invocation : Invocation}
    (asked : read words = .ok invocation) (other : invocation.task ≠ .references) :
    invocation.given.output = none := by
  obtain ⟨command, rest, asked⟩ := read_command asked
  rw [Command.read] at asked
  split_ifs at asked
  split at asked
  · cases asked
  · rename_i reading consumed
    split at asked
    · rename_i found made
      obtain rfl := Except.ok.inj asked
      obtain ⟨given, task⟩ := Command.invocation?_spec made
      have lacks : ¬ command.options.Offers .output := by
        cases command with
        | references => exact absurd (task rfl) other
        | _ => decide
      have unset : ∀ token ∈ tokens command.options rest, token.parameter? ≠ some .output :=
        fun token member asks => lacks (offers_of_mem_tokens member asks)
      rw [given]
      exact value?_consume consumed unset
    · cases asked

end Folio.CommandLine
