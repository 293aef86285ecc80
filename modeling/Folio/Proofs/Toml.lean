import Folio.Proofs.Setting
import Folio.Toml.Document

/-!
# Tables in TOML

All keys that a TOML text can write are texts: readers put entries into tables under the names of
dotted keys only. So no table that has been read holds any other key, however its entries were
brought together.
-/

namespace Folio.Toml

open Setting

/-- Changing a table at the end of a key keeps all keys texts if the change does. -/
theorem named_changeTable {intoArrays : Bool} {change : Settings → Option Settings}
    (keeps : ∀ {entries changed : Settings}, Named (.table entries) →
      change entries = some changed → Named (.table changed))
    {key : Key} {entries result : Settings} (named : Named (.table entries))
    (changed : changeTable intoArrays change key entries = some result) :
    Named (.table result) := by
  induction key generalizing entries result with
  | nil => exact keeps named changed
  | cons name rest hypothesis =>
    rw [changeTable] at changed
    split at changed
    · obtain ⟨inner, step, same⟩ := Option.bind_eq_some_iff.1 changed
      obtain rfl := Option.some.inj same
      exact named.put (hypothesis (named_table.2 (by simp)) step)
    · rename_i inner found
      obtain ⟨new, step, same⟩ := Option.bind_eq_some_iff.1 changed
      obtain rfl := Option.some.inj same
      exact named.put (hypothesis (named.named? found) step)
    · rename_i items found
      have each := named_list.1 (named.named? found)
      split at changed
      · rename_i inner last
        obtain ⟨new, step, same⟩ := Option.bind_eq_some_iff.1 changed
        obtain rfl := Option.some.inj same
        have isNamed := hypothesis (each _ (List.mem_of_getLast? last)) step
        refine named.put (named_list.2 (List.forall_mem_append.2 ⟨fun item member => ?_, ?_⟩))
        · exact each item (List.dropLast_subset items member)
        · simpa using isNamed
      · cases changed
    · cases changed
    · cases changed

/-- A value under a new key leaves texts for keys. -/
theorem named_addNew {name : String} {value : Setting} (isNamed : value.Named)
    {entries changed : Settings} (named : Named (.table entries))
    (added : addNew name value entries = some changed) : Named (.table changed) := by
  rw [addNew] at added
  split at added
  · obtain rfl := Option.some.inj added
    exact named.append isNamed
  · cases added

/-- Pairs with such values make a table with texts for keys. -/
theorem named_inlineTable {pairs : List (Key × Setting)} (each : ∀ pair ∈ pairs, pair.2.Named)
    {entries result : Settings} {closed : List Key} (named : Named (.table entries))
    (made : inlineTable entries closed pairs = some result) : Named (.table result) := by
  induction pairs generalizing entries closed with
  | nil =>
    obtain rfl := Option.some.inj made
    exact named
  | cons pair rest hypothesis =>
    obtain ⟨first, others⟩ := List.forall_mem_cons.1 each
    rw [inlineTable] at made
    split at made
    · cases made
    · split at made
      · cases made
      · obtain ⟨changed, step, later⟩ := Option.bind_eq_some_iff.1 made
        exact hypothesis others (named_changeTable (named_addNew first) named step) later

/-- A number with a sign has no keys. -/
theorem named_readSigned {negative : Bool} {text rest : List Char} {value : Setting}
    (found : readSigned negative text = some (value, rest)) : value.Named := by
  rw [readSigned] at found
  cases decimal : readDecimal negative text with
  | some reading =>
    rw [decimal] at found
    obtain rfl : reading = (value, rest) := Option.some.inj found
    obtain ⟨whole, -, read⟩ := Option.bind_eq_some_iff.1 decimal
    dsimp only at read
    split at read <;> obtain ⟨rfl, -⟩ := Prod.mk.inj (Option.some.inj read) <;> exact .scalar _
  | none =>
    rw [decimal] at found
    change readSpecial negative text = _ at found
    rw [readSpecial.eq_def] at found
    split at found
    · obtain ⟨rfl, -⟩ := Prod.mk.inj (Option.some.inj found)
      exact .scalar _
    · obtain ⟨rfl, -⟩ := Prod.mk.inj (Option.some.inj found)
      exact .scalar _
    · cases found

/-- Nor has a number with a base. -/
theorem named_readBased {base : Nat} {negative : Bool} {text other rest : List Char}
    {value : Setting}
    (found : (readBased base text).orElse (fun _ => readSigned negative other) =
      some (value, rest)) : value.Named := by
  cases based : readBased base text with
  | none =>
    rw [based] at found
    exact named_readSigned found
  | some reading =>
    rw [based] at found
    obtain rfl : reading = (value, rest) := Option.some.inj found
    obtain ⟨digits, -, read⟩ := Option.bind_eq_some_iff.1 based
    obtain ⟨rfl, -⟩ := Prod.mk.inj (Option.some.inj read)
    exact .scalar _

/-- Nor has any number. -/
theorem named_readNumber {text rest : List Char} {value : Setting}
    (found : readNumber text = some (value, rest)) : value.Named := by
  rw [readNumber.eq_def] at found
  split at found
  · exact named_readBased found
  · exact named_readBased found
  · exact named_readBased found
  · exact named_readSigned found
  · exact named_readSigned found
  · exact named_readSigned found

/-- Nor has a date or a time. -/
theorem named_readMoment {text rest : List Char} {value : Setting}
    (found : readMoment text = some (value, rest)) : value.Named := by
  obtain ⟨⟨moment, after⟩, -, found⟩ := Option.bind_eq_some_iff.1 found
  dsimp only at found
  split at found
  · obtain ⟨rfl, -⟩ := Prod.mk.inj (Option.some.inj found)
    exact .foreign _
  · cases found

/-- What the readers yield with some fuel has only texts as keys. -/
structure ReadsNamed (fuel : Nat) : Prop where
  value : ∀ {text rest value}, readValue fuel text = some (value, rest) → value.Named
  items : ∀ {text rest items}, readItems fuel text = some (items, rest) →
    ∀ item ∈ items, item.Named
  pairs : ∀ {text rest pairs}, readPairs fuel text = some (pairs, rest) →
    ∀ pair ∈ pairs, pair.2.Named
  pair : ∀ {text rest pair}, readPair fuel text = some (pair, rest) → pair.2.Named

namespace ReadsNamed

variable {fuel : Nat} {text rest : List Char} (reads : ReadsNamed fuel)

include reads

/-- A value is read with texts for keys if what is read inside of it is. -/
theorem value_succ {value : Setting} (found : readValue (fuel + 1) text = some (value, rest)) :
    value.Named := by
  rw [readValue.eq_def] at found
  dsimp only at found
  split at found
  · obtain ⟨rfl, -⟩ := Prod.mk.inj (Option.some.inj found)
    exact .scalar _
  · obtain ⟨rfl, -⟩ := Prod.mk.inj (Option.some.inj found)
    exact .scalar _
  · obtain ⟨reading, -, same⟩ := Option.map_eq_some_iff.1 found
    obtain ⟨rfl, -⟩ := Prod.mk.inj same
    exact .scalar _
  · obtain ⟨reading, -, same⟩ := Option.map_eq_some_iff.1 found
    obtain ⟨rfl, -⟩ := Prod.mk.inj same
    exact .scalar _
  · obtain ⟨start, -, found⟩ := Option.bind_eq_some_iff.1 found
    obtain ⟨⟨items, after⟩, read, found⟩ := Option.bind_eq_some_iff.1 found
    obtain ⟨rfl, -⟩ := Prod.mk.inj (Option.some.inj found)
    exact named_list.2 (reads.items read)
  · split at found
    · obtain ⟨rfl, -⟩ := Prod.mk.inj (Option.some.inj found)
      exact named_table.2 (by simp)
    · obtain ⟨⟨pairs, after⟩, read, found⟩ := Option.bind_eq_some_iff.1 found
      obtain ⟨entries, made, found⟩ := Option.bind_eq_some_iff.1 found
      obtain ⟨rfl, -⟩ := Prod.mk.inj (Option.some.inj found)
      exact named_inlineTable (reads.pairs read) (named_table.2 (by simp)) made
  · cases moment : readMoment text with
    | some reading =>
      rw [moment] at found
      obtain rfl : reading = (value, rest) := Option.some.inj found
      exact named_readMoment moment
    | none =>
      rw [moment] at found
      exact named_readNumber found

/-- So are the items of a list. -/
theorem items_succ {items : List Setting}
    (found : readItems (fuel + 1) text = some (items, rest)) : ∀ item ∈ items, item.Named := by
  rw [readItems.eq_def] at found
  split at found
  · cases found
  · obtain ⟨rfl, -⟩ := Prod.mk.inj (Option.some.inj found)
    simp
  · rename_i sameFuel _
    obtain rfl := Nat.succ.inj sameFuel
    obtain ⟨⟨item, after⟩, read, found⟩ := Option.bind_eq_some_iff.1 found
    obtain ⟨next, -, found⟩ := Option.bind_eq_some_iff.1 found
    split at found
    · obtain ⟨rfl, -⟩ := Prod.mk.inj (Option.some.inj found)
      simpa using reads.value read
    · obtain ⟨start, -, found⟩ := Option.bind_eq_some_iff.1 found
      obtain ⟨⟨others, last⟩, later, found⟩ := Option.bind_eq_some_iff.1 found
      obtain ⟨rfl, -⟩ := Prod.mk.inj (Option.some.inj found)
      exact List.forall_mem_cons.2 ⟨reads.value read, reads.items later⟩
    · cases found

/-- So are the pairs of a table. -/
theorem pairs_succ {pairs : List (Key × Setting)}
    (found : readPairs (fuel + 1) text = some (pairs, rest)) : ∀ pair ∈ pairs, pair.2.Named := by
  rw [readPairs.eq_def] at found
  obtain ⟨⟨pair, after⟩, read, found⟩ := Option.bind_eq_some_iff.1 found
  dsimp only at found
  split at found
  · obtain ⟨rfl, -⟩ := Prod.mk.inj (Option.some.inj found)
    simpa using reads.pair read
  · obtain ⟨⟨others, last⟩, later, found⟩ := Option.bind_eq_some_iff.1 found
    obtain ⟨rfl, -⟩ := Prod.mk.inj (Option.some.inj found)
    exact List.forall_mem_cons.2 ⟨reads.pair read, reads.pairs later⟩
  · cases found

/-- So is each pair by itself. -/
theorem pair_succ {pair : Key × Setting} (found : readPair (fuel + 1) text = some (pair, rest)) :
    pair.2.Named := by
  rw [readPair.eq_def] at found
  obtain ⟨⟨key, after⟩, -, found⟩ := Option.bind_eq_some_iff.1 found
  dsimp only at found
  split at found
  · obtain ⟨⟨value, last⟩, read, found⟩ := Option.bind_eq_some_iff.1 found
    obtain ⟨rfl, -⟩ := Prod.mk.inj (Option.some.inj found)
    exact reads.value read
  · cases found

end ReadsNamed

/-- With any fuel the readers yield only texts as keys. -/
theorem readsNamed (fuel : Nat) : ReadsNamed fuel := by
  induction fuel with
  | zero => constructor <;> intro _ _ _ found <;> cases found
  | succ fuel hypothesis =>
    exact ⟨hypothesis.value_succ, hypothesis.items_succ, hypothesis.pairs_succ,
      hypothesis.pair_succ⟩

/-- The values of a statement have only texts as keys. -/
def Statement.Named : Statement → Prop
  | entry _ value => Setting.Named value
  | _ => True

/-- A line of a document has texts for keys. -/
theorem named_readStatement {text rest : List Char} {statement : Option Statement}
    (found : readStatement text = some (statement, rest)) : ∀ line ∈ statement, line.Named := by
  rw [readStatement.eq_def] at found
  split at found
  · obtain ⟨rfl, -⟩ := Prod.mk.inj (Option.some.inj found)
    simp
  · obtain ⟨rfl, -⟩ := Prod.mk.inj (Option.some.inj found)
    simp
  · obtain ⟨rfl, -⟩ := Prod.mk.inj (Option.some.inj found)
    simp
  · obtain ⟨⟨key, after⟩, -, found⟩ := Option.bind_eq_some_iff.1 found
    dsimp only at found
    split at found
    · obtain ⟨rfl, -⟩ := Prod.mk.inj (Option.some.inj found)
      simp [Statement.Named]
    · cases found
  · obtain ⟨⟨key, after⟩, -, found⟩ := Option.bind_eq_some_iff.1 found
    dsimp only at found
    split at found
    · obtain ⟨rfl, -⟩ := Prod.mk.inj (Option.some.inj found)
      simp [Statement.Named]
    · cases found
  · obtain ⟨⟨⟨key, value⟩, after⟩, read, found⟩ := Option.bind_eq_some_iff.1 found
    obtain ⟨rfl, -⟩ := Prod.mk.inj (Option.some.inj found)
    simpa [Statement.Named] using (readsNamed _).pair read

/-- So have all of them. -/
theorem named_readStatements {lines : Nat} {text : List Char} {statements : List Statement}
    (found : readStatements lines text = some statements) :
    ∀ statement ∈ statements, statement.Named := by
  induction lines generalizing text statements with
  | zero => cases found
  | succ lines hypothesis =>
    obtain ⟨⟨statement, after⟩, read, found⟩ := Option.bind_eq_some_iff.1 found
    have first : ∀ line ∈ statement.toList, line.Named := fun line member =>
      named_readStatement read line (Option.mem_toList.1 member)
    obtain ⟨rest, -, found⟩ := Option.bind_eq_some_iff.1 found
    split at found
    · obtain rfl := Option.some.inj found
      exact first
    · obtain ⟨others, later, found⟩ := Option.bind_eq_some_iff.1 found
      obtain rfl := Option.some.inj found
      exact List.forall_mem_append.2 ⟨first, hypothesis later⟩

/-- A table that is added is empty, so it leaves texts for keys. -/
theorem named_addTable {name : String} {entries changed : Settings}
    (named : Named (.table entries)) (added : Draft.addTable name entries = some changed) :
    Named (.table changed) := by
  have empty : Named (.table []) := named_table.2 (by simp)
  rw [Draft.addTable] at added
  split at added
  · obtain rfl := Option.some.inj added
    exact named.append (named_list.2 (by simpa using empty))
  · rename_i items found
    obtain rfl := Option.some.inj added
    have each := named_list.1 (named.named? found)
    exact named.put (named_list.2 (List.forall_mem_append.2 ⟨each, by simpa using empty⟩))
  · cases added

/-- Statements keep all keys texts. -/
theorem named_apply {draft next : Draft} {statement : Statement} (isNamed : statement.Named)
    (named : Named (.table draft.entries)) (applied : draft.apply statement = some next) :
    Named (.table next.entries) := by
  cases statement with
  | table key =>
    rw [Draft.apply, Draft.openTable] at applied
    split at applied
    · cases applied
    · obtain ⟨entries, step, same⟩ := Option.bind_eq_some_iff.1 applied
      obtain rfl := Option.some.inj same
      refine named_changeTable (fun named same => ?_) named step
      exact Option.some.inj same ▸ named
  | arrayTable key =>
    rw [Draft.apply, Draft.openArrayTable] at applied
    split at applied
    · cases applied
    · split at applied
      · cases applied
      · obtain ⟨entries, step, same⟩ := Option.bind_eq_some_iff.1 applied
        obtain rfl := Option.some.inj same
        exact named_changeTable named_addTable named step
  | entry key value =>
    rw [Draft.apply, Draft.addEntry] at applied
    split at applied
    · cases applied
    · split at applied
      · cases applied
      · obtain ⟨entries, step, same⟩ := Option.bind_eq_some_iff.1 applied
        obtain rfl := Option.some.inj same
        exact named_changeTable (named_addNew isNamed) named step

/-- So do any number of them, one after another. -/
theorem named_foldlM {statements : List Statement} (each : ∀ line ∈ statements, line.Named)
    {draft last : Draft} (named : Named (.table draft.entries))
    (folded : statements.foldlM Draft.apply draft = some last) : Named (.table last.entries) := by
  induction statements generalizing draft with
  | nil =>
    obtain rfl := Option.some.inj folded
    exact named
  | cons statement rest hypothesis =>
    obtain ⟨first, others⟩ := List.forall_mem_cons.1 each
    obtain ⟨next, applied, later⟩ := Option.bind_eq_some_iff.1 folded
    exact hypothesis others (named_apply first named applied) later

/-- A TOML text writes a table with only texts as keys. -/
theorem named_parse {text : String} {document : Settings} (parsed : parse? text = some document) :
    Named (.table document) := by
  obtain ⟨statements, read, parsed⟩ := Option.bind_eq_some_iff.1 parsed
  obtain ⟨draft, folded, parsed⟩ := Option.bind_eq_some_iff.1 parsed
  obtain rfl := Option.some.inj parsed
  have empty : Named (.table (Draft.entries {})) := named_table.2 (by simp)
  exact named_foldlM (named_readStatements read) empty folded

end Folio.Toml
