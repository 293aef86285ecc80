import Folio.Proofs.Json.Exact
import Folio.Proofs.Tree.Codec

/-!
# The grammar of encoded trees

`Encodes` says which values encode a tree without saying how one is decoded: an object with a
known tag, whose other members are fields of that kind and hold what the fields declare. The
decoder yields a tree for exactly these values, `decode_byGrammar`. The induction is on the value;
at each object the checks of the decoder are taken one by one, and what they leave open is
settled by the members inside.
-/

namespace Folio

/-- A step goes well for all of some values in turn if it does so for each of them. -/
theorem mapM_isOk_iff {ε α β : Type} {step : α → Except ε β} {values : List α} :
    (∃ results, values.mapM step = .ok results) ↔
      ∀ value ∈ values, ∃ result, step value = .ok result := by
  induction values with
  | nil => exact ⟨fun _ => by simp, fun _ => ⟨[], rfl⟩⟩
  | cons value rest hypothesis =>
    rw [List.forall_mem_cons, ← hypothesis, List.mapM_cons]
    constructor
    · rintro ⟨results, together⟩
      obtain ⟨first, here, together⟩ := bind_eq_ok.1 together
      obtain ⟨others, later, -⟩ := bind_eq_ok.1 together
      exact ⟨⟨first, here⟩, others, later⟩
    · rintro ⟨⟨first, here⟩, others, later⟩
      exact ⟨first :: others, by rw [here, later]; rfl⟩

namespace Tree

mutual

/-- The value encodes a tree: it is an object with the tag of a kind, every other member is a
field of that kind and holds what the field declares, and a definition has both its parts. -/
inductive Encodes : Json → Prop where
  | node {members : Json.Members} {kind : Kind}
      (tagged : members.get? tagField = some (.str kind.tag))
      (known : ∀ member ∈ members,
        member.1 = tagField ∨ member.1 ∈ kind.fields.map (·.name))
      (held : ∀ member ∈ members, ∀ field ∈ kind.fields, field.name = member.1 →
        Holds field.type member.2)
      (complete : kind = .definition →
        "term" ∈ members.map (·.1) ∧ "definition" ∈ members.map (·.1)) :
      Encodes (.obj members)

/-- A field of the type can hold the value. -/
inductive Holds : FieldType → Json → Prop where
  | text (text : String) : Holds .text (.str text)
  | words (words : List String) : Holds .words (.arr (words.map .str))
  | metadata (members : Json.Members) : Holds .metadata (.obj members)
  | noMoment : Holds .moment .null
  | moment {text : String} {time : Timestamp} (reads : Timestamp.parse? text = some time) :
      Holds .moment (.str text)
  | many {element : Category} {items : List Json} (each : ∀ item ∈ items, Encodes item) :
      Holds (.many element) (.arr items)
  | one {element : Category} {members : Json.Members} (encodes : Encodes (.obj members)) :
      Holds (.one element) (.obj members)

end

/-- A tag belongs to one kind. -/
theorem ofTag?_eq_some {text : String} {kind : Kind} :
    Kind.ofTag? text = some kind ↔ text = kind.tag := by
  constructor
  · intro found
    have same : (kind.tag == text) = true :=
      List.find?_some (p := fun other : Kind => other.tag == text) found
    exact (beq_iff_eq.1 same).symm
  · rintro rfl
    exact Kind.ofTag?_tag kind

/-- A name is that of a field if the kind lists a field under it. -/
theorem isSome_field? {kind : Kind} {name : String} :
    (kind.field? name).isSome = true ↔ name ∈ kind.fields.map (·.name) := by
  rw [Kind.field?, List.find?_isSome, List.mem_map]
  simp only [beq_iff_eq]

/-- A field that is found under a name is listed, and has that name. -/
theorem field?_eq_some {kind : Kind} {name : String} {field : Field} :
    kind.field? name = some field ↔ field ∈ kind.fields ∧ field.name = name := by
  constructor
  · intro found
    exact ⟨List.mem_of_find?_eq_some found, by simpa using List.find?_some found⟩
  · rintro ⟨member, rfl⟩
    exact Kind.field?_of_mem member

/-- The kind of an object is found if its tag is known and all other members are fields. -/
theorem decodeKind_eq_ok {members : Json.Members} {kind : Kind} :
    decodeKind members = .ok kind ↔
      members.get? tagField = some (.str kind.tag) ∧
        ∀ member ∈ members, member.1 = tagField ∨ member.1 ∈ kind.fields.map (·.name) := by
  have unknown (kind : Kind) : ((members.map (·.1)).filter fun name =>
      name != tagField && (kind.field? name).isNone).isEmpty = true ↔
        ∀ member ∈ members, member.1 = tagField ∨ member.1 ∈ kind.fields.map (·.name) := by
    rw [List.isEmpty_iff, List.filter_eq_nil_iff, List.forall_mem_map]
    refine forall₂_congr fun member _ => ?_
    rw [← isSome_field?, Option.isSome_iff_ne_none, Bool.and_eq_true, bne_iff_ne,
      Option.isNone_iff_eq_none, not_and_or, not_not]
  rw [decodeKind]
  constructor
  · intro found
    split at found
    · rename_i text tag
      have tagged : members.get? tagField = some (.str text) := by
        cases stands : members.get? tagField with
        | none => rw [stands] at tag; cases tag
        | some value => rw [stands] at tag; exact congrArg some tag
      split at found
      · cases found
      · rename_i other isKind
        obtain rfl := ofTag?_eq_some.1 isKind
        dsimp only at found
        split at found
        · rename_i allKnown
          obtain rfl := Except.ok.inj found
          exact ⟨tagged, (unknown other).1 allKnown⟩
        · cases found
    · cases found
  · rintro ⟨tagged, known⟩
    simp only [tagged, Option.getD_some, Kind.ofTag?_tag, (unknown kind).2 known, if_true]

/-- The content of one field. -/
def decodeField (kind : Kind) (field : Field) (value : Json) : Except DecodeError Content :=
  match field.type, value with
  | .many _, .arr items => do
    let trees ← decodeAll items
    pure (.slot (.many trees))
  | .many _, other => .error (.notNodes kind field.name other.typeName)
  | .one _, .obj members => do
    let tree ← decode (.obj members)
    pure (.slot (.one tree))
  | .one _, other => .error (.notOneNode kind field.name other.typeName)
  | _, other => decodeAttribute kind field other

variable {kind : Kind} {field : Field}

/-- A member with the name of a field is decoded before the members behind it. -/
theorem decodeFields_of_field {name : String} (known : kind.field? name = some field)
    (value : Json) (rest : Json.Members) :
    decodeFields kind ((name, value) :: rest) =
      (do
        let content ← decodeField kind field value
        let others ← decodeFields kind rest
        pure ((name, content) :: others)) := by
  obtain rfl := (field?_eq_some.1 known).2
  obtain ⟨name, type⟩ := field
  rw [decodeFields, known]
  cases type with
  | many element =>
    cases value with
    | arr items => simp only [decodeField]; cases decodeAll items <;> rfl
    | _ => rfl
  | one element =>
    cases value with
    | obj members => simp only [decodeField]; cases decode (.obj members) <;> rfl
    | _ => rfl
  | _ => rfl

/-- A member that is no field is passed over. -/
theorem decodeFields_of_none {name : String} (unknown : kind.field? name = none)
    (value : Json) (rest : Json.Members) :
    decodeFields kind ((name, value) :: rest) = decodeFields kind rest := by
  rw [decodeFields, unknown]

/-- The members of an object are decoded if each of them that is a field is. -/
theorem decodeFields_isOk_iff {members : Json.Members} :
    (∃ contents, decodeFields kind members = .ok contents) ↔
      ∀ member ∈ members, ∀ field ∈ kind.fields, field.name = member.1 →
        ∃ content, decodeField kind field member.2 = .ok content := by
  induction members with
  | nil => exact ⟨fun _ => by simp, fun _ => ⟨[], rfl⟩⟩
  | cons member rest hypothesis =>
    obtain ⟨name, value⟩ := member
    rw [List.forall_mem_cons, ← hypothesis]
    cases known : kind.field? name with
    | none =>
      rw [decodeFields_of_none known]
      refine (and_iff_right ?_).symm
      intro field member same
      rw [field?_eq_some.2 ⟨member, same⟩] at known
      cases known
    | some field =>
      rw [decodeFields_of_field known]
      constructor
      · rintro ⟨contents, together⟩
        obtain ⟨content, here, together⟩ := bind_eq_ok.1 together
        obtain ⟨others, later, -⟩ := bind_eq_ok.1 together
        refine ⟨fun other member same => ?_, others, later⟩
        obtain rfl := Option.some.inj (known.symm.trans (field?_eq_some.2 ⟨member, same⟩))
        exact ⟨content, here⟩
      · rintro ⟨each, others, later⟩
        obtain ⟨member, same⟩ := field?_eq_some.1 known
        obtain ⟨content, here⟩ := each field member same
        exact ⟨(name, content) :: others, by rw [here, later]; rfl⟩

/-- What was decoded stands under the names of the fields among the members. -/
theorem names_of_decodeFields {members : Json.Members} {contents : List (String × Content)}
    (decoded : decodeFields kind members = .ok contents) :
    contents.map (·.1) = (members.map (·.1)).filter fun name => (kind.field? name).isSome := by
  induction members generalizing contents with
  | nil =>
    obtain rfl := Except.ok.inj decoded
    rfl
  | cons member rest hypothesis =>
    obtain ⟨name, value⟩ := member
    cases known : kind.field? name with
    | none =>
      rw [decodeFields_of_none known] at decoded
      rw [hypothesis decoded, List.map_cons, List.filter_cons, if_neg (by simp [known])]
    | some field =>
      rw [decodeFields_of_field known] at decoded
      obtain ⟨content, -, decoded⟩ := bind_eq_ok.1 decoded
      obtain ⟨others, later, decoded⟩ := bind_eq_ok.1 decoded
      obtain rfl := Except.ok.inj decoded
      rw [List.map_cons, List.map_cons, hypothesis later, List.filter_cons,
        if_pos (by simp [known])]

/-- Trees are decoded one by one. -/
theorem decodeAll_eq (items : List Json) : decodeAll items = items.mapM decode := by
  induction items with
  | nil => rfl
  | cons item rest hypothesis =>
    rw [decodeAll, List.mapM_cons, hypothesis]

/-- The texts of a list are found if it holds texts only. -/
theorem texts?_eq_some_iff {items : List Json} {words : List String} :
    texts? items = some words ↔ items = words.map Json.str := by
  constructor
  · intro found
    induction items generalizing words with
    | nil =>
      obtain rfl := Option.some.inj found
      rfl
    | cons item rest hypothesis =>
      rw [texts?.eq_def] at found
      split at found
      · contradiction
      · rename_i same
        obtain ⟨rfl, rfl⟩ := List.cons.inj same
        obtain ⟨others, later, rfl⟩ := Option.map_eq_some_iff.1 found
        rw [hypothesis later, List.map_cons]
      · cases found
  · rintro rfl
    exact texts?_map words

/-- A field without nodes is decoded if it can hold the value. -/
theorem decodeAttribute_isOk_iff (plain : field.type.isStructural = false) {value : Json} :
    (∃ content, decodeAttribute kind field value = .ok content) ↔ Holds field.type value := by
  obtain ⟨name, type⟩ := field
  constructor
  · rintro ⟨content, decoded⟩
    cases type with
    | many element => cases plain
    | one element => cases plain
    | metadata =>
      cases value with
      | obj members => exact .metadata members
      | _ => cases decoded
    | words =>
      cases value with
      | arr items =>
        simp only [decodeAttribute] at decoded
        split at decoded
        · rename_i words found
          rw [texts?_eq_some_iff.1 found]
          exact .words words
        · cases decoded
      | _ => cases decoded
    | moment =>
      cases value with
      | scalar value =>
        cases value with
        | null => exact .noMoment
        | text text =>
          simp only [decodeAttribute] at decoded
          split at decoded
          · rename_i time reads
            exact .moment reads
          · cases decoded
        | _ => cases decoded
      | _ => cases decoded
    | text =>
      cases value with
      | scalar value =>
        cases value with
        | text text => exact .text text
        | _ => cases decoded
      | _ => cases decoded
  · intro holds
    cases holds with
    | text text => exact ⟨_, rfl⟩
    | words words => exact ⟨.attr (.words words), by simp only [decodeAttribute, texts?_map]⟩
    | metadata members => exact ⟨_, rfl⟩
    | noMoment => exact ⟨_, rfl⟩
    | @moment text time reads =>
      exact ⟨.attr (.moment (some time)), by simp only [decodeAttribute, reads]⟩
    | many each => cases plain
    | one encodes => cases plain

/-- What cannot be left out of a node of the kind is among the names. -/
theorem requiredFields_subset_iff {names : List String} :
    kind.requiredFields ⊆ names ↔
      (kind = .definition → "term" ∈ names ∧ "definition" ∈ names) := by
  cases kind <;> simp [Kind.requiredFields]

/-- A node is put together from contents that stand in different fields if none is missing that
is required. -/
theorem assemble?_isOk_iff {contents : List (String × Content)}
    (distinct : (contents.map (·.1)).Nodup)
    (known : ∀ entry ∈ contents, entry.1 ∈ kind.fields.map (·.name)) :
    (∃ tree, kind.assemble? contents = .ok tree) ↔
      kind.requiredFields ⊆ contents.map (·.1) := by
  constructor
  · rintro ⟨tree, built⟩
    rw [Kind.assemble?] at built
    split at built
    · rename_i bound isBound
      rw [← Signature.values_of_bind rfl isBound]
      exact Signature.required_of_bind isBound
    · cases built
  · intro complete
    exact ⟨_, Kind.assemble?_eq distinct known complete⟩

/-- The value is decoded if it encodes a tree, and only then. -/
def ByGrammar (value : Json) : Prop := (∃ tree, decode value = .ok tree) ↔ Encodes value

/-- A field is decoded if it can hold the value. -/
theorem decodeField_isOk_iff {value : Json} (single : ByGrammar value)
    (list : ∀ items, value = .arr items → ∀ item ∈ items, ByGrammar item) :
    (∃ content, decodeField kind field value = .ok content) ↔ Holds field.type value := by
  obtain ⟨name, type⟩ := field
  cases type with
  | many element =>
    cases value with
    | arr items =>
      have together : (∃ content, decodeField kind ⟨name, .many element⟩ (.arr items) =
          .ok content) ↔ ∃ trees, decodeAll items = .ok trees := by
        simp only [decodeField]
        cases decodeAll items <;> simp [bind, Except.bind, pure, Except.pure]
      rw [together, decodeAll_eq, mapM_isOk_iff]
      constructor
      · exact fun each => .many fun item member => (list items rfl item member).1 (each item member)
      · intro holds
        cases holds with
        | many each => exact fun item member => (list items rfl item member).2 (each item member)
    | _ => exact ⟨fun ⟨_, decoded⟩ => (nomatch decoded), fun holds => nomatch holds⟩
  | one element =>
    cases value with
    | obj members =>
      have alone : (∃ content, decodeField kind ⟨name, .one element⟩ (.obj members) =
          .ok content) ↔ ∃ tree, decode (.obj members) = .ok tree := by
        simp only [decodeField]
        cases decode (.obj members) <;> simp [bind, Except.bind, pure, Except.pure]
      refine alone.trans (single.trans ?_)
      constructor
      · exact .one
      · intro holds
        cases holds with
        | one encodes => exact encodes
    | _ => exact ⟨fun ⟨_, decoded⟩ => (nomatch decoded), fun holds => nomatch holds⟩
  | _ => exact decodeAttribute_isOk_iff rfl

/-- An object whose members follow the grammar does so itself. -/
theorem byGrammar_obj {members : Json.Members} (distinct : (members.map (·.1)).Nodup)
    (fields : ∀ kind, ∀ member ∈ members, ∀ field : Field,
      (∃ content, decodeField kind field member.2 = .ok content) ↔ Holds field.type member.2) :
    ByGrammar (.obj members) := by
  have fieldNames {kind : Kind} {contents : List (String × Content)}
      (decoded : decodeFields kind members = .ok contents) (name : String) :
      name ∈ contents.map (·.1) ↔ name ∈ members.map (·.1) ∧ name ∈ kind.fields.map (·.name) := by
    rw [names_of_decodeFields decoded, List.mem_filter, isSome_field?]
  have settled {kind : Kind} {contents : List (String × Content)}
      (decoded : decodeFields kind members = .ok contents) :
      (∃ tree, kind.assemble? contents = .ok tree) ↔
        (kind = .definition → "term" ∈ members.map (·.1) ∧ "definition" ∈ members.map (·.1)) := by
    have known : ∀ entry ∈ contents, entry.1 ∈ kind.fields.map (·.name) := fun entry member =>
      ((fieldNames decoded entry.1).1 (List.mem_map_of_mem member)).2
    rw [assemble?_isOk_iff (names_of_decodeFields decoded ▸ distinct.filter _) known,
      ← requiredFields_subset_iff]
    constructor
    · exact fun complete name required => ((fieldNames decoded name).1 (complete required)).1
    · intro complete name required
      have structural := Kind.required_slots kind required
      obtain ⟨field, inSlots, rfl⟩ := List.mem_map.1 structural
      exact (fieldNames decoded field.name).2
        ⟨complete required, isSome_field?.1 (by rw [(Kind.field?_of_mem_slots inSlots).1]; rfl)⟩
  constructor
  · rintro ⟨tree, decoded⟩
    rw [decode] at decoded
    obtain ⟨kind, found, decoded⟩ := bind_eq_ok.1 decoded
    obtain ⟨contents, together, built⟩ := bind_eq_ok.1 decoded
    obtain ⟨tagged, known⟩ := decodeKind_eq_ok.1 found
    refine .node tagged known (fun member inside field listed same => ?_)
      ((settled together).1 ⟨tree, built⟩)
    exact (fields kind member inside field).1
      (decodeFields_isOk_iff.1 ⟨contents, together⟩ member inside field listed same)
  · intro encodes
    cases encodes with
    | node tagged known held complete =>
      rename_i kind
      obtain ⟨contents, together⟩ := decodeFields_isOk_iff.2 fun member inside field listed same =>
        (fields kind member inside field).2 (held member inside field listed same)
      obtain ⟨tree, built⟩ := (settled together).2 complete
      have found := decodeKind_eq_ok.2 ⟨tagged, known⟩
      refine ⟨tree, ?_⟩
      rw [decode]
      exact bind_eq_ok.2 ⟨kind, found, bind_eq_ok.2 ⟨contents, together, built⟩⟩

/-- A value in which no object repeats a name is decoded if it encodes a tree, and only then. -/
theorem decode_byGrammar {value : Json} (distinct : value.Distinct) : ByGrammar value := by
  suffices general : ByGrammar value ∧
      ∀ items, value = .arr items → ∀ item ∈ items, ByGrammar item from general.1
  induction value using Json.induction with
  | scalar value =>
    exact ⟨⟨fun ⟨_, decoded⟩ => (nomatch decoded), fun encodes => nomatch encodes⟩,
      fun items none => nomatch none⟩
  | arr items hypothesis =>
    rw [Json.distinct_arr] at distinct
    refine ⟨⟨fun ⟨_, decoded⟩ => (nomatch decoded), fun encodes => nomatch encodes⟩, ?_⟩
    rintro others ⟨⟩ item member
    exact (hypothesis item member (distinct item member)).1
  | obj members hypothesis =>
    rw [Json.distinct_obj] at distinct
    refine ⟨byGrammar_obj distinct.1 fun kind member inside field => ?_,
      fun items none => nomatch none⟩
    obtain ⟨single, list⟩ := hypothesis member inside (distinct.2 member inside)
    exact decodeField_isOk_iff single list

end Tree

end Folio
