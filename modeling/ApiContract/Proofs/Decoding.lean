import ApiContract.Document.Contract
import Mathlib.Data.List.Nodup

set_option autoImplicit false

namespace ApiContract

open Document

variable {α : Type}

namespace Vocabulary

/-- All words are listed, and no two are spelled alike. -/
class Lawful (α : Type) [Vocabulary α] : Prop where
  mem_all : ∀ word : α, word ∈ (all : List α)
  nodup_spellings : ((all : List α).map spelling).Nodup

variable [Vocabulary α] [Lawful α]

theorem find?_spelling (word : α) : find? (spelling word) = some word := by
  obtain ⟨found, isFound⟩ : ∃ found, find? (α := α) (spelling word) = some found := by
    apply Option.isSome_iff_exists.mp
    exact List.find?_isSome.mpr ⟨word, Lawful.mem_all word, by simp⟩
  have same : spelling found = spelling word := spelling_of_find? isFound
  rw [isFound, List.inj_on_of_nodup_map Lawful.nodup_spellings (Lawful.mem_all found)
    (Lawful.mem_all word) same]

theorem ofText_spelling (word : α) : Open.ofText (spelling word) = Open.known word := by
  unfold Open.ofText
  split
  case h_1 found isFound =>
    rw [find?_spelling] at isFound
    rw [Option.some.inj isFound]
  case h_2 notFound =>
    rw [find?_spelling] at notFound
    contradiction

theorem ofText_text (word : Open α) : Open.ofText word.text = word := by
  cases word with
  | known word => exact ofText_spelling word
  | other text unknown =>
    unfold Open.ofText
    split
    case h_1 found isFound =>
      have notFound : find? (Open.other text unknown).text = (none : Option α) := unknown
      rw [notFound] at isFound
      contradiction
    case h_2 => rfl

theorem isKnown_ofText (text : String) :
    (Open.ofText text : Open α).isKnown = true ↔ ∃ word : α, spelling word = text := by
  constructor
  · intro known
    cases read : (Open.ofText text : Open α) with
    | known word => exact ⟨word, by rw [← Open.text_ofText (α := α) text, read]; rfl⟩
    | other text unknown => simp [read, Open.isKnown] at known
  · rintro ⟨word, rfl⟩
    rw [ofText_spelling]
    rfl

instance : Lawful Verb := ⟨fun word => by cases word <;> decide, by decide⟩

instance : Lawful Family := ⟨fun word => by cases word <;> decide, by decide⟩

instance : Lawful Requirement := ⟨fun word => by cases word <;> decide, by decide⟩

instance : Lawful Multiplicity := ⟨fun word => by cases word <;> decide, by decide⟩

instance : Lawful KnownAction := ⟨fun word => by cases word <;> decide, by simp [all, spelling]⟩

instance : Lawful KnownOperation := ⟨fun word => by cases word <;> decide, by simp [all, spelling]⟩

instance : Lawful KnownResource := ⟨fun word => by cases word <;> decide, by simp [all, spelling]⟩

end Vocabulary

namespace Json

@[simp] theorem lookup_field (name key : String) (value : Json) (fields : List (String × Json)) :
    List.lookup key ((name, value) :: fields) =
      if key = name then some value else fields.lookup key := by
  by_cases same : key = name
  · simp [same]
  · simp [List.lookup_cons, beq_false_of_ne same, same]

@[simp] theorem lookup_optionalField (name key : String) (write : α → Json) (value : Option α) :
    (optionalField name write value).lookup key = if key = name then value.map write else none := by
  cases value <;> simp [optionalField]

@[simp] theorem lookup_listField (name key : String) (write : α → Json) (values : List α) :
    (listField name write values).lookup key =
      if key = name ∧ values ≠ [] then some (.arr (values.map write)) else none := by
  cases values <;> simp [listField]

def KeysWithin (names : List String) (fields : List (String × Json)) : Prop :=
  (fields.map (·.1)).Sublist names

@[simp] theorem keysWithin_nil (names : List String) : KeysWithin names [] :=
  List.nil_sublist names

@[simp] theorem keysWithin_cons (name : String) (value : Json) (names : List String)
    (fields : List (String × Json)) :
    KeysWithin (name :: names) ((name, value) :: fields) ↔ KeysWithin names fields :=
  List.cons_sublist_cons

theorem KeysWithin.skip {names : List String} {fields : List (String × Json)}
    (inside : KeysWithin names fields) (name : String) : KeysWithin (name :: names) fields :=
  inside.cons name

@[simp] theorem keysWithin_optionalField {names : List String} {fields : List (String × Json)}
    (inside : KeysWithin names fields) (name : String) (write : α → Json) (value : Option α) :
    KeysWithin (name :: names) (optionalField name write value ++ fields) := by
  cases value with
  | none => exact inside.skip name
  | some value => simpa [optionalField] using inside

@[simp] theorem keysWithin_listField {names : List String} {fields : List (String × Json)}
    (inside : KeysWithin names fields) (name : String) (write : α → Json) (values : List α) :
    KeysWithin (name :: names) (listField name write values ++ fields) := by
  cases values with
  | nil => exact inside.skip name
  | cons value rest => simpa [listField] using inside

@[simp] theorem keysWithin_optionalField_last (name : String) (names : List String)
    (write : α → Json) (value : Option α) :
    KeysWithin (name :: names) (optionalField name write value) := by
  simpa using keysWithin_optionalField (keysWithin_nil names) name write value

@[simp] theorem keysWithin_listField_last (name : String) (names : List String)
    (write : α → Json) (values : List α) :
    KeysWithin (name :: names) (listField name write values) := by
  simpa using keysWithin_listField (keysWithin_nil names) name write values

end Json

namespace Document

def Undoes (read? : Json → Option α) (write : α → Json) : Prop :=
  ∀ value, read? (write value) = some value

theorem undoes_text : Undoes text? Json.str := fun _ => rfl

theorem undoes_bool : Undoes bool? Json.bool := fun _ => rfl

theorem undoes_status : Undoes status? fun code => .ofNat code.toNat := by
  intro code
  show Json.status? (.int code.toNat) = some code
  have small : code.toNat < 65536 := code.toNat_lt
  simp only [Json.status?]
  rw [if_pos (by simp; omega)]
  simp

theorem undoes_word [Vocabulary α] [Vocabulary.Lawful α] : Undoes closed? (ofWord (α := α)) :=
  Vocabulary.find?_spelling

theorem undoes_open [Vocabulary α] [Vocabulary.Lawful α] : Undoes open? (ofOpen (α := α)) := by
  intro word
  show some (Open.ofText word.text) = some word
  rw [Vocabulary.ofText_text]

theorem open?_str [Vocabulary α] [Vocabulary.Lawful α] (text : String) :
    ∃ word : Open α, open? (Json.str text) = some word ∧ ofOpen word = .str text ∧
      (word.isKnown ↔ ∃ known : α, Vocabulary.spelling known = text) :=
  ⟨.ofText text, rfl, congrArg Json.str (Open.text_ofText text), Vocabulary.isKnown_ofText text⟩

theorem fields?_of_keysWithin {names : List String} (distinct : names.Nodup)
    {fields : List (String × Json)} (inside : Json.KeysWithin names fields) :
    fields? names (Json.obj fields) = some fields := by
  have known : fields.filter (names.contains ·.1) = fields := by
    apply List.filter_eq_self.mpr
    intro f listed
    simpa using inside.subset (List.mem_map_of_mem listed)
  show Json.fields? names (.obj fields) = some fields
  simp only [Json.fields?, known, if_pos (distinct.sublist inside)]

theorem bind_read {β : Type} {found : Option α} {rest : α → Option β} {a : α} {b : β}
    (first : found = some a) (later : rest a = some b) : (found >>= rest) = some b := by
  rw [first]
  exact later

section Present

variable {V : Type} {read? : V → Option α} {fields : List (String × V)} {name : String} {v : V}
  {value default : α}

theorem required?_of_lookup (found : fields.lookup name = some v) (read : read? v = some value) :
    required? fields name read? = some value := by
  rw [required?, found, Option.bind_some, read]

theorem defaulted?_of_lookup (found : fields.lookup name = some v) (read : read? v = some value) :
    defaulted? fields name read? default = some value := by
  rw [defaulted?, found]
  exact read

end Present

section Fields

variable {read? : Json → Option α} {write : α → Json} {fields : List (String × Json)}
  {name : String}

theorem Undoes.list (undoes : Undoes read? write) :
    Undoes (list? read?) fun values => .arr (values.map write) := by
  intro values
  show (values.map write).mapM read? = some values
  induction values with
  | nil => rfl
  | cons value rest ih => simp [undoes value, ih]

theorem Undoes.required {value : α} (undoes : Undoes read? write)
    (found : fields.lookup name = some (write value)) :
    required? fields name read? = some value :=
  required?_of_lookup found (undoes value)

theorem Undoes.defaulted {value default : α} (undoes : Undoes read? write)
    (found : fields.lookup name = some (write value)) :
    defaulted? fields name read? default = some value :=
  defaulted?_of_lookup found (undoes value)

theorem Undoes.defaultedList {values : List α} (undoes : Undoes read? write)
    (found : fields.lookup name =
      if values ≠ [] then some (.arr (values.map write)) else none) :
    defaulted? fields name (list? read?) [] = some values := by
  by_cases empty : values = []
  · simp [defaulted?, found, empty]
  · exact undoes.list.defaulted (by simpa [empty] using found)

theorem Undoes.optional {value : Option α} (undoes : Undoes read? write)
    (present : ∀ value, isAbsent? (write value) = some false)
    (found : fields.lookup name = value.map write) :
    optional? fields name read? = some value := by
  cases value with
  | none => simp [optional?, found]
  | some value => simp [optional?, found, present, undoes value]

end Fields

end Document

attribute [local simp] List.lookup_append

theorem Param.undoes : Undoes ofDocument? Param.toJson := by
  intro p
  have known : fields? fieldNames p.toJson = some _ :=
    fields?_of_keysWithin (by decide) (by simp [fieldNames])
  exact bind_read known <|
    bind_read (undoes_text.required (by simp)) <|
    bind_read (undoes_text.required (by simp)) <|
    bind_read (undoes_text.optional (fun _ => rfl) (by simp)) <|
    bind_read (undoes_bool.defaulted (by simp)) <|
    rfl

theorem ResponseType.undoes : Undoes ofDocument? ResponseType.toJson := by
  intro t
  have known : fields? fieldNames t.toJson = some _ :=
    fields?_of_keysWithin (by decide) (by simp [fieldNames])
  exact bind_read known <|
    bind_read (undoes_text.required (by simp)) <|
    bind_read (undoes_text.optional (fun _ => rfl) (by simp)) <|
    rfl

theorem ResponseCode.undoes : Undoes ofDocument? ResponseCode.toJson := by
  intro rc
  have known : fields? fieldNames rc.toJson = some _ :=
    fields?_of_keysWithin (by decide) (by simp [fieldNames])
  exact bind_read known <|
    bind_read (undoes_status.required (by simp)) <|
    bind_read (ResponseType.undoes.list.defaulted (by simp)) <|
    rfl

theorem Request.undoes : Undoes ofDocument? Request.toJson := by
  intro r
  have known : fields? fieldNames r.toJson = some _ :=
    fields?_of_keysWithin (by decide) (by
      simp only [fieldNames, List.append_assoc, List.cons_append, List.nil_append]
      apply_rules [(Json.keysWithin_cons _ _ _ _).mpr, Json.keysWithin_optionalField,
        Json.keysWithin_nil])
  exact bind_read known <|
    bind_read (undoes_text.required (by simp)) <|
    bind_read (undoes_word.optional (fun _ => rfl) (by simp)) <|
    bind_read (undoes_word.required (by simp)) <|
    bind_read (undoes_word.optional (fun _ => rfl) (by simp)) <|
    bind_read (undoes_word.optional (fun _ => rfl) (by simp)) <|
    bind_read (undoes_open.optional (fun _ => rfl) (by simp)) <|
    bind_read (undoes_open.optional (fun _ => rfl) (by simp)) <|
    bind_read (undoes_word.optional (fun _ => rfl) (by simp)) <|
    bind_read (undoes_open.optional (fun _ => rfl) (by simp)) <|
    bind_read (undoes_bool.defaulted (by simp)) <|
    bind_read (ResponseCode.undoes.list.defaulted (by simp)) <|
    bind_read (Param.undoes.list.defaulted (by simp)) <|
    bind_read (Param.undoes.list.defaulted (by simp)) <|
    rfl

theorem AnnotationElement.undoes : Undoes ofDocument? AnnotationElement.toJson := by
  intro e
  have known : fields? fieldNames e.toJson = some _ :=
    fields?_of_keysWithin (by decide) (by simp [fieldNames])
  exact bind_read known <|
    bind_read (undoes_text.required (by simp)) <|
    bind_read (undoes_text.required (by simp)) <|
    bind_read (undoes_text.optional (fun _ => rfl) (by simp)) <|
    rfl

theorem Annotation.undoes : Undoes ofDocument? Annotation.toJson := by
  intro a
  have known : fields? fieldNames a.toJson = some _ :=
    fields?_of_keysWithin (by decide) (by simp [fieldNames])
  exact bind_read known <|
    bind_read (undoes_text.required (by simp)) <|
    bind_read (AnnotationElement.undoes.list.defaulted (by simp)) <|
    rfl

theorem Element.undoes : Undoes ofDocument? Element.toJson := by
  intro e
  have known : fields? fieldNames e.toJson = some _ :=
    fields?_of_keysWithin (by decide) (by simp [fieldNames])
  exact bind_read known <|
    bind_read (undoes_text.required (by simp)) <|
    bind_read (undoes_text.required (by simp)) <|
    bind_read (undoes_text.optional (fun _ => rfl) (by simp)) <|
    bind_read (Undoes.defaultedList Annotation.undoes (by simp)) <|
    bind_read (undoes_bool.defaulted (by simp)) <|
    rfl

theorem Property.undoes : Undoes ofDocument? Property.toJson := by
  intro p
  have known : fields? fieldNames p.toJson = some _ :=
    fields?_of_keysWithin (by decide) (by simp [fieldNames])
  exact bind_read known <|
    bind_read (undoes_text.required (by simp)) <|
    bind_read (undoes_text.required (by simp)) <|
    bind_read (undoes_text.optional (fun _ => rfl) (by simp)) <|
    rfl

theorem EnumConstant.undoes : Undoes ofDocument? EnumConstant.toJson := by
  intro c
  have known : fields? fieldNames c.toJson = some _ :=
    fields?_of_keysWithin (by decide) (by simp [fieldNames])
  exact bind_read known <|
    bind_read (undoes_text.required (by simp)) <|
    bind_read (Property.undoes.defaultedList (by simp)) <|
    rfl

theorem TypeDefinition.undoes : Undoes ofDocument? TypeDefinition.toJson := by
  intro d
  -- One of the two lists is left out, which one depends on the kind, so the values are named.
  cases kind : d.kind with
  | struct elements =>
    have known : fields? fieldNames d.toJson = some _ :=
      fields?_of_keysWithin (by decide) (by simp [fieldNames, kind])
    exact bind_read known <|
      bind_read (a := d.name) (undoes_text.required (by simp)) <|
      bind_read (a := d.nameToMarshal) (undoes_text.optional (fun _ => rfl) (by simp [kind])) <|
      bind_read (a := elements) (Element.undoes.defaultedList (by simp [kind])) <|
      bind_read (a := none) (EnumConstant.undoes.list.optional (fun _ => rfl) (by simp [kind])) <|
      by simp [← kind]
  | enum constants =>
    have known : fields? fieldNames d.toJson = some _ :=
      fields?_of_keysWithin (by decide) (by
        simp only [fieldNames, kind, List.cons_append, List.nil_append]
        apply_rules [(Json.keysWithin_cons _ _ _ _).mpr, Json.keysWithin_optionalField,
          Json.KeysWithin.skip, Json.keysWithin_nil])
    exact bind_read known <|
      bind_read (a := d.name) (undoes_text.required (by simp)) <|
      bind_read (a := d.nameToMarshal) (undoes_text.optional (fun _ => rfl) (by simp [kind])) <|
      bind_read (a := []) (Element.undoes.defaultedList (by simp [kind])) <|
      bind_read (a := some constants)
        (EnumConstant.undoes.list.optional (fun _ => rfl) (by simp [kind])) <|
      by simp [← kind]

namespace Catalog

theorem insertEntry_of_above {key : String} {es : List (String × TypeDefinition)}
    (above : ∀ e ∈ es, e.1 < key) (d : TypeDefinition) :
    insertEntry key d es = es ++ [(key, d)] := by
  induction es with
  | nil => rfl
  | cons e es ih =>
    have ⟨first, rest⟩ := List.forall_mem_cons.mp above
    have notBelow : ¬ key < e.1 := fun below =>
      String.lt_irrefl key (String.lt_trans below first)
    have different : key ≠ e.1 := by
      rintro rfl
      exact String.lt_irrefl e.1 first
    rw [insertEntry, if_neg notBelow, if_neg different, ih rest, List.cons_append]

theorem entries_foldl_insert {es : List (String × TypeDefinition)} {c : Catalog}
    (ordered : (c.entries ++ es).Pairwise (fun a b => a.1 < b.1)) :
    (es.foldl (fun c e => c.insert e.1 e.2) c).entries = c.entries ++ es := by
  induction es generalizing c with
  | nil => simp
  | cons e es ih =>
    have above : ∀ x ∈ c.entries, x.1 < e.1 := by
      intro x held
      exact (List.pairwise_append.mp ordered).2.2 x held e List.mem_cons_self
    have inserted : (c.insert e.1 e.2).entries = c.entries ++ [e] :=
      insertEntry_of_above above e.2
    have ordered' : ((c.insert e.1 e.2).entries ++ es).Pairwise (fun a b => a.1 < b.1) := by
      rwa [inserted, List.append_assoc]
    rw [List.foldl_cons, ih ordered', inserted, List.append_assoc, List.singleton_append]

theorem ofList_entries (c : Catalog) : ofList c.entries = c := by
  ext1
  exact entries_foldl_insert (c := {}) c.ordered

theorem undoes : Undoes ofDocument? toJson := by
  intro c
  have entries : (c.entries.map fun e => (e.1, e.2.toJson)).mapM
      (fun e => (TypeDefinition.ofDocument? e.2).map (e.1, ·)) = some c.entries := by
    induction c.entries with
    | nil => rfl
    | cons e es ih => simp [TypeDefinition.undoes e.2, ih]
  simp only [ofDocument?, Option.bind_eq_bind, Option.bind_eq_some_iff]
  exact ⟨_, rfl, _, entries, congrArg some (ofList_entries c)⟩

end Catalog

theorem Contract.undoes : Undoes ofDocument? Contract.toJson := by
  intro c
  have known : fields? fieldNames c.toJson = some _ :=
    fields?_of_keysWithin (by decide) (by simp [fieldNames])
  exact bind_read known <|
    bind_read (Request.undoes.list.defaulted (by simp)) <|
    bind_read (Catalog.undoes.defaulted (by simp)) <|
    rfl

theorem TaggedRequest.undoes : Undoes ofDocument? TaggedRequest.toJson := by
  intro t
  have known : fields? fieldNames t.toJson = some _ :=
    fields?_of_keysWithin (by decide) (by simp [fieldNames])
  exact bind_read known <|
    bind_read (Request.undoes.required (by simp)) <|
    bind_read (undoes_text.list.required (by simp; rfl)) <|
    rfl

theorem Model.undoes : Undoes ofDocument? Model.toJson := by
  intro m
  have known : fields? fieldNames m.toJson = some _ :=
    fields?_of_keysWithin (by decide) (by simp [fieldNames])
  exact bind_read known <|
    bind_read (TaggedRequest.undoes.list.required (by simp)) <|
    bind_read (Catalog.undoes.required (by simp)) <|
    rfl

/-- What is read of a value is written in full, so that it is read again as the same. A word of
an open vocabulary is written as it was read, and is an unknown one only where no word is spelled
so. -/
theorem decoding_undoes_encoding :
    (Undoes Request.ofDocument? Request.toJson ∧
      Undoes TypeDefinition.ofDocument? TypeDefinition.toJson ∧
      Undoes Contract.ofDocument? Contract.toJson ∧
      Undoes Model.ofDocument? Model.toJson) ∧
    (∀ text, ∃ word : Resource, open? (Json.str text) = some word ∧ ofOpen word = .str text ∧
      (word.isKnown ↔ ∃ known : KnownResource, Vocabulary.spelling known = text)) ∧
    (∀ text, ∃ word : Operation, open? (Json.str text) = some word ∧ ofOpen word = .str text ∧
      (word.isKnown ↔ ∃ known : KnownOperation, Vocabulary.spelling known = text)) ∧
    (∀ text, ∃ word : Action, open? (Json.str text) = some word ∧ ofOpen word = .str text ∧
      (word.isKnown ↔ ∃ known : KnownAction, Vocabulary.spelling known = text)) :=
  ⟨⟨Request.undoes, TypeDefinition.undoes, Contract.undoes, Model.undoes⟩,
    open?_str, open?_str, open?_str⟩

end ApiContract
