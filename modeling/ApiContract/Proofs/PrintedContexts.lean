import ApiContract.Context
import ApiContract.Document.Contract
import ApiContract.Proofs.PrintedJson

set_option autoImplicit false

namespace ApiContract

namespace Json

section Readable

variable {α : Type} {toJson : α → Json} {fields others : List (String × Json)} {key : String}
  {v : Json}

attribute [simp] Readable.null Readable.bool Readable.int Readable.str

@[simp] theorem readable_arr_iff {items : List Json} :
    Readable (.arr items) ↔ ∀ v ∈ items, Readable v :=
  ⟨fun | .arr each => each, .arr⟩

def ReadableFields (fields : List (String × Json)) : Prop :=
  ∀ f ∈ fields, Readable f.2

@[simp] theorem readable_obj_iff : Readable (.obj fields) ↔ ReadableFields fields :=
  ⟨fun | .obj each => each, .obj⟩

@[simp] theorem readableFields_nil : ReadableFields [] := by
  simp [ReadableFields]

@[simp] theorem readableFields_cons :
    ReadableFields ((key, v) :: fields) ↔ Readable v ∧ ReadableFields fields :=
  List.forall_mem_cons

@[simp] theorem readableFields_append :
    ReadableFields (fields ++ others) ↔ ReadableFields fields ∧ ReadableFields others :=
  List.forall_mem_append

@[simp] theorem readable_ofNat (n : Nat) : Readable (.ofNat n) :=
  .int n

@[simp] theorem readable_ofText? (text : Option String) : Readable (.ofText? text) := by
  cases text <;> simp [ofText?]

@[simp] theorem readable_ofTexts (texts : List String) : Readable (.ofTexts texts) := by
  simp [ofTexts]

@[simp] theorem readable_getD_null {value : Option α} (each : ∀ a, Readable (toJson a)) :
    Readable ((value.map toJson).getD .null) := by
  cases value <;> simp [each]

@[simp] theorem readableFields_optionalField {value : Option α} (each : ∀ a, Readable (toJson a)) :
    ReadableFields (optionalField key toJson value) := by
  cases value <;> simp [optionalField, each]

@[simp] theorem readableFields_listField {values : List α} (each : ∀ a, Readable (toJson a)) :
    ReadableFields (listField key toJson values) := by
  cases values <;> simp [listField, each]

theorem readableFields_insertField (added : Readable v) (each : ReadableFields fields) :
    ReadableFields (insertField key v fields) := by
  induction fields with
  | nil => simpa [insertField] using added
  | cons f fs ih =>
    obtain ⟨first, others⟩ := List.forall_mem_cons.mp each
    unfold insertField
    split
    · exact List.forall_mem_cons.mpr ⟨first, ih others⟩
    · exact List.forall_mem_cons.mpr ⟨added, each⟩

theorem Readable.sorted (readable : Readable v) : Readable v.sorted := by
  induction readable with
  | @arr items before each =>
    clear before
    rw [Json.sorted, readable_arr_iff]
    induction items with
    | nil => simp [sortedItems]
    | cons v vs ih =>
      obtain ⟨first, others⟩ := List.forall_mem_cons.mp each
      exact List.forall_mem_cons.mpr ⟨first, ih others⟩
  | @obj fields before each =>
    clear before
    rw [Json.sorted, readable_obj_iff]
    induction fields with
    | nil => simp [sortedFields]
    | cons f fs ih =>
      obtain ⟨first, others⟩ := List.forall_mem_cons.mp each
      exact readableFields_insertField first (ih others)
  | real number => exact .real number
  | _ => simp [Json.sorted]

end Readable

end Json

open Json

theorem readable_ofWord {α : Type} [Vocabulary α] (word : α) : Readable (ofWord word) :=
  .str _

theorem readable_ofOpen {α : Type} [Vocabulary α] (word : Open α) : Readable (ofOpen word) :=
  .str _

section Records

attribute [local simp] readable_ofWord readable_ofOpen

@[simp] theorem Param.readable_toJson (p : Param) : Readable p.toJson := by
  simp [toJson]

@[simp] theorem ResponseType.readable_toJson (t : ResponseType) : Readable t.toJson := by
  simp [toJson]

@[simp] theorem ResponseCode.readable_toJson (rc : ResponseCode) : Readable rc.toJson := by
  simp [toJson]

@[simp] theorem Request.readable_toJson (r : Request) : Readable r.toJson := by
  simp [toJson]

@[simp] theorem AnnotationElement.readable_toJson (e : AnnotationElement) : Readable e.toJson := by
  simp [toJson]

@[simp] theorem Annotation.readable_toJson (a : Annotation) : Readable a.toJson := by
  simp [toJson]

@[simp] theorem Element.readable_toJson (e : Element) : Readable e.toJson := by
  simp [toJson]

@[simp] theorem Property.readable_toJson (p : Property) : Readable p.toJson := by
  simp [toJson]

@[simp] theorem EnumConstant.readable_toJson (c : EnumConstant) : Readable c.toJson := by
  simp [toJson]

@[simp] theorem TypeDefinition.readable_toJson (d : TypeDefinition) : Readable d.toJson := by
  cases kind : d.kind <;> simp [toJson, kind]

@[simp] theorem Catalog.readable_toJson (c : Catalog) : Readable c.toJson := by
  rw [toJson, readable_obj_iff]
  exact List.forall_mem_map.mpr fun e _ => e.2.readable_toJson

@[simp] theorem TaggedRequest.readable_toJson (t : TaggedRequest) : Readable t.toJson := by
  simp [toJson]

theorem Model.readable_toJson (m : Model) : Readable m.toJson := by
  simp [toJson]

theorem Generic.RequestContext.readable_toJson (c : Generic.RequestContext) : Readable c.toJson :=
  Readable.sorted (by simp)

theorem Generic.TypeContext.readable_toJson (c : Generic.TypeContext) : Readable c.toJson :=
  Readable.sorted (by simp)

@[simp] theorem Rust.Arg.readable_toJson (a : Rust.Arg) : Readable a.toJson := by
  simp [toJson]

@[simp] theorem Rust.Payload.readable_toJson (p : Rust.Payload) : Readable p.toJson := by
  simp [toJson]

theorem Rust.RequestContext.readable_toJson (c : Rust.RequestContext) : Readable c.toJson :=
  Readable.sorted (by simp)

@[simp] theorem Rust.Field.readable_toJson (f : Rust.Field) : Readable f.toJson := by
  simp [toJson]

@[simp] theorem Rust.Variant.readable_toJson (v : Rust.Variant) : Readable v.toJson := by
  simp [toJson]

theorem Rust.TypeContext.readable_toJson (c : Rust.TypeContext) : Readable c.toJson :=
  Readable.sorted (by simp)

theorem Contexts.readable_toJson (c : Contexts) : Readable c.toJson := by
  have requests : ∀ v ∈ c.requestsJson, Readable v := by
    cases c with
    | rust contexts => simp [requestsJson, Rust.RequestContext.readable_toJson]
    | generic contexts => simp [requestsJson, Generic.RequestContext.readable_toJson]
  have types : ∀ v ∈ c.typesJson, Readable v := by
    cases c with
    | rust contexts => simp [typesJson, Rust.TypeContext.readable_toJson]
    | generic contexts => simp [typesJson, Generic.TypeContext.readable_toJson]
  have ordered {vs : List Json} (each : ∀ v ∈ vs, Readable v) :
      Readable (.arr (vs.map Json.sorted)) :=
    .arr (List.forall_mem_map.mpr fun v inside => (each v inside).sorted)
  simp [toJson, ordered requests, ordered types]

end Records

end ApiContract
