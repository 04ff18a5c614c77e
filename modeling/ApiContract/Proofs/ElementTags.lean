import ApiContract.Proofs.Naming
import ApiContract.Proofs.TargetAgreement

set_option autoImplicit false

namespace ApiContract

theorem Annotation.value?_eq_some_iff {a : Annotation} {name value : String} :
    a.value? name = some value ↔
      ∃ before entry after, a.elements = before ++ entry :: after ∧
        (∀ earlier ∈ before, earlier.name ≠ name) ∧ entry.name = name ∧ entry.value = value := by
  simp only [value?, Option.map_eq_some_iff, List.find?_eq_some_iff_append, beq_iff_eq,
    Bool.not_eq_true', beq_eq_false_iff_ne]
  constructor
  · intro ⟨entry, ⟨here, before, after, split, passed⟩, found⟩
    exact ⟨before, entry, after, split, passed, here, found⟩
  · intro ⟨before, entry, after, split, passed, here, found⟩
    exact ⟨entry, ⟨here, before, after, split, passed⟩, found⟩

/-- The annotation is one of a custom name, whose first `Value` is this tag and not empty. -/
structure Annotation.AsksFor (a : Annotation) (tag : String) : Prop where
  custom : "CustomMarshaledName".toList <:+ a.name.toList
  first : ∃ before entry after, a.elements = before ++ entry :: after ∧
    (∀ earlier ∈ before, earlier.name ≠ "Value") ∧ entry.name = "Value" ∧ entry.value = tag
  nonempty : tag ≠ ""

namespace Element

variable {e : Element} {tag : String}

def AsksFor (e : Element) (tag : String) : Prop :=
  ∃ a ∈ e.annotations, a.AsksFor tag

theorem mem_customTags : tag ∈ e.customTags ↔ e.AsksFor tag := by
  simp only [customTags, List.mem_filter, List.mem_filterMap, Annotation.isCustomName,
    Name.endsIn_iff, Annotation.value?_eq_some_iff, decide_eq_true_eq]
  constructor
  · intro ⟨⟨a, ⟨listed, custom⟩, first⟩, nonempty⟩
    exact ⟨a, listed, custom, first, nonempty⟩
  · intro ⟨a, listed, asks⟩
    exact ⟨⟨a, ⟨listed, asks.custom⟩, asks.first⟩, asks.nonempty⟩

theorem tag?_fails_iff :
    (∃ error, e.tag? = .error error) ↔ ∃ v w, e.AsksFor v ∧ e.AsksFor w ∧ v ≠ w := by
  have different : (∃ v w, e.AsksFor v ∧ e.AsksFor w ∧ v ≠ w) ↔
      ∃ first second rest, collapseRuns e.customTags = first :: second :: rest := by
    simp only [← exists_ne_iff, mem_customTags, exists_and_left]
  rw [different, tag?]
  generalize collapseRuns e.customTags = runs
  rcases runs with _ | ⟨_, _ | _⟩ <;> simp

theorem tag?_eq_ok_iff :
    e.tag? = .ok tag ↔
      (e.AsksFor tag ∧ ∀ other, e.AsksFor other → other = tag) ∨
        (∀ other, ¬e.AsksFor other) ∧ tag = e.name := by
  have one : (e.AsksFor tag ∧ ∀ other, e.AsksFor other → other = tag) ↔
      collapseRuns e.customTags = [tag] := by
    simp only [collapseRuns_eq_singleton, mem_customTags]
  have none : (∀ other, ¬e.AsksFor other) ↔ collapseRuns e.customTags = [] := by
    rw [collapseRuns_eq_nil, List.eq_nil_iff_forall_not_mem]
    simp only [mem_customTags]
  rw [one, none, tag?]
  generalize collapseRuns e.customTags = runs
  rcases runs with _ | ⟨_, _ | _⟩ <;> simp [eq_comm]

theorem tag?_congr {other : Element} (name : other.name = e.name)
    (same : ∀ tag, other.AsksFor tag ↔ e.AsksFor tag) :
    other.tag?.toOption = e.tag?.toOption := by
  cases first : e.tag? with
  | ok tag =>
    have second : other.tag? = .ok tag := by
      simpa only [tag?_eq_ok_iff, same, name] using tag?_eq_ok_iff.mp first
    rw [second]
  | error error =>
    have fails : ∃ error, other.tag? = .error error := by
      simpa only [tag?_fails_iff, same] using tag?_fails_iff.mp ⟨error, first⟩
    obtain ⟨error', second⟩ := fails
    rw [second]
    rfl

theorem asksFor_of_perm {annotations silent : List Annotation}
    (order : (e.annotations ++ silent).Perm annotations)
    (asksNothing : ∀ a ∈ silent, ∀ tag, ¬a.AsksFor tag) (tag : String) :
    { e with annotations }.AsksFor tag ↔ e.AsksFor tag := by
  have silentAll : ¬∃ a ∈ silent, a.AsksFor tag :=
    fun ⟨a, listed, asks⟩ => asksNothing a listed tag asks
  simp only [AsksFor, ← order.mem_iff, List.mem_append, or_and_right, exists_or, silentAll,
    or_false]

end Element

theorem Rust.field_eq_error_iff {e : Element} {error : Error} :
    field e = .error error ↔ e.tag? = .error error := by
  simp only [field, bind_eq_error]
  simp [pure, Except.pure]

theorem Rust.typeContext_eq_error_iff {d : TypeDefinition} {error : Error} :
    typeContext d = .error error ↔ FirstFailure Element.tag? d.elements error := by
  rw [← FirstFailure.congr fun e error => field_eq_error_iff, ← mapM_eq_error_iff]
  simp [typeContext, bind_eq_error, pure, Except.pure]

theorem tags_settled :
    (∀ e : Element,
      ((∃ error, e.tag? = .error error) ↔ ∃ v w, e.AsksFor v ∧ e.AsksFor w ∧ v ≠ w) ∧
      (∀ tag, e.tag? = .ok tag ↔
        (e.AsksFor tag ∧ ∀ other, e.AsksFor other → other = tag) ∨
          (∀ other, ¬e.AsksFor other) ∧ tag = e.name) ∧
      ∀ annotations silent, (e.annotations ++ silent).Perm annotations →
        (∀ a ∈ silent, ∀ tag, ¬a.AsksFor tag) →
          { e with annotations }.tag?.toOption = e.tag?.toOption) ∧
    ∀ name nameToMarshal elements,
      let d : TypeDefinition := { name, nameToMarshal, kind := .struct elements }
      ((∃ error, Rust.typeContext d = .error error) ↔
        ∃ e ∈ elements, ∃ error, e.tag? = .error error) ∧
      ∀ error, Rust.typeContext d = .error error ↔ FirstFailure Element.tag? elements error := by
  constructor
  · intro e
    refine ⟨Element.tag?_fails_iff, fun tag => Element.tag?_eq_ok_iff, ?_⟩
    intro annotations silent order asksNothing
    exact Element.tag?_congr rfl (Element.asksFor_of_perm order asksNothing)
  · intro name nameToMarshal elements d
    have fails (error : Error) :
        Rust.typeContext d = .error error ↔ FirstFailure Element.tag? elements error :=
      Rust.typeContext_eq_error_iff
    exact ⟨(exists_congr fails).trans exists_firstFailure_iff, fails⟩

def customName (values : List String) : Annotation where
  name := "com.acme.CustomMarshaledName"
  elements := { name := "CollectionValue", value := "Buckets" } ::
    values.map fun value => { name := "Value", value }

def bucketElement : Element where
  name := "Buckets"
  typeName := "array"
  annotations := [customName ["Bucket", "Pail"], customName ["Bucket"]]

-- None of these asks for a tag: a first value that is empty, no value, another name.
def silentAnnotations : List Annotation :=
  [customName ["", "Pail"], customName [],
    { name := "com.acme.SinceVersion", elements := [{ name := "Value", value := "4" }] }]

-- The two tags that differ are not next to each other.
def mixedElement : Element :=
  { bucketElement with
    name := "Mixed"
    annotations :=
      [customName ["Bucket"], customName [""], customName ["Pail"], customName ["Bucket"]] }

theorem tags_settled_bucketElement :
    bucketElement.tag? = .ok "Bucket" ∧
      { bucketElement with
        annotations := (bucketElement.annotations ++ silentAnnotations).reverse }.tag?.toOption =
          some "Bucket" ∧
      (∃ error, mixedElement.tag? = .error error) ∧
      ∃ error, mixedElement.tag? = .error error ∧
        Rust.typeContext
          { name := "com.acme.Listing"
            kind := .struct [bucketElement, mixedElement, { mixedElement with name := "Last" }] } =
          .error error := by
  obtain ⟨each, structures⟩ := tags_settled
  have tagged : bucketElement.tag? = .ok "Bucket" := by decide
  have asksNothing : ∀ a ∈ silentAnnotations, ∀ tag, ¬a.AsksFor tag := by
    intro a listed tag asks
    have member : tag ∈ { bucketElement with annotations := silentAnnotations }.customTags :=
      Element.mem_customTags.mpr ⟨a, listed, asks⟩
    have none : { bucketElement with annotations := silentAnnotations }.customTags = [] := by
      decide
    rw [none] at member
    exact absurd member List.not_mem_nil
  have reordered :=
    (each bucketElement).2.2 _ silentAnnotations (List.reverse_perm _).symm asksNothing
  have asks (value : String) (listed : value ∈ mixedElement.customTags) :
      mixedElement.AsksFor value :=
    Element.mem_customTags.mp listed
  obtain ⟨error, fails⟩ := (each mixedElement).1.mpr
    ⟨"Bucket", "Pail", asks _ (by decide), asks _ (by decide +kernel), by decide⟩
  refine ⟨tagged, by rw [reordered, tagged]; rfl, ⟨error, fails⟩, error, fails, ?_⟩
  refine ((structures _ _ _).2 error).mpr ⟨[bucketElement], mixedElement, _, rfl, ?_, fails⟩
  simp [tagged]

end ApiContract
