import ApiContract.Document.Contract
import Mathlib.Data.List.Forall2
import Mathlib.Data.Option.Basic

set_option autoImplicit false

namespace ApiContract

namespace Document

variable {V W : Type}

def SameField (related : V → W → Prop) (f : String × V) (g : String × W) : Prop :=
  f.1 = g.1 ∧ related f.2 g.2

/-- Values that correspond are read alike, and their parts correspond again. -/
structure Agrees [Document V] [Document W] (related : V → W → Prop) : Prop where
  text : ∀ {v w}, related v w → text? v = text? w
  bool : ∀ {v w}, related v w → bool? v = bool? w
  status : ∀ {v w}, related v w → status? v = status? w
  absent : ∀ {v w}, related v w → isAbsent? v = isAbsent? w
  word : ∀ {v w}, related v w → word? v = word? w
  items : ∀ {v w}, related v w → Option.Rel (List.Forall₂ related) (items? v) (items? w)
  entries : ∀ {v w}, related v w →
    Option.Rel (List.Forall₂ (SameField related)) (entries? v) (entries? w)
  fields : ∀ {v w}, related v w → ∀ names,
    Option.Rel (List.Forall₂ (SameField related)) (fields? names v) (fields? names w)

variable {α : Type} {related : V → W → Prop} {read? : V → Option α} {read'? : W → Option α}

theorem mapM_congr {vs : List V} {ws : List W} (all : List.Forall₂ related vs ws)
    (alike : ∀ {v w}, related v w → read? v = read'? w) : vs.mapM read? = ws.mapM read'? := by
  induction all with
  | nil => rfl
  | cons head _ ih => rw [List.mapM_cons, List.mapM_cons, alike head, ih]

theorem bind_congr {β γ : Type} {corresponds : β → γ → Prop} {x : Option β} {y : Option γ}
    {f : β → Option α} {g : γ → Option α} (same : Option.Rel corresponds x y)
    (alike : ∀ b c, corresponds b c → f b = g c) : x.bind f = y.bind g := by
  cases same with
  | none => rfl
  | some corresponds => exact alike _ _ corresponds

theorem bind_rel {β γ β' γ' : Type} {corresponds : β → γ → Prop} {corresponds' : β' → γ' → Prop}
    {x : Option β} {y : Option γ} {f : β → Option β'} {g : γ → Option γ'}
    (same : Option.Rel corresponds x y)
    (alike : ∀ b c, corresponds b c → Option.Rel corresponds' (f b) (g c)) :
    Option.Rel corresponds' (x.bind f) (y.bind g) := by
  cases same with
  | none => exact .none
  | some corresponds => exact alike _ _ corresponds

section Fields

variable {fs : List (String × V)} {gs : List (String × W)}

theorem lookup_rel (same : List.Forall₂ (SameField related) fs gs) (name : String) :
    Option.Rel related (fs.lookup name) (gs.lookup name) := by
  induction same with
  | nil => exact .none
  | @cons f g _ _ head _ ih =>
    obtain ⟨key, value⟩ := f
    obtain ⟨rfl, corresponds⟩ : key = g.1 ∧ related value g.2 := head
    rw [List.lookup_cons, List.lookup_cons]
    split
    · exact .some corresponds
    · exact ih

theorem filter_rel (same : List.Forall₂ (SameField related) fs gs) (keep : String → Bool) :
    List.Forall₂ (SameField related) (fs.filter (keep ·.1)) (gs.filter (keep ·.1)) := by
  induction same with
  | nil => exact .nil
  | @cons f g _ _ head _ ih =>
    rw [List.filter_cons, List.filter_cons, head.1]
    split
    · exact .cons head ih
    · exact ih

theorem keys_eq (same : List.Forall₂ (SameField related) fs gs) :
    fs.map (·.1) = gs.map (·.1) := by
  induction same with
  | nil => rfl
  | cons head _ ih => rw [List.map_cons, List.map_cons, head.1, ih]

variable (same : List.Forall₂ (SameField related) fs gs)

include same

theorem required?_congr (alike : ∀ {v w}, related v w → read? v = read'? w) (name : String) :
    required? fs name read? = required? gs name read'? :=
  bind_congr (lookup_rel same name) fun _ _ => alike

theorem defaulted?_congr (alike : ∀ {v w}, related v w → read? v = read'? w) (name : String)
    (default : α) : defaulted? fs name read? default = defaulted? gs name read'? default := by
  have found := lookup_rel same name
  unfold defaulted?
  generalize fs.lookup name = x at found ⊢
  generalize gs.lookup name = y at found ⊢
  cases found with
  | none => rfl
  | some corresponds => exact alike corresponds

theorem optional?_congr [Document V] [Document W]
    (absent : ∀ {v w}, related v w → isAbsent? v = isAbsent? w)
    (alike : ∀ {v w}, related v w → read? v = read'? w) (name : String) :
    optional? fs name read? = optional? gs name read'? := by
  have found := lookup_rel same name
  unfold optional?
  generalize fs.lookup name = x at found ⊢
  generalize gs.lookup name = y at found ⊢
  cases found with
  | none => rfl
  | some corresponds => simp only [absent corresponds, alike corresponds]

end Fields

namespace Agrees

variable [Document V] [Document W] (agrees : Agrees related)

include agrees

theorem list (alike : ∀ {v w}, related v w → read? v = read'? w) {v : V} {w : W}
    (corresponds : related v w) : list? read? v = list? read'? w :=
  bind_congr (agrees.items corresponds) fun _ _ all => mapM_congr all alike

theorem closed [Vocabulary α] {v : V} {w : W} (corresponds : related v w) :
    (closed? v : Option α) = closed? w := by
  rw [closed?, closed?, agrees.word corresponds]

theorem openWord [Vocabulary α] {v : V} {w : W} (corresponds : related v w) :
    (open? v : Option (Open α)) = open? w := by
  rw [open?, open?, agrees.text corresponds]

theorem record {names : List String} {body : List (String × V) → Option α}
    {body' : List (String × W) → Option α} {v : V} {w : W} (corresponds : related v w)
    (alike : ∀ fs gs, List.Forall₂ (SameField related) fs gs → body fs = body' gs) :
    (fields? names v >>= body) = (fields? names w >>= body') :=
  bind_congr (agrees.fields corresponds names) alike

end Agrees

end Document

open Document

section Records

variable {V W : Type} [Document V] [Document W] {related : V → W → Prop} (agrees : Agrees related)
  {v : V} {w : W}

include agrees

-- In each record every field is read alike, whatever stands in the others.
theorem Param.ofDocument?_congr (corresponds : related v w) :
    Param.ofDocument? v = Param.ofDocument? w := by
  refine agrees.record corresponds fun fs gs same => ?_
  simp only [required?_congr same agrees.text, optional?_congr same agrees.absent agrees.text,
    defaulted?_congr same agrees.bool]

theorem ResponseType.ofDocument?_congr (corresponds : related v w) :
    ResponseType.ofDocument? v = ResponseType.ofDocument? w := by
  refine agrees.record corresponds fun fs gs same => ?_
  simp only [required?_congr same agrees.text, optional?_congr same agrees.absent agrees.text]

theorem ResponseCode.ofDocument?_congr (corresponds : related v w) :
    ResponseCode.ofDocument? v = ResponseCode.ofDocument? w := by
  refine agrees.record corresponds fun fs gs same => ?_
  simp only [required?_congr same agrees.status,
    defaulted?_congr same (agrees.list (ResponseType.ofDocument?_congr agrees))]

theorem Request.ofDocument?_congr (corresponds : related v w) :
    Request.ofDocument? v = Request.ofDocument? w := by
  refine agrees.record corresponds fun fs gs same => ?_
  simp only [required?_congr same agrees.text, required?_congr same (agrees.closed (α := Family)),
    optional?_congr same agrees.absent (agrees.closed (α := Verb)),
    optional?_congr same agrees.absent (agrees.closed (α := Requirement)),
    optional?_congr same agrees.absent (agrees.closed (α := Multiplicity)),
    optional?_congr same agrees.absent agrees.openWord, defaulted?_congr same agrees.bool,
    defaulted?_congr same (agrees.list (ResponseCode.ofDocument?_congr agrees)),
    defaulted?_congr same (agrees.list (Param.ofDocument?_congr agrees))]

theorem AnnotationElement.ofDocument?_congr (corresponds : related v w) :
    AnnotationElement.ofDocument? v = AnnotationElement.ofDocument? w := by
  refine agrees.record corresponds fun fs gs same => ?_
  simp only [required?_congr same agrees.text, optional?_congr same agrees.absent agrees.text]

theorem Annotation.ofDocument?_congr (corresponds : related v w) :
    Annotation.ofDocument? v = Annotation.ofDocument? w := by
  refine agrees.record corresponds fun fs gs same => ?_
  simp only [required?_congr same agrees.text,
    defaulted?_congr same (agrees.list (AnnotationElement.ofDocument?_congr agrees))]

theorem Element.ofDocument?_congr (corresponds : related v w) :
    Element.ofDocument? v = Element.ofDocument? w := by
  refine agrees.record corresponds fun fs gs same => ?_
  have alike {v : V} {w : W} (corresponds : related v w) :
      Annotation.ofDocument? v = Annotation.ofDocument? w :=
    Annotation.ofDocument?_congr agrees corresponds
  simp only [required?_congr same agrees.text, optional?_congr same agrees.absent agrees.text,
    defaulted?_congr same agrees.bool, defaulted?_congr same (agrees.list alike)]

theorem Property.ofDocument?_congr (corresponds : related v w) :
    Property.ofDocument? v = Property.ofDocument? w := by
  refine agrees.record corresponds fun fs gs same => ?_
  simp only [required?_congr same agrees.text, optional?_congr same agrees.absent agrees.text]

theorem EnumConstant.ofDocument?_congr (corresponds : related v w) :
    EnumConstant.ofDocument? v = EnumConstant.ofDocument? w := by
  refine agrees.record corresponds fun fs gs same => ?_
  simp only [required?_congr same agrees.text,
    defaulted?_congr same (agrees.list (Property.ofDocument?_congr agrees))]

theorem TypeDefinition.ofDocument?_congr (corresponds : related v w) :
    TypeDefinition.ofDocument? v = TypeDefinition.ofDocument? w := by
  refine agrees.record corresponds fun fs gs same => ?_
  simp only [required?_congr same agrees.text, optional?_congr same agrees.absent agrees.text,
    defaulted?_congr same (agrees.list (Element.ofDocument?_congr agrees)),
    optional?_congr same agrees.absent (agrees.list (EnumConstant.ofDocument?_congr agrees))]

theorem Catalog.ofDocument?_congr (corresponds : related v w) :
    Catalog.ofDocument? v = Catalog.ofDocument? w := by
  refine bind_congr (agrees.entries corresponds) fun es es' same => ?_
  rw [mapM_congr same]
  rintro ⟨key, d⟩ ⟨key', d'⟩ ⟨rfl, corresponds⟩
  simp only [TypeDefinition.ofDocument?_congr agrees corresponds]

theorem Contract.ofDocument?_congr (corresponds : related v w) :
    Contract.ofDocument? v = Contract.ofDocument? w := by
  refine agrees.record corresponds fun fs gs same => ?_
  simp only [defaulted?_congr same (agrees.list (Request.ofDocument?_congr agrees)),
    defaulted?_congr same (Catalog.ofDocument?_congr agrees)]

end Records

end ApiContract
