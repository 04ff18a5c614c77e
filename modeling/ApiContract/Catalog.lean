import ApiContract.TypeDefinition

set_option autoImplicit false

namespace ApiContract

-- Keys are compared by code points and each occurs once, so that catalogs with the same definitions
-- under the same keys are equal.
structure Catalog where
  entries : List (String × TypeDefinition) := []
  ordered : entries.Pairwise (fun a b => a.1 < b.1) := by exact .nil

namespace Catalog

def empty : Catalog where

def insertEntry (key : String) (d : TypeDefinition) :
    List (String × TypeDefinition) → List (String × TypeDefinition)
  | [] => [(key, d)]
  | e :: es =>
    if key < e.1 then (key, d) :: e :: es
    else if key = e.1 then (key, d) :: es
    else e :: insertEntry key d es

theorem mem_insertEntry {key : String} {d : TypeDefinition}
    {es : List (String × TypeDefinition)} {x : String × TypeDefinition}
    (h : x ∈ insertEntry key d es) : x = (key, d) ∨ x ∈ es := by
  induction es with
  | nil => simpa [insertEntry] using h
  | cons e es ih =>
    unfold insertEntry at h
    split at h
    · simpa using h
    · split at h
      · rcases List.mem_cons.mp h with h | h
        · exact .inl h
        · exact .inr (List.mem_cons_of_mem _ h)
      · rcases List.mem_cons.mp h with h | h
        · exact .inr (h ▸ List.mem_cons_self)
        · exact (ih h).imp id (List.mem_cons_of_mem _)

theorem ordered_insertEntry (key : String) (d : TypeDefinition)
    {es : List (String × TypeDefinition)} (h : es.Pairwise (fun a b => a.1 < b.1)) :
    (insertEntry key d es).Pairwise (fun a b => a.1 < b.1) := by
  induction es with
  | nil => simp [insertEntry]
  | cons e es ih =>
    have ⟨first, rest⟩ := List.pairwise_cons.mp h
    unfold insertEntry
    split
    case isTrue below =>
      refine List.pairwise_cons.mpr ⟨fun x hx => ?_, h⟩
      rcases List.mem_cons.mp hx with rfl | hx
      · exact below
      · exact String.lt_trans below (first x hx)
    case isFalse notBelow =>
      split
      case isTrue same =>
        exact List.pairwise_cons.mpr ⟨fun x hx => same ▸ first x hx, rest⟩
      case isFalse different =>
        have above : e.1 < key := by
          rcases Decidable.em (e.1 < key) with lt | notLt
          · exact lt
          · exact absurd (String.le_antisymm (String.not_lt.mp notLt) (String.not_lt.mp notBelow))
              different
        refine List.pairwise_cons.mpr ⟨fun x hx => ?_, ih rest⟩
        rcases mem_insertEntry hx with rfl | hx
        · exact above
        · exact first x hx

def insert (c : Catalog) (key : String) (d : TypeDefinition) : Catalog :=
  ⟨insertEntry key d c.entries, ordered_insertEntry key d c.ordered⟩

-- The last of several definitions under one key counts.
def ofList (entries : List (String × TypeDefinition)) : Catalog :=
  entries.foldl (fun c e => c.insert e.1 e.2) {}

def get? (c : Catalog) (key : String) : Option TypeDefinition :=
  c.entries.lookup key

def contains (c : Catalog) (key : String) : Bool :=
  (c.get? key).isSome

def keys (c : Catalog) : List String :=
  c.entries.map (·.1)

def definitions (c : Catalog) : List TypeDefinition :=
  c.entries.map (·.2)

def size (c : Catalog) : Nat :=
  c.entries.length

def restrict (c : Catalog) (keep : String → Bool) : Catalog :=
  ⟨c.entries.filter (keep ·.1), c.ordered.filter _⟩

def isEnum (c : Catalog) (key : String) : Bool :=
  (c.get? key).any (·.isEnum)

@[ext] theorem ext {c d : Catalog} (h : c.entries = d.entries) : c = d := by
  cases c; cases d; cases h; rfl

instance : DecidableEq Catalog := fun c d =>
  decidable_of_iff (c.entries = d.entries) ⟨ext, fun h => h ▸ rfl⟩

end Catalog

end ApiContract
