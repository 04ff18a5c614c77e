import ApiContract.Context.Rust
import ApiContract.Proofs.CamelCase
import Mathlib.Data.List.Forall2

set_option autoImplicit false

namespace ApiContract.Rust

theorem typeContext_of_enum {d : TypeDefinition} {constants : List EnumConstant}
    (enumeration : d.kind = .enum constants) :
    ∃ context, typeContext d = .ok context ∧ context.variants = constants.map variant := by
  have none : d.elements = [] := by rw [TypeDefinition.elements, enumeration]
  have all : d.constants = constants := by rw [TypeDefinition.constants, enumeration]
  rw [typeContext, none, all]
  exact ⟨_, rfl, rfl⟩

theorem nodup_variants_iff {constants : List EnumConstant}
    (spelled : ∀ c ∈ constants, Name.IsConstant c.name) :
    ((constants.map variant).map (·.name)).Nodup ↔
      (constants.map fun c => Name.withoutDigitBreaks c.name).Nodup := by
  simp only [List.Nodup, List.pairwise_map]
  refine List.Pairwise.iff_of_mem fun first second => ?_
  exact not_congr (Name.upperCamelCase_eq_iff (spelled _ first) (spelled _ second))

theorem variants_distinct_iff {d : TypeDefinition} {constants : List EnumConstant}
    (enumeration : d.kind = .enum constants)
    (spelled : ∀ c ∈ constants, Name.IsConstant c.name) :
    ∃ context, typeContext d = .ok context ∧
      List.Forall₂ (fun c v => v.wireName = c.name) constants context.variants ∧
      ((context.variants.map (·.name)).Nodup ↔
        (constants.map fun c => Name.withoutDigitBreaks c.name).Nodup) ∧
      ((∀ c ∈ constants, ¬Name.HasDigitBreak c.name) → (constants.map (·.name)).Nodup →
        (context.variants.map (·.name)).Nodup) := by
  obtain ⟨context, succeeds, variants⟩ := typeContext_of_enum enumeration
  have distinct := nodup_variants_iff spelled
  refine ⟨context, succeeds, ?_⟩
  rw [variants]
  refine ⟨?wires, distinct, fun unbroken different => distinct.mpr ?unbroken⟩
  case wires =>
    rw [List.forall₂_map_right_iff, List.forall₂_same]
    exact fun c _ => rfl
  case unbroken =>
    have same : (constants.map fun c => Name.withoutDigitBreaks c.name) =
        constants.map (·.name) :=
      List.map_congr_left fun c member => Name.withoutDigitBreaks_eq_self (unbroken c member)
    rwa [same]

def tapeType (constants : List EnumConstant) : TypeDefinition where
  name := "com.acme.TapeType"
  kind := .enum constants

def tapeConstants : List EnumConstant :=
  [{ name := "LTO5" }, { name := "LTO_M8" }, { name := "LTOM8" }]

theorem variants_distinct_iff_tapeType :
    (tapeType tapeConstants).kind = .enum tapeConstants ∧
      (∀ c ∈ tapeConstants, Name.IsConstant c.name) ∧
      ∃ context, typeContext (tapeType tapeConstants) = .ok context ∧
        (context.variants.map (·.name)).Nodup := by
  have spelled : ∀ c ∈ tapeConstants, Name.IsConstant c.name := by
    have first : Name.IsConstant "LTO5" := ⟨["LTO5".toList], by decide, by decide⟩
    have second : Name.IsConstant "LTO_M8" :=
      ⟨["LTO".toList, "M8".toList], by decide, by decide⟩
    have third : Name.IsConstant "LTOM8" := ⟨["LTOM8".toList], by decide, by decide⟩
    simp [tapeConstants, first, second, third]
  have unbroken : ∀ c ∈ tapeConstants, ¬Name.HasDigitBreak c.name := by
    simp [tapeConstants, Name.HasDigitBreak, List.infix_cons_iff, List.cons_prefix_cons]
  obtain ⟨context, succeeds, -, -, distinct⟩ :=
    variants_distinct_iff (d := tapeType tapeConstants) rfl spelled
  exact ⟨rfl, spelled, context, succeeds, distinct unbroken (by decide)⟩

-- Before a digit, a word begins with or without a break.
theorem variants_collide :
    ∃ first second : String, Name.IsConstant first ∧ Name.IsConstant second ∧ first ≠ second ∧
      ∃ context, typeContext (tapeType [{ name := first }, { name := second }]) = .ok context ∧
        context.variants.map (·.name) = ["Lto5", "Lto5"] := by
  obtain ⟨context, succeeds, variants⟩ :=
    typeContext_of_enum (d := tapeType [{ name := "LTO5" }, { name := "LTO_5" }]) rfl
  refine ⟨"LTO5", "LTO_5", ?first, ?second, by decide, context, succeeds, ?_⟩
  case first => exact ⟨["LTO5".toList], by decide, by decide⟩
  case second => exact ⟨["LTO".toList, "5".toList], by decide, by decide⟩
  rw [variants]
  decide

end ApiContract.Rust
