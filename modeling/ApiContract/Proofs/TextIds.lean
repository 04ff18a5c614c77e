import ApiContract.Proofs.ConstructorArgs

set_option autoImplicit false

namespace ApiContract.Rust

open Param

/-- What becomes of an argument where ids are taken as text. -/
structure Arg.TakenAsText (plain text : Arg) : Prop where
  name : text.name = plain.name
  kind : text.kind = plain.kind
  id : plain.contractType = uuidType →
    text.contractType = stringType ∧ text.targetType = "String"
  other : plain.contractType ≠ uuidType →
    text.contractType = plain.contractType ∧ text.targetType = plain.targetType

variable {r : Request} {p : Param} {ps : List Param}

theorem usesType_iff {typeName : String} :
    usesType ps typeName = true ↔ ∃ p ∈ ps, p.typeName = typeName := by
  simp [usesType]

theorem usesType_replaceType {old new : String} (different : new ≠ old) :
    usesType (replaceType ps old new) old = false := by
  simp only [usesType, replaceType, List.any_eq_false, List.forall_mem_map, beq_iff_eq]
  intro p _
  split_ifs with uses
  · exact different
  · exact uses

theorem typeFor_stringType (componentType : Option String) :
    typeFor stringType componentType = "String" := by
  have single : stringType ≠ "array" := by decide
  rw [typeFor, if_neg single]
  rfl

theorem takenAsText_constructorArgs (r : Request) (ps : List Param) :
    List.Forall₂ Arg.TakenAsText (constructorArgs r ps)
      (constructorArgs r (replaceType ps uuidType stringType)) := by
  rw [constructorArgs, constructorArgs, replaceType, List.map_map, List.forall₂_map_left_iff,
    List.forall₂_map_right_iff, List.forall₂_same]
  intro p _
  by_cases id : p.typeName = uuidType
  · simp only [Function.comp_apply, if_pos id, argKind_retyped]
    exact ⟨rfl, rfl, fun _ => ⟨rfl, typeFor_stringType p.componentType⟩,
      fun other => absurd id other⟩
  · simp only [Function.comp_apply, if_neg id]
    exact ⟨rfl, rfl, fun same => absurd same id, fun _ => ⟨rfl, rfl⟩⟩

theorem exists_id_iff :
    (∃ a ∈ constructorArgs r ps, a.contractType = uuidType) ↔ usesType ps uuidType = true := by
  simp [constructorArgs, usesType, Arg.ofParam]

section Built

variable {tags : List String} {context : RequestContext}

theorem stringIdArgs_eq_some_iff (built : requestContext ⟨r, tags⟩ = .ok context)
    {texts : List Arg} :
    context.stringIdConstructorArgs = some texts ↔ usesType r.constructorArgs uuidType = true ∧
      constructorArgs r (replaceType r.constructorArgs uuidType stringType) = texts := by
  rw [(arguments_of_requestContext built).2.1, Option.ite_none_right_eq_some, Option.some.injEq]

theorem stringIdArgs_line_up (built : requestContext ⟨r, tags⟩ = .ok context) :
    (context.stringIdConstructorArgs.isSome = true ↔
        ∃ a ∈ context.constructorArgs, a.contractType = uuidType) ∧
      (context.stringIdConstructorArgs.isSome = true ↔
        ∃ p ∈ r.constructorArgs, p.typeName = uuidType) ∧
      ∀ texts, context.stringIdConstructorArgs = some texts →
        texts.length = context.constructorArgs.length ∧
          List.Forall₂ Arg.TakenAsText context.constructorArgs texts ∧
          ∀ a ∈ texts, a.contractType ≠ uuidType := by
  have presence : context.stringIdConstructorArgs.isSome = true ↔
      usesType r.constructorArgs uuidType = true := by
    simp [Option.isSome_iff_exists, stringIdArgs_eq_some_iff built]
  rw [(arguments_of_requestContext built).1, exists_id_iff, ← usesType_iff]
  refine ⟨presence, presence, fun texts present => ?_⟩
  obtain ⟨-, rfl⟩ := (stringIdArgs_eq_some_iff built).mp present
  have taken := takenAsText_constructorArgs r r.constructorArgs
  refine ⟨taken.length_eq.symm, taken, fun text listed id => ?_⟩
  have kept := exists_id_iff.mp ⟨text, listed, id⟩
  rw [usesType_replaceType (by decide)] at kept
  exact absurd kept (by decide)

end Built

-- The id in the path is required once more, and a list of ids is no id.
def reassignRequest : Request where
  name := "com.acme.ReassignJobRequest"
  family := .managementApi
  resource := some (.known .job)
  multiplicity := some .nonSingleton
  requiredParams := [
    { name := "JobId", typeName := uuidType },
    { name := "Ids", typeName := "array", componentType := some uuidType },
    { name := "Priority", typeName := "com.acme.Priority" }]

theorem stringIdArgs_line_up_reassignRequest :
    ∃ context texts, requestContext ⟨reassignRequest, []⟩ = .ok context ∧
      context.constructorArgs.map (·.contractType) =
        [uuidType, uuidType, "array", "com.acme.Priority"] ∧
      context.stringIdConstructorArgs = some texts ∧ texts.length = 4 ∧
      List.Forall₂ Arg.TakenAsText context.constructorArgs texts ∧
      ∀ a ∈ texts, a.contractType ≠ uuidType := by
  obtain ⟨context, built⟩ : ∃ context, requestContext ⟨reassignRequest, []⟩ = .ok context :=
    requestContext_succeeds_iff.mpr (by decide +kernel)
  obtain ⟨presence, -, linedUp⟩ := stringIdArgs_line_up built
  have types : context.constructorArgs.map (·.contractType) =
      [uuidType, uuidType, "array", "com.acme.Priority"] := by
    rw [(arguments_of_requestContext built).1, contractType_constructorArgs,
      Request.constructorArgs, sortArgs_eq]
    decide +kernel
  have id : uuidType ∈ context.constructorArgs.map (·.contractType) := by simp [types]
  obtain ⟨texts, present⟩ :=
    Option.isSome_iff_exists.mp (presence.mpr (by simpa [eq_comm] using id))
  obtain ⟨length, taken, noId⟩ := linedUp texts present
  refine ⟨context, texts, built, types, present, ?_, taken, noId⟩
  simpa [length] using congrArg List.length types

end ApiContract.Rust
