import ApiContract.Proofs.StableOrder
import ApiContract.Proofs.TargetAgreement

set_option autoImplicit false

namespace ApiContract

namespace Param

theorem rank_lt (p : Param) : p.rank < 3 := by
  unfold rank
  split_ifs <;> decide

theorem rank_eq_zero_iff {p : Param} : p.rank = 0 ↔ p.name = bucketName := by
  unfold rank
  split_ifs <;> simp_all

theorem rank_eq_one_iff {p : Param} : p.rank = 1 ↔ p.name = objectName := by
  unfold rank
  split_ifs <;> simp_all [bucketName, objectName]

theorem rank_eq_two_iff {p : Param} :
    p.rank = 2 ↔ p.name ≠ bucketName ∧ p.name ≠ objectName := by
  unfold rank
  split_ifs <;> simp_all

theorem sortArgs_eq (ps : List Param) :
    sortArgs ps = ps.filter (·.name = bucketName) ++ ps.filter (·.name = objectName) ++
      ps.filter fun p => p.name ≠ bucketName ∧ p.name ≠ objectName := by
  have levels := (orderedBy_mergeSort rank ps).unique (orderedBy_levels fun p _ => rank_lt p)
  simpa [sortArgs, List.range_succ, rank_eq_zero_iff, rank_eq_one_iff, rank_eq_two_iff] using levels

theorem flags_append_valued_perm (ps : List Param) : (flags ps ++ valued ps).Perm ps :=
  List.filter_append_perm _ ps

def DistinctlyNamed (ps : List Param) : Prop :=
  (ps.map fun p => Text.asciiLower p.name).Nodup

instance (ps : List Param) : Decidable (DistinctlyNamed ps) :=
  inferInstanceAs (Decidable (List.Nodup _))

variable {ps qs : List Param}

theorem contains_eq_false_iff {name : String} :
    contains ps name = false ↔ ∀ p ∈ ps, Text.asciiLower p.name ≠ Text.asciiLower name := by
  simp [contains, isNamed, Text.sameIgnoringCase]

theorem distinctlyNamed_append_iff :
    DistinctlyNamed (ps ++ qs) ↔ DistinctlyNamed ps ∧ DistinctlyNamed qs ∧
      ∀ p ∈ ps, contains qs p.name = false := by
  simp only [DistinctlyNamed, List.map_append, List.nodup_append, List.forall_mem_map,
    contains_eq_false_iff, ne_comm]

theorem DistinctlyNamed.of_sublist (distinct : DistinctlyNamed qs) (part : ps.Sublist qs) :
    DistinctlyNamed ps :=
  List.Nodup.sublist (part.map _) distinct

theorem distinctlyNamed_congr (same : ps.Perm qs) : DistinctlyNamed ps ↔ DistinctlyNamed qs :=
  (same.map _).nodup_iff

end Param

namespace Request

open Param

variable {r : Request} {p : Param}

theorem constructorArgs_perm (r : Request) :
    r.constructorArgs.Perm (r.headerArgs ++ valued r.requiredParams) :=
  List.mergeSort_perm _ _

theorem mem_constructorArgs_iff :
    p ∈ r.constructorArgs ↔ p ∈ r.headerArgs ∨ p ∈ valued r.requiredParams := by
  rw [(constructorArgs_perm r).mem_iff, List.mem_append]

theorem headerArgs_distinctlyNamed (r : Request) : DistinctlyNamed r.headerArgs := by
  have storage : DistinctlyNamed r.storageArgs := by
    unfold storageArgs
    split_ifs <;> decide
  unfold headerArgs
  split
  · rename_i arg named
    split_ifs with known
    · exact storage
    · refine distinctlyNamed_append_iff.mpr ⟨storage, by simp [DistinctlyNamed], fun p listed => ?_⟩
      have apart := contains_eq_false_iff.mp (Bool.eq_false_iff.mpr known) p listed
      simpa [contains_eq_false_iff] using apart.symm
  · exact storage

theorem constructorArgs_distinctlyNamed_iff (distinct : DistinctlyNamed r.requiredParams) :
    DistinctlyNamed r.constructorArgs ↔
      ∀ p ∈ r.headerArgs, contains (valued r.requiredParams) p.name = false := by
  have required : DistinctlyNamed (valued r.requiredParams) :=
    distinct.of_sublist List.filter_sublist
  rw [distinctlyNamed_congr (constructorArgs_perm r), distinctlyNamed_append_iff]
  simp only [headerArgs_distinctlyNamed, required, true_and]

end Request

namespace Rust

open Param

variable {r : Request} {p : Param}

structure Arg.Describes (a : Arg) (p : Param) : Prop where
  name : a.name = fieldName p.name
  contractType : a.contractType = p.typeName
  targetType : a.targetType = typeFor p.typeName p.componentType

theorem describes_ofParam (kind : ArgKind) (p : Param) : (Arg.ofParam kind p).Describes p := by
  constructor <;> rw [Arg.ofParam]

-- With another type a parameter still has its name.
theorem argKind_retyped (typeName : String) :
    argKind r { p with typeName } = argKind r p := rfl

theorem argKind_eq_path_iff : argKind r p = .path ↔ ∃ q ∈ r.headerArgs, q.name = p.name := by
  simp [argKind]

theorem argKind_eq_query_iff : argKind r p = .query ↔ argKind r p ≠ .path := by
  unfold argKind
  split_ifs <;> decide

structure ArgKind.TellsOrigin (kind : ArgKind) (r : Request) (p : Param) : Prop where
  path : kind = .path ↔ p ∈ r.headerArgs
  query : kind = .query ↔ p ∈ valued r.requiredParams

theorem argKind_tellsOrigin_iff :
    (∀ p ∈ r.constructorArgs, (argKind r p).TellsOrigin r p) ↔
      ∀ p ∈ r.headerArgs, ∀ q ∈ valued r.requiredParams, p.name ≠ q.name := by
  constructor
  · intro told p inPath q required same
    -- The kind is read off the name, so that the required one is taken for the one of the path.
    have path : argKind r q = .path := argKind_eq_path_iff.mpr ⟨p, inPath, same⟩
    have query := (told q (Request.mem_constructorArgs_iff.mpr (.inr required))).query.mpr required
    exact argKind_eq_query_iff.mp query path
  · intro apart p listed
    have path_of_mem (inPath : p ∈ r.headerArgs) : argKind r p = .path :=
      argKind_eq_path_iff.mpr ⟨p, inPath, rfl⟩
    have not_path_of_mem (required : p ∈ valued r.requiredParams) : argKind r p ≠ .path := by
      intro path
      obtain ⟨q, inPath, same⟩ := argKind_eq_path_iff.mp path
      exact apart q inPath p required same
    constructor
    case path =>
      refine ⟨fun path => ?_, path_of_mem⟩
      exact (Request.mem_constructorArgs_iff.mp listed).resolve_right fun required =>
        not_path_of_mem required path
    case query =>
      rw [argKind_eq_query_iff]
      refine ⟨fun elsewhere => ?_, not_path_of_mem⟩
      exact (Request.mem_constructorArgs_iff.mp listed).resolve_left fun inPath =>
        elsewhere (path_of_mem inPath)

def RequestContext.argLists (context : RequestContext) : List (List Arg) :=
  context.constructorArgs :: context.stringIdConstructorArgs.toList

section Built

variable {tags : List String} {context : RequestContext}

theorem arguments_of_requestContext (built : requestContext ⟨r, tags⟩ = .ok context) :
    context.constructorArgs = constructorArgs r r.constructorArgs ∧
      context.stringIdConstructorArgs = (if usesType r.constructorArgs uuidType then
        some (constructorArgs r (replaceType r.constructorArgs uuidType stringType)) else none) ∧
      context.requiredFlags = (flags r.requiredParams).map (.ofParam .flag) ∧
      context.optionalArgs = r.optionalParams.map optionalArg := by
  obtain ⟨payload, -, made⟩ := bind_eq_ok.mp built
  obtain rfl := Except.ok.inj made
  exact ⟨rfl, rfl, rfl, rfl⟩

theorem kinds_of_argLists (built : requestContext ⟨r, tags⟩ = .ok context) {args : List Arg}
    (listed : args ∈ context.argLists) :
    args.map (·.kind) = r.constructorArgs.map (argKind r) := by
  obtain ⟨plain, asText, -⟩ := arguments_of_requestContext built
  rw [RequestContext.argLists, plain, asText, List.mem_cons, Option.mem_toList] at listed
  rcases listed with rfl | retyped
  · simp [constructorArgs, Arg.ofParam]
  · split_ifs at retyped
    obtain rfl := Option.some.inj retyped
    simp only [constructorArgs, replaceType, List.map_map]
    refine List.map_congr_left fun p _ => ?_
    by_cases id : p.typeName = uuidType <;> simp [Arg.ofParam, argKind_retyped, id]

theorem argLists_tellOrigin_iff (built : requestContext ⟨r, tags⟩ = .ok context) {args : List Arg}
    (listed : args ∈ context.argLists) :
    List.Forall₂ (fun p a => a.kind.TellsOrigin r p) r.constructorArgs args ↔
      ∀ p ∈ r.headerArgs, ∀ q ∈ valued r.requiredParams, p.name ≠ q.name := by
  have kinds := List.forall₂_map_right_iff (R := fun p kind => kind.TellsOrigin r p)
    (f := Arg.kind) (l := r.constructorArgs) (u := args)
  rw [← argKind_tellsOrigin_iff, ← kinds, kinds_of_argLists built listed,
    List.forall₂_map_right_iff, List.forall₂_same]

end Built

theorem optionalArg_kind_iff : (optionalArg p).kind = .flag ↔ p.isVoid = true := by
  simp [optionalArg, Arg.ofParam]

end Rust

namespace Request

open Param

theorem arguments_listed (r : Request) :
    let listed := r.headerArgs ++ valued r.requiredParams
    r.constructorArgs = listed.filter (·.name = bucketName) ++
        listed.filter (·.name = objectName) ++
        listed.filter (fun p => p.name ≠ bucketName ∧ p.name ≠ objectName) ∧
      (flags r.requiredParams ++ valued r.requiredParams).Perm r.requiredParams ∧
      ∀ tags context, Rust.requestContext ⟨r, tags⟩ = .ok context →
        List.Forall₂ Rust.Arg.Describes context.constructorArgs r.constructorArgs ∧
        List.Forall₂ (fun a p => a.Describes p ∧ a.kind = .flag)
          context.requiredFlags (flags r.requiredParams) ∧
        List.Forall₂ (fun a p => a.Describes p ∧ (a.kind = .flag ↔ p.isVoid = true))
          context.optionalArgs r.optionalParams := by
  refine ⟨sortArgs_eq _, flags_append_valued_perm _, fun tags context built => ?_⟩
  obtain ⟨constructorArgs, -, requiredFlags, optionalArgs⟩ :=
    Rust.arguments_of_requestContext built
  rw [constructorArgs, requiredFlags, optionalArgs]
  refine ⟨?_, ?_, ?_⟩ <;>
    refine List.forall₂_map_left_iff.mpr (List.forall₂_same.mpr fun p _ => ?_)
  · exact Rust.describes_ofParam _ p
  · exact ⟨Rust.describes_ofParam _ p, rfl⟩
  · exact ⟨Rust.describes_ofParam _ p, Rust.optionalArg_kind_iff⟩

-- The object is a required parameter, listed after others, and one flag is spelled in capitals.
def partRequest : Request where
  name := "com.acme.PutPartRequest"
  family := .objectApi
  bucket := some .required
  requiredParams := [
    { name := "Job", typeName := uuidType },
    { name := "Force", typeName := "VOID" },
    { name := "ObjectName", typeName := stringType },
    { name := "Offset", typeName := "long" }]
  optionalParams := [
    { name := "Size", typeName := "long" },
    { name := "Quiet", typeName := voidType }]

theorem partRequest_context :
    ∃ context, Rust.requestContext ⟨partRequest, []⟩ = .ok context :=
  Rust.requestContext_succeeds_iff.mpr (by decide +kernel)

theorem arguments_listed_partRequest :
    let args : List Param := [
      { name := "BucketName", typeName := stringType },
      { name := "ObjectName", typeName := stringType },
      { name := "Job", typeName := uuidType },
      { name := "Offset", typeName := "long" }]
    partRequest.constructorArgs = args ∧
      ∃ context, Rust.requestContext ⟨partRequest, []⟩ = .ok context ∧
        List.Forall₂ Rust.Arg.Describes context.constructorArgs args ∧
        List.Forall₂ (fun a p => a.Describes p ∧ a.kind = .flag)
          context.requiredFlags [{ name := "Force", typeName := "VOID" }] ∧
        List.Forall₂ (fun a p => a.Describes p ∧ (a.kind = .flag ↔ p.isVoid = true))
          context.optionalArgs partRequest.optionalParams := by
  intro args
  obtain ⟨parts, -, described⟩ := arguments_listed partRequest
  have ordered : partRequest.constructorArgs = args := by
    rw [parts]
    decide +kernel
  obtain ⟨context, built⟩ := partRequest_context
  obtain ⟨constructorArgs, requiredFlags, optionalArgs⟩ := described [] context built
  exact ⟨ordered, context, built, ordered ▸ constructorArgs, requiredFlags, optionalArgs⟩

/-- That required parameters have distinct names is not enough. Arguments have distinct names iff no
parameter of the path is required as well, in any spelling, and their kinds say where each comes
from iff none is in the same spelling. -/
theorem arguments_apart_iff (r : Request) (distinct : DistinctlyNamed r.requiredParams) :
    (DistinctlyNamed r.constructorArgs ↔
        ∀ p ∈ r.headerArgs, contains (valued r.requiredParams) p.name = false) ∧
      ∀ tags context, Rust.requestContext ⟨r, tags⟩ = .ok context → ∀ args ∈ context.argLists,
        (List.Forall₂ (fun p a => a.kind.TellsOrigin r p) r.constructorArgs args ↔
          ∀ p ∈ r.headerArgs, ∀ q ∈ valued r.requiredParams, p.name ≠ q.name) :=
  ⟨constructorArgs_distinctlyNamed_iff distinct, fun _ _ built _ listed =>
    Rust.argLists_tellOrigin_iff built listed⟩

theorem arguments_apart_iff_partRequest :
    DistinctlyNamed partRequest.constructorArgs ∧
      ∃ context, Rust.requestContext ⟨partRequest, []⟩ = .ok context ∧
        ∀ args ∈ context.argLists,
          List.Forall₂ (fun p a => a.kind.TellsOrigin partRequest p) partRequest.constructorArgs
            args := by
  have distinct : DistinctlyNamed partRequest.requiredParams := by decide +kernel
  obtain ⟨names, kinds⟩ := arguments_apart_iff partRequest distinct
  obtain ⟨context, built⟩ := partRequest_context
  exact ⟨names.mpr (by decide +kernel), context, built, fun args listed =>
    (kinds [] context built args listed).mpr (by decide +kernel)⟩

-- The bucket is in the path and a required parameter as well.
def listingRequest : Request where
  name := "com.acme.GetObjectsRequest"
  family := .objectApi
  bucket := some .required
  requiredParams := [{ name := "BucketName", typeName := stringType }]

theorem listingRequest_arguments_collide :
    DistinctlyNamed listingRequest.requiredParams ∧
      ¬DistinctlyNamed listingRequest.constructorArgs ∧
      ∃ context, Rust.requestContext ⟨listingRequest, []⟩ = .ok context ∧
        ¬List.Forall₂ (fun p a => a.kind.TellsOrigin listingRequest p)
          listingRequest.constructorArgs context.constructorArgs := by
  have distinct : DistinctlyNamed listingRequest.requiredParams := by decide +kernel
  obtain ⟨context, built⟩ :=
    (Rust.requestContext_succeeds_iff (t := ⟨listingRequest, []⟩)).mpr (by decide +kernel)
  refine ⟨distinct, ?_, context, built, fun told => ?_⟩
  · rw [constructorArgs_distinctlyNamed_iff distinct]
    decide +kernel
  · have apart := (Rust.argLists_tellOrigin_iff built List.mem_cons_self).mp told
    revert apart
    decide +kernel

end Request

end ApiContract
