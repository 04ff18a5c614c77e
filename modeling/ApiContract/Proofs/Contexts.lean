import ApiContract.Context
import ApiContract.Proofs.Outcome
import ApiContract.Proofs.StableOrder
import Mathlib.Data.List.Nodup

set_option autoImplicit false

namespace ApiContract

theorem mergeSort_eq_of_perm {α : Type} {name : α → String} {xs ys : List α} (order : xs.Perm ys)
    (distinct : (xs.map name).Nodup) :
    xs.mergeSort (fun a b => name a ≤ name b) = ys.mergeSort (fun a b => name a ≤ name b) := by
  have first := orderedBy_mergeSort name xs
  have second := orderedBy_mergeSort name ys
  have same := first.perm.trans (order.trans second.perm.symm)
  refine same.eq_of_pairwise ?_ first.ascending second.ascending
  intro a b inFirst inSecond below above
  have listed : a ∈ xs := first.perm.mem_iff.mp inFirst
  have listed' : b ∈ xs := order.mem_iff.mpr (second.perm.mem_iff.mp inSecond)
  exact List.inj_on_of_nodup_map distinct listed listed' (String.le_antisymm below above)

namespace ContextSet

variable {R T : Type} {requestContext : TaggedRequest → Except Error R}
  {typeContext : TypeDefinition → Except Error T} {name : R → String} {m : Model}
  {contexts : ContextSet R T}

theorem build_eq_ok_iff :
    build requestContext typeContext name m = .ok contexts ↔
      ∃ requests,
        List.Forall₂ (fun t context => requestContext t = .ok context) m.requests requests ∧
        List.Forall₂ (fun d context => typeContext d = .ok context) m.types.definitions
          contexts.types ∧
        contexts.requests = requests.mergeSort fun a b => name a ≤ name b := by
  simp only [build, bind_eq_ok, mapM_eq_ok_iff]
  constructor
  · rintro ⟨requests, each, types, defined, returned⟩
    obtain rfl := Except.ok.inj returned
    exact ⟨requests, each, defined, rfl⟩
  · rintro ⟨requests, each, defined, sorted⟩
    obtain ⟨sortedRequests, types⟩ := contexts
    obtain rfl : sortedRequests = _ := sorted
    exact ⟨requests, each, types, defined, rfl⟩

theorem build_succeeds_iff :
    (∃ contexts, build requestContext typeContext name m = .ok contexts) ↔
      (∀ t ∈ m.requests, ∃ context, requestContext t = .ok context) ∧
        ∀ d ∈ m.types.definitions, ∃ context, typeContext d = .ok context := by
  simp only [← mapM_succeeds_iff, mapM_eq_ok_iff, build_eq_ok_iff]
  constructor
  · rintro ⟨contexts, requests, each, defined, -⟩
    exact ⟨⟨requests, each⟩, contexts.types, defined⟩
  · rintro ⟨⟨requests, each⟩, types, defined⟩
    exact ⟨⟨_, types⟩, requests, each, defined, rfl⟩

theorem names_of_forall₂ {title : TaggedRequest → String} {requests : List TaggedRequest}
    {results : List R}
    (named : ∀ t context, requestContext t = .ok context → name context = title t)
    (each : List.Forall₂ (fun t context => requestContext t = .ok context) requests results) :
    results.map name = requests.map title := by
  induction each with
  | nil => rfl
  | cons done _ ih => rw [List.map_cons, List.map_cons, named _ _ done, ih]

theorem build_of_perm {title : TaggedRequest → String} {m' : Model}
    (named : ∀ t context, requestContext t = .ok context → name context = title t)
    (types : m'.types = m.types) (order : m.requests.Perm m'.requests)
    (distinct : (m.requests.map title).Nodup)
    (built : build requestContext typeContext name m = .ok contexts) :
    build requestContext typeContext name m' = .ok contexts := by
  obtain ⟨requests, each, defined, sorted⟩ := build_eq_ok_iff.mp built
  obtain ⟨reordered, again, same⟩ := List.perm_comp_forall₂ order.symm each
  refine build_eq_ok_iff.mpr ⟨reordered, again, types ▸ defined, ?_⟩
  rw [sorted]
  exact mergeSort_eq_of_perm same.symm (names_of_forall₂ named each ▸ distinct)

end ContextSet

theorem Rust.requestContext_name (t : TaggedRequest) (context : RequestContext)
    (built : requestContext t = .ok context) : context.name = t.request.sdkName := by
  obtain ⟨payload, -, returned⟩ := bind_eq_ok.mp built
  exact (congrArg RequestContext.name (Except.ok.inj returned)).symm

theorem Generic.requestContext_name (t : TaggedRequest) (context : RequestContext)
    (built : requestContext t = .ok context) : context.name = t.request.sdkName := by
  obtain ⟨payload, -, returned⟩ := bind_eq_ok.mp built
  exact (congrArg RequestContext.name (Except.ok.inj returned)).symm

theorem Generic.requestContext_succeeds_iff {t : TaggedRequest} :
    (∃ context, requestContext t = .ok context) ↔ t.request.payload?.isOk = true := by
  rw [requestContext]
  cases t.request.payload? <;>
    simp [bind, Except.bind, pure, Except.pure, Except.isOk, Except.toBool]

theorem Model.contexts_generic_succeeds_iff {m : Model} :
    (∃ contexts, m.contexts .generic = .ok contexts) ↔
      ∀ t ∈ m.requests, t.request.payload?.isOk = true := by
  simp only [← Generic.requestContext_succeeds_iff]
  constructor
  · rintro ⟨contexts, built⟩
    obtain ⟨set, done, -⟩ := bind_eq_ok.mp built
    exact (ContextSet.build_succeeds_iff.mp ⟨set, done⟩).1
  · intro each
    obtain ⟨set, done⟩ := ContextSet.build_succeeds_iff.mpr ⟨each, fun d _ => ⟨_, rfl⟩⟩
    exact ⟨.generic set, bind_eq_ok.mpr ⟨set, done, rfl⟩⟩

theorem Model.contexts_of_perm {m m' : Model} (types : m'.types = m.types)
    (order : m.requests.Perm m'.requests)
    (distinct : (m.requests.map (·.request.sdkName)).Nodup) {target : Target} {contexts : Contexts}
    (built : m.contexts target = .ok contexts) : m'.contexts target = .ok contexts := by
  cases target with
  | rust =>
    obtain ⟨set, done, returned⟩ := bind_eq_ok.mp built
    have again := ContextSet.build_of_perm Rust.requestContext_name types order distinct done
    exact bind_eq_ok.mpr ⟨set, again, returned⟩
  | generic =>
    obtain ⟨set, done, returned⟩ := bind_eq_ok.mp built
    have again := ContextSet.build_of_perm Generic.requestContext_name types order distinct done
    exact bind_eq_ok.mpr ⟨set, again, returned⟩

end ApiContract
