import ApiContract.Proofs.Resolution

set_option autoImplicit false

namespace ApiContract

-- The simple name of the request is listed, with or without a `Handler` at its end.
def Request.ListedIn (r : Request) (names : List String) : Prop :=
  Name.simple r.name ∈ names ∨ Name.withoutHandler (Name.simple r.name) ∈ names

instance (r : Request) (names : List String) : Decidable (r.ListedIn names) :=
  inferInstanceAs (Decidable (_ ∨ _))

theorem Request.isAmong_iff {r : Request} {names : List String} :
    r.isAmong names = true ↔ r.ListedIn names := by
  simp [isAmong, ListedIn]

namespace Selection

def Chooses (s : Selection) (r : Request) : Prop :=
  (s.included = [] ∨ r.ListedIn s.included) ∧ ¬r.ListedIn s.excluded

instance (s : Selection) (r : Request) : Decidable (s.Chooses r) :=
  inferInstanceAs (Decidable (_ ∧ _))

variable {s : Selection}

theorem admits_iff {r : Request} : s.admits r = true ↔ s.Chooses r := by
  have excluded : r.isAmong s.excluded = false ↔ ¬r.ListedIn s.excluded := by
    rw [← Request.isAmong_iff, Bool.not_eq_true]
  simp [admits, Chooses, Request.isAmong_iff, excluded]

theorem filter_eq (requests : List Request) :
    s.filter requests = requests.filter fun r => decide (s.Chooses r) := by
  apply List.filter_congr
  intro r _
  rw [Bool.eq_iff_iff, admits_iff, decide_eq_true_iff]

def withoutNames (s : Selection) : Selection :=
  { s with included := [], excluded := [] }

theorem filter_withoutNames (requests : List Request) :
    s.withoutNames.filter requests = requests := by
  simp [filter, admits, withoutNames, Request.isAmong]

end Selection

namespace Contract

variable {registry : Registry} {c : Contract} {s : Selection}

theorem requests_modelOf (variants : List Request) :
    (c.modelOf registry s variants).requests.map (·.request) = s.filter variants := by
  simp [modelOf, Function.comp_def]

theorem requests_modelOf_eq_filter (variants : List Request) :
    (c.modelOf registry s variants).requests =
      (c.modelOf registry s.withoutNames variants).requests.filter
        fun t => decide (s.Chooses t.request) := by
  rw [modelOf, modelOf, Selection.filter_withoutNames, Selection.filter_eq, List.filter_map]
  rfl

theorem types_modelOf (variants : List Request) :
    (c.modelOf registry s variants).types =
      (c.modelOf registry s.withoutNames variants).types.reachableFrom (s.filter variants) := by
  -- A search in what all variants need finds what the chosen ones need.
  have chosen : NamesWithin (s.filter variants) variants :=
    .of_subset fun _ member => List.mem_of_mem_filter member
  simp only [modelOf, Selection.filter_withoutNames]
  exact (Catalog.reachableFrom_reachableFrom_of_within chosen).symm

theorem resolveWith_chooses {full : Model}
    (resolved : c.resolveWith registry s.withoutNames = .ok full) :
    ∃ m, c.resolveWith registry s = .ok m ∧
      m.requests = full.requests.filter (fun t => decide (s.Chooses t.request)) ∧
      m.types = full.types.reachableFrom (m.requests.map (·.request)) ∧
      ∀ e ∈ m.types.entries, e ∈ full.types.entries := by
  obtain ⟨valid, variants, divided, rfl⟩ := resolveWith_eq_ok_iff.mp resolved
  refine ⟨c.modelOf registry s variants, resolveWith_eq_ok_iff.mpr ⟨valid, variants, divided, rfl⟩,
    requests_modelOf_eq_filter variants, ?_, ?_⟩
  · rw [requests_modelOf, types_modelOf]
  · rintro ⟨key, d⟩ kept
    rw [types_modelOf] at kept
    exact (Catalog.mem_entries_reachableFrom.mp kept).1

theorem resolveWith_chooses_tapeContract :
    let s : Selection :=
      { included := ["GetTapeRequest", "GetTapeFullDetailsRequestHandler"]
        excluded := ["GetTapeRequestHandler"] }
    ∃ full m, tapeContract.resolveWith .builtin s.withoutNames = .ok full ∧
      tapeContract.resolveWith .builtin s = .ok m ∧
      full.requests.length = 2 ∧ m.requests.map (·.request) = [tapeRule.detailedOf tapeRequest] ∧
      m.types = full.types.reachableFrom [tapeRule.detailedOf tapeRequest] := by
  intro s
  have valid : validateAll (s.withoutNames.candidates tapeContract.requests) = .ok () := by decide
  have divided : splitAll (s.withoutNames.candidates tapeContract.requests) =
      .ok [tapeRule.baseOf tapeRequest, tapeRule.detailedOf tapeRequest] := by decide +kernel
  have resolved : tapeContract.resolveWith .builtin s.withoutNames =
      .ok (tapeContract.modelOf .builtin s.withoutNames _) :=
    resolveWith_of_splitAll valid divided
  obtain ⟨m, selected, requests, types, -⟩ := resolveWith_chooses resolved
  have chosen : m.requests.map (·.request) = [tapeRule.detailedOf tapeRequest] := by
    rw [requests]
    decide +kernel
  exact ⟨_, m, resolved, selected, rfl, chosen, chosen ▸ types⟩

end Contract

end ApiContract
