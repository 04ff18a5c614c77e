import ApiContract.Classify.Builtin
import Mathlib.Data.List.Induction
import Mathlib.Data.List.Nodup

set_option autoImplicit false

namespace ApiContract.Registry

inductive Call where
  | register (tag : String) (test : Request → Bool)
  | unregister (tag : String)

def apply (r : Registry) : Call → Registry
  | .register tag test => r.register tag test
  | .unregister tag => r.unregister tag

def run (r : Registry) (calls : List Call) : Registry :=
  calls.foldl apply r

/-- The tag was registered and not unregistered since. -/
def Standing (history : List Call) (tag : String) : Prop :=
  ∃ before test after, history = before ++ .register tag test :: after ∧
    .unregister tag ∉ after

/-- The call at this place registered the tag when it was not there, and it has stayed since. -/
def AddedAt (history : List Call) (tag : String) (place : Nat) : Prop :=
  ∃ before test after, history = before ++ .register tag test :: after ∧
    before.length = place ∧ ¬Standing before tag ∧ .unregister tag ∉ after

def AddedBefore (history : List Call) (first second : String) : Prop :=
  ∃ i j, AddedAt history first i ∧ AddedAt history second j ∧ i < j

section History

variable {past : List Call} {last : Call} {tag : String}

theorem not_standing_nil : ¬Standing [] tag := by
  rintro ⟨before, test, after, split, -⟩
  simp at split

theorem concat_eq_append_cons_iff {before after : List Call} {call : Call} :
    past ++ [last] = before ++ call :: after ↔
      (after = [] ∧ past = before ∧ last = call) ∨
        ∃ rest, after = rest ++ [last] ∧ past = before ++ call :: rest := by
  constructor
  · intro split
    rcases List.eq_nil_or_concat after with rfl | ⟨rest, final, rfl⟩
    · obtain ⟨same, single⟩ := List.append_inj' split rfl
      exact .inl ⟨rfl, same, List.singleton_inj.mp single⟩
    · rw [List.concat_eq_append] at split ⊢
      rw [← List.cons_append, ← List.append_assoc] at split
      obtain ⟨same, single⟩ := List.append_inj' split rfl
      exact .inr ⟨rest, by rw [List.singleton_inj.mp single], same⟩
  · rintro (⟨rfl, rfl, rfl⟩ | ⟨rest, rfl, rfl⟩) <;> simp

theorem AddedAt.lt_length {place : Nat} (added : AddedAt past tag place) : place < past.length := by
  obtain ⟨before, test, after, rfl, rfl, -⟩ := added
  simp

theorem standing_concat :
    Standing (past ++ [last]) tag ↔
      (∃ test, last = .register tag test) ∨ Standing past tag ∧ last ≠ .unregister tag := by
  simp only [Standing, concat_eq_append_cons_iff]
  constructor
  · rintro ⟨before, test, after, ⟨rfl, rfl, rfl⟩ | ⟨rest, rfl, rfl⟩, kept⟩
    · exact .inl ⟨test, rfl⟩
    · simp only [List.mem_append, List.mem_singleton, not_or] at kept
      exact .inr ⟨⟨before, test, rest, rfl, kept.1⟩, Ne.symm kept.2⟩
  · rintro (⟨test, rfl⟩ | ⟨⟨before, test, rest, rfl, kept⟩, others⟩)
    · exact ⟨past, test, [], .inl ⟨rfl, rfl, rfl⟩, by simp⟩
    · exact ⟨before, test, rest ++ [last], .inr ⟨rest, rfl, rfl⟩, by simp [kept, Ne.symm others]⟩

theorem addedAt_concat_iff {place : Nat} :
    AddedAt (past ++ [last]) tag place ↔
      (place = past.length ∧ ¬Standing past tag ∧ ∃ test, last = .register tag test) ∨
        AddedAt past tag place ∧ last ≠ .unregister tag := by
  simp only [AddedAt, concat_eq_append_cons_iff]
  -- The last call adds the tag itself, or must not take away what an earlier one has added.
  constructor
  · rintro ⟨before, test, after, ⟨rfl, rfl, rfl⟩ | ⟨rest, rfl, rfl⟩, rfl, absent, kept⟩
    · exact .inl ⟨rfl, absent, test, rfl⟩
    · simp only [List.mem_append, List.mem_singleton, not_or] at kept
      exact .inr ⟨⟨before, test, rest, rfl, rfl, absent, kept.1⟩, Ne.symm kept.2⟩
  · rintro (⟨rfl, absent, test, rfl⟩ | ⟨⟨before, test, rest, rfl, rfl, absent, kept⟩, others⟩)
    · exact ⟨past, test, [], .inl ⟨rfl, rfl, rfl⟩, rfl, absent, by simp⟩
    · exact ⟨before, test, rest ++ [last], .inr ⟨rest, rfl, rfl⟩, rfl, absent,
        by simp [kept, Ne.symm others]⟩

end History

section Entries

variable {c : Classifier} {cs : List Classifier}

theorem put_of_absent (absent : c.tag ∉ cs.map (·.tag)) : put c cs = cs ++ [c] := by
  induction cs with
  | nil => rfl
  | cons d ds ih =>
    simp only [List.map_cons, List.mem_cons, not_or] at absent
    simp [put, Ne.symm absent.1, ih absent.2]

theorem tags_put_of_present (present : c.tag ∈ cs.map (·.tag)) :
    (put c cs).map (·.tag) = cs.map (·.tag) := by
  induction cs with
  | nil => simp at present
  | cons d ds ih =>
    by_cases here : d.tag = c.tag
    · simp [put, here]
    · have later : c.tag ∈ ds.map (·.tag) := by
        simpa [Ne.symm here] using present
      simp [put, here, ih later]

theorem others_put : (put c cs).filter (·.tag ≠ c.tag) = cs.filter (·.tag ≠ c.tag) := by
  induction cs with
  | nil => simp [put]
  | cons d ds ih =>
    by_cases here : d.tag = c.tag
    · simp [put, here]
    · simp only [put, here, if_false, List.filter_cons, ih]

theorem find?_put : (put c cs).find? (·.tag == c.tag) = some c := by
  induction cs with
  | nil => simp [put]
  | cons d ds ih =>
    by_cases here : d.tag = c.tag
    · simp [put, here]
    · simp [put, here, ih]

end Entries

section Tags

variable {r : Registry} {tag other : String} {test : Request → Bool}

theorem tags_register_of_absent (absent : tag ∉ r.tags) :
    (r.register tag test).tags = r.tags ++ [tag] := by
  have put := put_of_absent (c := ⟨tag, test⟩) absent
  simp [tags, register, put]

theorem mem_tags_register : other ∈ (r.register tag test).tags ↔ other = tag ∨ other ∈ r.tags := by
  by_cases present : tag ∈ r.tags
  · have same : (r.register tag test).tags = r.tags := tags_put_of_present present
    rw [same, or_iff_right_of_imp]
    rintro rfl
    exact present
  · simp [tags_register_of_absent present, or_comm]

theorem mem_tags_unregister :
    other ∈ (r.unregister tag).tags ↔ other ∈ r.tags ∧ other ≠ tag := by
  simp only [tags, unregister, List.mem_map, List.mem_filter, decide_eq_true_iff]
  constructor
  · rintro ⟨c, ⟨listed, different⟩, rfl⟩
    exact ⟨⟨c, listed, rfl⟩, different⟩
  · rintro ⟨⟨c, listed, rfl⟩, different⟩
    exact ⟨c, ⟨listed, different⟩, rfl⟩

end Tags

section Observations

variable {r : Registry} {tag : String} {request : Request}

theorem classify_sublist : (r.classify request).Sublist r.tags :=
  List.filter_sublist.map _

theorem matches?_eq_none_iff : r.matches? tag request = none ↔ tag ∉ r.tags := by
  simp only [matches?, Option.map_eq_none_iff, List.find?_eq_none, tags, List.mem_map, beq_iff_eq,
    not_exists, not_and]

theorem matches?_eq_some (distinct : r.tags.Nodup) (present : tag ∈ r.tags) :
    r.matches? tag request = some (decide (tag ∈ r.classify request)) := by
  -- The first entry of a tag is the only one.
  obtain ⟨c, listed, rfl⟩ := List.mem_map.mp present
  have only {d : Classifier} (member : d ∈ r.classifiers) (same : d.tag = c.tag) : d = c :=
    List.inj_on_of_nodup_map distinct member listed same
  have found : r.classifiers.find? (·.tag == c.tag) = some c := by
    cases first : r.classifiers.find? (·.tag == c.tag) with
    | none => simpa using List.find?_eq_none.mp first c listed
    | some d =>
      have same : d.tag = c.tag := by simpa using List.find?_some first
      rw [only (List.mem_of_find?_eq_some first) same]
  have decided : c.tag ∈ r.classify request ↔ c.test request = true := by
    simp only [classify, List.mem_map, List.mem_filter]
    constructor
    · rintro ⟨d, ⟨member, passes⟩, same⟩
      exact only member same ▸ passes
    · exact fun passes => ⟨c, ⟨listed, passes⟩, rfl⟩
  simp [matches?, found, decided]

theorem removes_iff : r.removes tag = true ↔ tag ∈ r.tags := by
  simp only [removes, unregister, size, decide_eq_true_iff, ne_eq, List.length_filter_eq_length_iff,
    tags, List.mem_map, not_forall, not_not, exists_prop]

end Observations

structure SameApartFrom (tag : String) (r s : Registry) : Prop where
  order : r.tags.filter (· ≠ tag) = s.tags.filter (· ≠ tag)
  results : ∀ other ≠ tag, ∀ request, r.matches? other request = s.matches? other request
  classified : ∀ request,
    (r.classify request).filter (· ≠ tag) = (s.classify request).filter (· ≠ tag)

section Frame

variable {r s : Registry} {tag : String}

theorem matches?_eq_of_others {other : String} (different : other ≠ tag) (request : Request) :
    r.matches? other request =
      matches? ⟨r.classifiers.filter (·.tag ≠ tag)⟩ other request := by
  have apart (c : Classifier) :
      decide (decide (c.tag ≠ tag) = true ∧ (c.tag == other) = true) = (c.tag == other) := by
    by_cases here : c.tag = other <;> simp [here, different]
  simp only [matches?, List.find?_filter, apart]

theorem classify_others (request : Request) :
    (r.classify request).filter (· ≠ tag) =
      classify ⟨r.classifiers.filter (·.tag ≠ tag)⟩ request := by
  simp only [classify, List.filter_map, List.filter_filter, Function.comp_def, Bool.and_comm]

theorem sameApartFrom_of_others
    (others : r.classifiers.filter (·.tag ≠ tag) = s.classifiers.filter (·.tag ≠ tag)) :
    SameApartFrom tag r s where
  order := by simp only [tags, List.filter_map, Function.comp_def, others]
  results other different request := by
    rw [matches?_eq_of_others different, others, ← matches?_eq_of_others different]
  classified request := by rw [classify_others, others, ← classify_others]

theorem register_sameApartFrom (test : Request → Bool) :
    SameApartFrom tag (r.register tag test) r :=
  sameApartFrom_of_others (others_put (c := ⟨tag, test⟩))

theorem unregister_sameApartFrom : SameApartFrom tag (r.unregister tag) r :=
  sameApartFrom_of_others (by simp [unregister])

end Frame

structure MadeBy (history : List Call) (r : Registry) : Prop where
  distinct : r.tags.Nodup
  standing : ∀ tag, tag ∈ r.tags ↔ Standing history tag
  added : ∀ tag ∈ r.tags, ∃ place, AddedAt history tag place
  ordered : r.tags.Pairwise (AddedBefore history)

namespace MadeBy

variable {past : List Call} {r : Registry}

theorem empty : MadeBy [] {} where
  distinct := List.nodup_nil
  standing tag := by simp [tags, not_standing_nil]
  added := by simp [tags]
  ordered := List.Pairwise.nil

theorem register (made : MadeBy past r) (tag : String) (test : Request → Bool) :
    MadeBy (past ++ [.register tag test]) (r.register tag test) := by
  have standing (other : String) : other ∈ (r.register tag test).tags ↔
      Standing (past ++ [.register tag test]) other := by
    simp [mem_tags_register, standing_concat, made.standing, eq_comm]
  have stays {other : String} {place : Nat} (added : AddedAt past other place) :
      AddedAt (past ++ [.register tag test]) other place :=
    addedAt_concat_iff.mpr (.inr ⟨added, by simp⟩)
  have ordered : r.tags.Pairwise (AddedBefore (past ++ [.register tag test])) :=
    made.ordered.imp fun ⟨i, j, first, second, before⟩ =>
      ⟨i, j, stays first, stays second, before⟩
  -- A tag that is there keeps its place, and any other comes last.
  by_cases present : tag ∈ r.tags
  · have same : (r.register tag test).tags = r.tags := tags_put_of_present present
    refine ⟨same ▸ made.distinct, standing, ?_, same ▸ ordered⟩
    intro other listed
    obtain ⟨place, added⟩ := made.added other (same ▸ listed)
    exact ⟨place, stays added⟩
  · have more : (r.register tag test).tags = r.tags ++ [tag] := tags_register_of_absent present
    have new : AddedAt (past ++ [.register tag test]) tag past.length :=
      addedAt_concat_iff.mpr (.inl ⟨rfl, (made.standing tag).not.mp present, test, rfl⟩)
    refine ⟨?_, standing, ?_, ?_⟩
    · rw [more, ← List.concat_eq_append, List.nodup_concat]
      exact ⟨present, made.distinct⟩
    · intro other listed
      rw [more, List.mem_append, List.mem_singleton] at listed
      rcases listed with listed | rfl
      · obtain ⟨place, added⟩ := made.added other listed
        exact ⟨place, stays added⟩
      · exact ⟨past.length, new⟩
    · rw [more, List.pairwise_append]
      refine ⟨ordered, List.pairwise_singleton _ _, ?_⟩
      intro other listed last isTag
      obtain rfl := List.mem_singleton.mp isTag
      obtain ⟨place, added⟩ := made.added other listed
      exact ⟨place, past.length, stays added, new, added.lt_length⟩

theorem unregister (made : MadeBy past r) (tag : String) :
    MadeBy (past ++ [.unregister tag]) (r.unregister tag) := by
  have fewer : (r.unregister tag).tags.Sublist r.tags := List.filter_sublist.map _
  have stays {other : String} {place : Nat} (listed : other ∈ (r.unregister tag).tags)
      (added : AddedAt past other place) : AddedAt (past ++ [.unregister tag]) other place := by
    have different : other ≠ tag := (mem_tags_unregister.mp listed).2
    exact addedAt_concat_iff.mpr (.inr ⟨added, by simp [different.symm]⟩)
  refine ⟨made.distinct.sublist fewer, ?_, ?_, ?_⟩
  · intro other
    simp [mem_tags_unregister, standing_concat, made.standing, eq_comm]
  · intro other listed
    obtain ⟨place, added⟩ := made.added other (fewer.subset listed)
    exact ⟨place, stays listed added⟩
  · refine (made.ordered.sublist fewer).imp_of_mem ?_
    rintro first second firstListed secondListed ⟨i, j, firstAdded, secondAdded, before⟩
    exact ⟨i, j, stays firstListed firstAdded, stays secondListed secondAdded, before⟩

theorem run (made : MadeBy past r) (calls : List Call) : MadeBy (past ++ calls) (r.run calls) := by
  -- With each call the history grows by it, so that the rest is run from there.
  induction calls generalizing past r with
  | nil => simpa [Registry.run] using made
  | cons call rest ih =>
    have step : MadeBy (past ++ [call]) (r.apply call) := by
      cases call with
      | register tag test => exact made.register tag test
      | unregister tag => exact made.unregister tag
    simpa [Registry.run] using ih step

end MadeBy

-- The calls that put the classifiers of a registry where they stand.
def entryCalls (r : Registry) : List Call :=
  r.classifiers.map fun c => .register c.tag c.test

theorem run_entryCalls {r : Registry} (distinct : r.tags.Nodup) :
    run {} r.entryCalls = r := by
  obtain ⟨cs⟩ := r
  induction cs using List.reverseRecOn with
  | nil => rfl
  | append_singleton cs c ih =>
    rw [tags, List.map_append, List.map_singleton, ← List.concat_eq_append,
      List.nodup_concat] at distinct
    simp only [entryCalls, run] at ih ⊢
    rw [List.map_append, List.foldl_append, ih distinct.2]
    exact congrArg Registry.mk (put_of_absent distinct.1)

theorem distinct_builtin : builtin.tags.Nodup := by
  decide

structure Lawful (history : List Call) (r : Registry) : Prop extends MadeBy history r where
  unknown : ∀ tag request, r.matches? tag request = none ↔ tag ∉ r.tags
  decides : ∀ tag ∈ r.tags, ∀ request,
    r.matches? tag request = some (decide (tag ∈ r.classify request))
  classified : ∀ request, (r.classify request).Sublist r.tags
  registered : ∀ tag test request, (r.register tag test).matches? tag request = some (test request)
  register : ∀ tag test, SameApartFrom tag (r.register tag test) r
  unregister : ∀ tag, SameApartFrom tag (r.unregister tag) r
  removes : ∀ tag, r.removes tag = true ↔ tag ∈ r.tags

theorem run_lawful {start : Registry} (begins : start = {} ∨ start = .builtin)
    (calls : List Call) : Lawful (start.entryCalls ++ calls) (start.run calls) := by
  have distinct : start.tags.Nodup := by
    rcases begins with rfl | rfl
    · exact List.nodup_nil
    · exact distinct_builtin
  have made : MadeBy (start.entryCalls ++ calls) (start.run calls) := by
    have entries : MadeBy start.entryCalls start := by
      simpa [run_entryCalls distinct] using MadeBy.empty.run start.entryCalls
    exact entries.run calls
  exact {
    made with
    unknown := fun _ _ => matches?_eq_none_iff
    decides := fun _ present _ => matches?_eq_some made.distinct present
    classified := fun _ => classify_sublist
    registered := fun tag test _ => by simp [matches?, register, find?_put (c := ⟨tag, test⟩)]
    register := fun _ test => register_sameApartFrom test
    unregister := fun _ => unregister_sameApartFrom
    removes := fun _ => removes_iff }

-- A tag is added again behind a new one, and another gets a new test where it stands.
def renewal : List Call := [
  .unregister "bulk", .register "tape" (·.isFor .tape), .register "bulk" (·.isBulkGet),
  .register "get-job" fun _ => false]

theorem run_lawful_renewal :
    (builtin.run renewal).tags = builtin.tags.filter (· ≠ "bulk") ++ ["tape", "bulk"] ∧
      Lawful (builtin.entryCalls ++ renewal) (builtin.run renewal) :=
  ⟨by decide, run_lawful (.inr rfl) renewal⟩

end ApiContract.Registry
