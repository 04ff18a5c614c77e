import ApiContract.Proofs.ViewFlag

set_option autoImplicit false

namespace ApiContract

namespace Param

variable {n m : String}

theorem isNamed_of_same {p : Param} (same : Text.sameIgnoringCase p.name n = true) :
    p.isNamed m = Text.sameIgnoringCase n m := by
  simp only [isNamed, Text.sameIgnoringCase, Text.sameIgnoringCase_iff.mp same]

theorem without_append (ps qs : List Param) (name : String) :
    without (ps ++ qs) name = without ps name ++ without qs name :=
  List.filter_append ..

theorem without_without_self (ps : List Param) (name : String) :
    without (without ps name) name = without ps name := by
  simp [without]

theorem without_comm (ps : List Param) (n m : String) :
    without (without ps n) m = without (without ps m) n := by
  simp only [without, List.filter_filter, Bool.and_comm]

theorem find?_without_self (ps : List Param) (name : String) :
    find? (without ps name) name = none := by
  simp [find?, without, List.find?_filter]

theorem find?_without (different : Text.sameIgnoringCase n m = false) (ps : List Param) :
    find? (without ps m) n = find? ps n := by
  rw [find?, without, List.find?_filter, find?]
  congr 1
  funext p
  cases named : p.isNamed n with
  | false => simp
  | true => simp [isNamed_of_same named, different]

end Param

namespace Request

variable {r : Request} {n m : String}

def flagOf (r : Request) (name : String) : Param where
  name := r.spellingOf name
  typeName := voidType

theorem isNamed_flagOf (r : Request) (n m : String) :
    (r.flagOf n).isNamed m = Text.sameIgnoringCase n m :=
  Param.isNamed_of_same (r.sameIgnoringCase_spellingOf n)

theorem requireFlag_eq (r : Request) (name : String) :
    r.requireFlag name =
      { r.dropParam name with
        requiredParams := (r.dropParam name).requiredParams ++ [r.flagOf name] } := rfl

theorem allParams_dropParam (r : Request) (name : String) :
    (r.dropParam name).allParams = Param.without r.allParams name :=
  (Param.without_append ..).symm

theorem spellingOf_dropParam (different : Text.sameIgnoringCase n m = false) :
    (r.dropParam m).spellingOf n = r.spellingOf n := by
  rw [spellingOf, allParams_dropParam, Param.find?_without different, spellingOf]

theorem spellingOf_requireFlag (r : Request) (name : String) :
    (r.requireFlag name).spellingOf name = r.spellingOf name := by
  have params : (r.requireFlag name).allParams =
      Param.without r.allParams name ++ [r.flagOf name] := by
    rw [← allParams_dropParam, allParams, requireFlag_eq, allParams, List.append_assoc]
  -- All others of the name are gone, so the flag is the first one.
  have found : Param.find? (r.requireFlag name).allParams name = some (r.flagOf name) := by
    rw [params, Param.find?, List.find?_append, ← Param.find?, Param.find?_without_self]
    simp [isNamed_flagOf]
  rw [spellingOf, found]
  rfl

theorem dropParam_dropParam_self (r : Request) (name : String) :
    (r.dropParam name).dropParam name = r.dropParam name := by
  simp only [dropParam, Param.without_without_self]

theorem dropParam_comm (r : Request) (n m : String) :
    (r.dropParam n).dropParam m = (r.dropParam m).dropParam n := by
  simp only [dropParam, Param.without_comm _ n m]

theorem dropParam_requireFlag_self (r : Request) (name : String) :
    (r.requireFlag name).dropParam name = r.dropParam name := by
  have gone : Param.without [r.flagOf name] name = [] := by
    simp [Param.without, isNamed_flagOf]
  rw [requireFlag_eq]
  simp only [dropParam, Param.without_append, Param.without_without_self, gone, List.append_nil]

theorem requireFlag_requireFlag_self (r : Request) (name : String) :
    (r.requireFlag name).requireFlag name = r.requireFlag name := by
  rw [requireFlag_eq (r.requireFlag name), dropParam_requireFlag_self, flagOf,
    spellingOf_requireFlag]
  rfl

theorem dropParam_requireFlag (different : Text.sameIgnoringCase n m = false) :
    (r.requireFlag n).dropParam m = (r.dropParam m).requireFlag n := by
  have kept : Param.without [r.flagOf n] m = [r.flagOf n] := by
    simp [Param.without, isNamed_flagOf, different]
  rw [requireFlag_eq (r.dropParam m), dropParam_comm, flagOf, spellingOf_dropParam different]
  simp only [requireFlag_eq, dropParam, Param.without_append, kept]
  rfl

/-- Nothing but one required flag has this name, and it stands last. -/
structure EndsInFlag (r : Request) (name : String) : Prop where
  optional : ∀ p ∈ r.optionalParams, Text.sameIgnoringCase p.name name = false
  required : ∃ others flag, r.requiredParams = others ++ [flag] ∧
    (∀ p ∈ others, Text.sameIgnoringCase p.name name = false) ∧
    Text.sameIgnoringCase flag.name name = true ∧
    flag = { name := flag.name, typeName := "void", componentType := none, nullable := false }

structure AlikeApartFrom (name : String) (r s : Request) : Prop where
  fields : s = { r with optionalParams := s.optionalParams, requiredParams := s.requiredParams }
  optional : (s.optionalParams.filter fun p => !Text.sameIgnoringCase p.name name) =
    r.optionalParams.filter fun p => !Text.sameIgnoringCase p.name name
  required : (s.requiredParams.filter fun p => !Text.sameIgnoringCase p.name name) =
    r.requiredParams.filter fun p => !Text.sameIgnoringCase p.name name

theorem not_named_of_mem_without {ps : List Param} {name : String} {p : Param}
    (member : p ∈ Param.without ps name) : Text.sameIgnoringCase p.name name = false := by
  simpa [Param.isNamed] using (List.mem_filter.mp member).2

theorem requireFlag_endsInFlag (r : Request) (name : String) :
    (r.requireFlag name).EndsInFlag name where
  optional _ member := not_named_of_mem_without member
  required := ⟨_, r.flagOf name, rfl, fun _ member => not_named_of_mem_without member,
    r.sameIgnoringCase_spellingOf name, rfl⟩

theorem dropParam_alike (r : Request) (name : String) :
    AlikeApartFrom name r (r.dropParam name) where
  fields := rfl
  optional := Param.without_without_self ..
  required := Param.without_without_self ..

theorem requireFlag_alike (r : Request) (name : String) :
    AlikeApartFrom name r (r.requireFlag name) where
  fields := rfl
  optional := Param.without_without_self ..
  required := congrArg Request.requiredParams (r.dropParam_requireFlag_self name)

theorem flag_laws (r : Request) (n : String) :
    (r.requireFlag n).EndsInFlag n ∧
      (r.requireFlag n).requireFlag n = r.requireFlag n ∧
      (r.dropParam n).dropParam n = r.dropParam n ∧
      (r.requireFlag n).dropParam n = r.dropParam n ∧
      (∀ m, Text.sameIgnoringCase n m = false →
        (r.requireFlag n).dropParam m = (r.dropParam m).requireFlag n ∧
          (r.dropParam n).dropParam m = (r.dropParam m).dropParam n) ∧
      AlikeApartFrom n r (r.requireFlag n) ∧ AlikeApartFrom n r (r.dropParam n) := by
  refine ⟨r.requireFlag_endsInFlag n, r.requireFlag_requireFlag_self n,
    r.dropParam_dropParam_self n, r.dropParam_requireFlag_self n, fun m different => ?_,
    r.requireFlag_alike n, r.dropParam_alike n⟩
  exact ⟨dropParam_requireFlag different, r.dropParam_comm n m⟩

theorem flag_laws_flaggedRequest :
    let r := SplitRule.flaggedRequest
    Text.sameIgnoringCase "FULLdetails" "JOB" = false ∧
      (r.requireFlag "FULLdetails").EndsInFlag "FULLdetails" ∧
      (r.requireFlag "FULLdetails").dropParam "JOB" =
        (r.dropParam "JOB").requireFlag "FULLdetails" ∧
      ((r.requireFlag "FULLdetails").dropParam "JOB").requiredParams =
        [{ name := "fullDETAILS", typeName := "void" }] := by
  intro r
  obtain ⟨ends, -, -, -, apart, -⟩ := flag_laws r "FULLdetails"
  have different : Text.sameIgnoringCase "FULLdetails" "JOB" = false := by decide
  exact ⟨different, ends, (apart "JOB" different).1, by decide⟩

end Request

end ApiContract
