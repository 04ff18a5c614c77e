import ApiContract.Proofs.JsonTokens
import ApiContract.Yaml.Scalar

set_option autoImplicit false

namespace ApiContract

namespace Yaml

def LikeNumber (text : String) : Prop :=
  ∃ c cs, text.toList = c :: cs ∧ (c.isDigit = true ∨ c = '-')

theorem toList_toString_nat (n : Nat) : (toString n).toList = Nat.toDigits 10 n := by
  rw [Nat.toString_eq_ofList_toDigits, String.toList_ofList]

theorem toList_toString_negSucc (n : Nat) :
    (toString (Int.negSucc n)).toList = '-' :: Nat.toDigits 10 (n + 1) := by
  rw [← toList_toString_nat]
  exact Json.toList_toString_neg (Nat.succ_pos n)

theorem likeNumber_toString (n : Int) : LikeNumber (toString n) := by
  cases n with
  | ofNat n =>
    obtain ⟨c, cs, digits⟩ := List.exists_cons_of_ne_nil (Nat.toDigits_ne_nil (n := n) (b := 10))
    have digit : c.isDigit = true :=
      Nat.isDigit_of_mem_toDigits (b := 10) (n := n) (by decide) (by decide)
        (by rw [digits]; exact List.mem_cons_self)
    exact ⟨c, cs, (toList_toString_nat n).trans digits, .inl digit⟩
  | negSucc n => exact ⟨'-', _, toList_toString_negSucc n, .inr rfl⟩

theorem likeNumber_of_number? {text : String} {t : Json.Token}
    (number : Json.number? text.toList = some t) : LikeNumber text := by
  cases isCons : text.toList with
  | nil => simp [isCons, Json.number?, Json.isWhole] at number
  | cons c cs =>
    refine ⟨c, cs, isCons, ?_⟩
    by_contra neither
    obtain ⟨noDigit, noMinus⟩ := not_or.mp neither
    rw [isCons] at number
    unfold Json.number? at number
    extract_lets digits whole rest at number
    have same : digits = c :: cs := by
      unfold digits
      split
      case h_1 tail same => exact absurd (List.cons.inj same).1 noMinus
      case h_2 => rfl
    have empty : whole = [] := by simp [whole, same, noDigit]
    simp [empty, Json.isWhole] at number

theorem LikeNumber.ne {text : String} (like : LikeNumber text) (other : String)
    (unlike : other.toList.head?.any (fun c => c.isDigit || c == '-') = false) : text ≠ other := by
  rintro rfl
  obtain ⟨c, cs, isCons, begins⟩ := like
  rw [isCons] at unlike
  rcases begins with digit | rfl
  · simp [digit] at unlike
  · simp at unlike

namespace Scalar

theorem isDigit_of_hexValue? {c : Char} {d : Nat} (value : Text.hexValue? c = some d)
    (small : d < 10) : c.isDigit = true := by
  unfold Text.hexValue? at value
  split at value
  · assumption
  · split at value
    · have := Option.some.inj value
      omega
    · split at value
      · have := Option.some.inj value
        omega
      · contradiction

theorem isDigit_of_mapM_hexValue? {cs : List Char} {values : List Nat}
    (read : cs.mapM Text.hexValue? = some values) (small : ∀ d ∈ values, d < 10) :
    ∀ c ∈ cs, c.isDigit = true := by
  induction cs generalizing values with
  | nil => simp
  | cons c cs ih =>
    rw [List.mapM_cons] at read
    obtain ⟨d, isD, read⟩ := Option.bind_eq_some_iff.mp read
    obtain ⟨ds, isDs, returned⟩ := Option.bind_eq_some_iff.mp read
    obtain rfl := Option.some.inj returned
    have ⟨first, rest⟩ := List.forall_mem_cons.mp small
    exact List.forall_mem_cons.mpr ⟨isDigit_of_hexValue? isD first, ih isDs rest⟩

theorem isDigit_of_number? {cs : List Char} {n : Nat} (read : number? 10 cs = some n) :
    ∀ c ∈ cs, c.isDigit = true := by
  obtain ⟨values, isValues, read⟩ := Option.bind_eq_some_iff.mp read
  split at read
  case isTrue => contradiction
  case isFalse formed =>
    have small : values ≠ [] ∧ ∀ d ∈ values, d < 10 := by simpa using formed
    exact isDigit_of_mapM_hexValue? isValues small.2

theorem number?_of_digits {cs : List Char} (present : cs ≠ [])
    (digits : ∀ c ∈ cs, c.isDigit = true) : number? 10 cs = some (Json.decimalValue cs) := by
  have values : cs.mapM Text.hexValue? = some (cs.map fun c => c.toNat - '0'.toNat) := by
    clear present
    induction cs with
    | nil => rfl
    | cons c cs ih =>
      have ⟨digit, digits⟩ := List.forall_mem_cons.mp digits
      have value : Text.hexValue? c = some (c.toNat - '0'.toNat) := if_pos digit
      rw [List.mapM_cons, value, ih digits]
      rfl
  have small : ∀ c ∈ cs, c.toNat - '0'.toNat < 10 := fun c mem =>
    (Json.digitChar_of_isDigit (digits c mem)).1
  rw [number?, values, Option.bind_eq_bind, Option.bind_some, if_neg]
  · rw [List.foldl_map]
    rfl
  · simpa [present] using small

theorem marked?_of_digits {cs : List Char} (digits : ∀ c ∈ cs, c.isDigit = true) :
    marked? (unsigned cs) = none := by
  have same : unsigned cs = cs := by
    unfold unsigned
    split
    · exact absurd (digits '+' List.mem_cons_self) (by decide)
    · rfl
  rw [same]
  unfold marked?
  split
  · exact absurd (digits 'x' (by simp)) (by decide)
  · exact absurd (digits 'o' (by simp)) (by decide)
  · exact absurd (digits 'b' (by simp)) (by decide)
  · rfl

theorem number?_marked {c : Char} (marks : c ∈ ['x', 'o', 'b']) (cs : List Char) :
    Json.number? ('0' :: c :: cs) = none := by
  have noFraction : Json.isFraction (c :: cs) = false := by
    simp only [List.mem_cons, List.not_mem_nil, or_false] at marks
    rcases marks with rfl | rfl | rfl <;> cases cs <;> rfl
  have noDigit : c.isDigit = false := by
    simp only [List.mem_cons, List.not_mem_nil, or_false] at marks
    rcases marks with rfl | rfl | rfl <;> rfl
  simp [Json.number?, noFraction, noDigit]

-- A real number has a fraction, an exponent or the sign of its zero, and so no digit somewhere.
theorem exists_not_isDigit_of_real {literal : List Char} {text : String}
    (number : Json.number? literal = some (.real text)) : ∃ c ∈ literal, c.isDigit = false := by
  by_contra none
  have digits : ∀ c ∈ literal, c.isDigit = true := by simpa using none
  unfold Json.number? at number
  extract_lets unsigned whole rest at number
  have same : unsigned = literal := by
    unfold unsigned
    split
    · exact absurd (digits '-' List.mem_cons_self) (by decide)
    · rfl
  have ended : rest = [] := by
    unfold rest
    rw [same, ← List.append_nil literal, List.dropWhile_append_of_pos digits]
    rfl
  have notZero : literal ≠ ['-', '0'] := by
    rintro rfl
    exact absurd (digits '-' List.mem_cons_self) (by decide)
  split at number
  · contradiction
  · simp only [ended, List.isEmpty_nil, Bool.not_true, Bool.false_or, beq_iff_eq, notZero,
      if_false] at number
    split at number <;> simp at number

theorem natural?_eq_none {text : String} (unmarked : marked? (unsigned text.toList) = none)
    (noDigit : ∃ c ∈ unsigned text.toList, c.isDigit = false) : natural? text = none := by
  obtain ⟨c, mem, noDigit⟩ := noDigit
  rw [natural?, unmarked]
  cases read : number? 10 (unsigned text.toList) with
  | none => simp
  | some n => simp [isDigit_of_number? read c mem] at noDigit

theorem natural?_real {literal : String}
    (number : Json.number? literal.toList = some (.real literal)) : natural? literal = none := by
  obtain ⟨c, cs, isCons, begins⟩ := likeNumber_of_number? number
  have same : unsigned literal.toList = literal.toList := by
    unfold unsigned
    split
    case h_1 rest plus =>
      rw [isCons] at plus
      obtain ⟨rfl, -⟩ := List.cons.inj plus
      simp at begins
    case h_2 => rfl
  apply natural?_eq_none
  · rw [same]
    unfold marked?
    split
    case h_1 digits => rw [digits, number?_marked (by decide)] at number; contradiction
    case h_2 digits => rw [digits, number?_marked (by decide)] at number; contradiction
    case h_3 digits => rw [digits, number?_marked (by decide)] at number; contradiction
    case h_4 => rfl
  · rw [same]
    exact exists_not_isDigit_of_real number

theorem head?_toDigits {n : Nat} (positive : 0 < n) : (Nat.toDigits 10 n).head? ≠ some '0' := by
  induction n using Nat.strongRecOn with
  | ind n ih =>
    by_cases small : n < 10
    · rw [Nat.toDigits_of_lt_base small]
      have apart : ∀ d < 10, 0 < d → Nat.digitChar d ≠ '0' := by decide
      simpa using apart n small positive
    · rw [Nat.toDigits_of_base_le (by decide) (Nat.not_lt.mp small)]
      obtain ⟨c, cs, digits⟩ :=
        List.exists_cons_of_ne_nil (Nat.toDigits_ne_nil (n := n / 10) (b := 10))
      have front := ih (n / 10) (by omega) (by omega)
      rw [digits] at front ⊢
      simpa using front

theorem natural?_int (n : Int) :
    natural? (toString n) = if 0 ≤ n then some n.toNat else none := by
  cases n with
  | ofNat n =>
    have digits : ∀ c ∈ Nat.toDigits 10 n, c.isDigit = true := fun c mem =>
      Nat.isDigit_of_mem_toDigits (by decide) (by decide) mem
    have chars : (toString (Int.ofNat n)).toList = Nat.toDigits 10 n := toList_toString_nat n
    have noMinus : ∀ rest, Nat.toDigits 10 n ≠ '-' :: rest := fun rest minus =>
      absurd (digits '-' (by simp [minus])) (by decide)
    have noPlus : ∀ rest, Nat.toDigits 10 n ≠ '+' :: rest := fun rest plus =>
      absurd (digits '+' (by simp [plus])) (by decide)
    have same : unsigned (Nat.toDigits 10 n) = Nat.toDigits 10 n := by
      unfold unsigned
      split
      · exact absurd ‹_› (noPlus _)
      · rfl
    have leading : hasLeadingZero (Nat.toDigits 10 n) = false := by
      unfold hasLeadingZero
      split
      · exact absurd ‹_› (noMinus _)
      · exact absurd ‹_› (noPlus _)
      · by_cases small : n < 10
        · simp [Nat.toDigits_of_lt_base small]
        · have front := head?_toDigits (n := n) (by omega)
          simp [front]
    have value : Json.decimalValue (Nat.toDigits 10 n) = n := Nat.ofDigitChars_ten_toDigits
    rw [natural?, chars, marked?_of_digits digits, leading, same,
      number?_of_digits Nat.toDigits_ne_nil digits, value]
    rfl
  | negSucc n =>
    rw [if_neg (Int.not_le.mpr (Int.negSucc_lt_zero n))]
    apply natural?_eq_none
    · rw [toList_toString_negSucc]
      rfl
    · rw [toList_toString_negSucc]
      exact ⟨'-', List.mem_cons_self, rfl⟩

end Scalar

end Yaml

end ApiContract
