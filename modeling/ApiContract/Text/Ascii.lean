set_option autoImplicit false

namespace ApiContract.Text

def asciiLower (s : String) : List Char :=
  s.toList.map Char.toLower

def sameIgnoringCase (a b : String) : Bool :=
  asciiLower a == asciiLower b

@[simp] theorem sameIgnoringCase_self (s : String) : sameIgnoringCase s s = true := by
  simp [sameIgnoringCase]

theorem sameIgnoringCase_iff {a b : String} :
    sameIgnoringCase a b = true ↔ asciiLower a = asciiLower b := by
  simp [sameIgnoringCase]

theorem forall_ascii {p : Char → Prop} (each : ∀ n < 0x80, p (Char.ofNat n)) :
    ∀ c : Char, c.toNat < 0x80 → p c := by
  intro c ascii
  have here := each c.toNat ascii
  rwa [Char.ofNat_toNat] at here

section Kinds

variable {c : Char}

theorem ascii_of_isUpper (upper : c.isUpper = true) : c.toNat < 0x80 := by
  have within : 'A'.val ≤ c.val ∧ c.val ≤ 'Z'.val := of_decide_eq_true upper
  have bound : c.toNat ≤ 'Z'.toNat := UInt32.le_iff_toNat_le.mp within.2
  exact Nat.lt_of_le_of_lt bound (by decide)

theorem ascii_of_isLower (lower : c.isLower = true) : c.toNat < 0x80 := by
  have within : c.val ≤ 'z'.val := of_decide_eq_true (Bool.and_eq_true_iff.mp lower).2
  have bound : c.toNat ≤ 'z'.toNat := UInt32.le_iff_toNat_le.mp within
  exact Nat.lt_of_le_of_lt bound (by decide)

theorem ascii_of_isDigit (digit : c.isDigit = true) : c.toNat < 0x80 := by
  have within : 48 ≤ c.toNat ∧ c.toNat ≤ 57 := Char.isDigit_iff_toNat.mp digit
  omega

theorem ascii_of_isAlphanum (alphanumeric : c.isAlphanum = true) : c.toNat < 0x80 := by
  rcases Bool.or_eq_true_iff.mp alphanumeric with letter | digit
  · rcases Bool.or_eq_true_iff.mp letter with upper | lower
    · exact ascii_of_isUpper upper
    · exact ascii_of_isLower lower
  · exact ascii_of_isDigit digit

end Kinds

end ApiContract.Text
