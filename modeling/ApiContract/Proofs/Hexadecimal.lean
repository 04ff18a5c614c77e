import ApiContract.Text.Hex
import Mathlib.Data.Nat.Digits.Defs

set_option autoImplicit false

namespace ApiContract.Text

theorem hexValue?_digitChar : ∀ d < 16, hexValue? d.digitChar.toUpper = some d := by
  decide

theorem hexNumber?_concat (digits : List Char) (c : Char) :
    hexNumber? (digits ++ [c]) =
      (hexNumber? digits).bind fun n => (hexValue? c).map fun d => 16 * n + d := by
  simp only [hexNumber?, List.mapM_append, List.mapM_cons, List.mapM_nil]
  cases digits.mapM hexValue? <;> cases hexValue? c <;> simp

theorem hexNumber?_zero_cons (digits : List Char) :
    hexNumber? ('0' :: digits) = hexNumber? digits := by
  have zero : hexValue? '0' = some 0 := rfl
  simp only [hexNumber?, List.mapM_cons, zero]
  cases digits.mapM hexValue? <;> simp

theorem hexNumber?_toDigits (n : Nat) :
    hexNumber? ((Nat.toDigits 16 n).map Char.toUpper) = some n := by
  induction n using Nat.strongRecOn with
  | ind n ih =>
    by_cases small : n < 16
    · rw [Nat.toDigits_of_lt_base small]
      simp [hexNumber?, hexValue?_digitChar n small]
    · have last : n % 16 < 16 := Nat.mod_lt _ (by decide)
      have split := Nat.toDigits_append_toDigits (b := 16) (n := n / 16) (by decide) (by omega) last
      rw [Nat.div_add_mod] at split
      rw [← split, Nat.toDigits_of_lt_base last, List.map_append, List.map_singleton,
        hexNumber?_concat, ih (n / 16) (by omega), hexValue?_digitChar _ last]
      simp [Nat.div_add_mod]

theorem hexNumber?_paddedHex (width n : Nat) : hexNumber? (paddedHex width n) = some n := by
  unfold paddedHex
  dsimp only
  generalize width - _ = zeros
  induction zeros with
  | zero => simpa using hexNumber?_toDigits n
  | succ zeros ih => rw [List.replicate_succ, List.cons_append, hexNumber?_zero_cons, ih]

theorem hexChar?_paddedHex (width : Nat) (c : Char) :
    hexChar? (paddedHex width c.toNat) = some c := by
  have valid : c.toNat.isValidChar := c.valid
  rw [hexChar?, hexNumber?_paddedHex]
  exact dif_pos valid

theorem length_paddedHex {width n : Nat} (some : 0 < width) (fits : n < 16 ^ width) :
    (paddedHex width n).length = width := by
  have short := (Nat.length_toDigits_le_iff (b := 16) (by decide) some).mpr fits
  simp only [paddedHex, List.length_append, List.length_replicate, List.length_map]
  omega

theorem within_of_hexValue? {c : Char} {d : Nat} (value : hexValue? c = some d) :
    0x30 ≤ c.toNat ∧ c.toNat ≤ 0x66 := by
  have bounds {a b : Char} : (a ≤ c && c ≤ b) = true ↔ a.toNat ≤ c.toNat ∧ c.toNat ≤ b.toNat := by
    simp [Char.le_def, UInt32.le_iff_toNat_le]
  unfold hexValue? at value
  simp only [Char.isDigit_iff_toNat, bounds] at value
  split_ifs at value with digit small capital
  · exact ⟨digit.1, le_trans digit.2 (by decide)⟩
  · exact ⟨le_trans (by decide) small.1, le_trans small.2 (by decide)⟩
  · exact ⟨le_trans (by decide) capital.1, le_trans capital.2 (by decide)⟩

theorem within_of_mem_paddedHex {width n : Nat} {c : Char} (inside : c ∈ paddedHex width n) :
    0x30 ≤ c.toNat ∧ c.toNat ≤ 0x66 := by
  obtain ⟨values, read, -⟩ := Option.map_eq_some_iff.mp (hexNumber?_paddedHex width n)
  generalize paddedHex width n = digits at inside read
  induction digits generalizing values with
  | nil => simp at inside
  | cons first digits ih =>
    rw [List.mapM_cons] at read
    obtain ⟨d, isFirst, read⟩ := Option.bind_eq_some_iff.mp read
    obtain ⟨later, isLater, -⟩ := Option.bind_eq_some_iff.mp read
    rcases List.mem_cons.mp inside with rfl | inside
    · exact within_of_hexValue? isFirst
    · exact ih later inside isLater

end ApiContract.Text
