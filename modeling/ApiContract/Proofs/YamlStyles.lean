import ApiContract.Proofs.YamlTexts
import ApiContract.Proofs.YamlScalars
import ApiContract.Text.Ascii
import Mathlib.Data.Bool.AllAny

set_option autoImplicit false

namespace ApiContract.Yaml

inductive Shown (text : String) : ScalarStyle → List Char → Prop
  | lines (present : text.toList ≠ []) (allowed : Scalar.allowsLines text.toList = true) :
    Shown text .literal (Scalar.lines text.toList)
  | plain (present : text.toList ≠ []) (allowed : Scalar.allowsPlain text.toList = true) :
    Shown text .plain (text.toList ++ ['\n'])
  | single (oneLine : '\n' ∉ text.toList)
    (allowed : Scalar.allowsSingleQuotes text.toList = true) :
    Shown text .quoted (Scalar.singleQuoted text.toList ++ ['\n'])
  | double : Shown text .quoted (Scalar.doubleQuoted text.toList ++ ['\n'])

def styleOf (text : String) : ScalarStyle :=
  let cs := text.toList
  if cs.contains '\n' && Scalar.allowsLines cs then .literal
  else if !cs.contains '\n' && !Scalar.isAmbiguous text && Scalar.allowsPlain cs then .plain
  else .quoted

theorem isText_of_styleOf {text : String} (plain : styleOf text = .plain) :
    Scalar.isText text = true := by
  unfold styleOf at plain
  dsimp only at plain
  split_ifs at plain with lines simple
  simp only [Scalar.isAmbiguous, Bool.and_eq_true, Bool.not_eq_true', Bool.or_eq_false_iff,
    Bool.not_eq_false'] at simple
  exact simple.1.2.1.2

theorem shown_write (text : String) : Shown text (styleOf text) (Scalar.write text).toList := by
  unfold styleOf Scalar.write
  dsimp only
  split_ifs with lines simple quotes
  · simp only [Bool.and_eq_true, List.contains_iff_mem] at lines
    rw [String.toList_ofList]
    exact .lines (List.ne_nil_of_mem lines.1) lines.2
  · simp only [Bool.and_eq_true, Bool.not_eq_true'] at simple
    have present : text.toList ≠ [] := by
      intro empty
      obtain rfl : text = "" := String.toList_inj.mp empty
      exact absurd simple.1.2 (by decide)
    rw [String.toList_append, String.toList_ofList]
    exact .plain present simple.2
  · simp only [Bool.and_eq_true, Bool.not_eq_true', List.contains_eq_mem, decide_eq_false_iff_not]
      at quotes
    rw [String.toList_append, String.toList_ofList]
    exact .single quotes.1 quotes.2
  · rw [String.toList_append, String.toList_ofList]
    exact .double

theorem Shown.begins {text : String} {style : ScalarStyle} {w : List Char}
    (shown : Shown text style w) (rest : List Char) : BeginsLine (w ++ rest) := by
  cases shown with
  | lines | single | double =>
    intro c isHead
    obtain rfl := Option.some.inj isHead
    decide
  | plain present allowed =>
    intro c isHead
    obtain ⟨first, later, same⟩ := List.exists_cons_of_ne_nil present
    obtain ⟨all, noSpace, -, noMarkup, -⟩ := Plain.of_allowsPlain allowed
    rw [same] at isHead all noSpace noMarkup
    obtain rfl := Option.some.inj isHead
    obtain ⟨printable, noBreak⟩ := all first List.mem_cons_self
    refine ⟨?_, noBreak, ?_⟩
    · rw [Scalar.isBlank_eq printable]
      exact beq_false_of_ne fun space => noSpace (by rw [space]; rfl)
    · rintro rfl
      simp [Scalar.beginsLikeMarkup] at noMarkup

theorem Shown.length_pos {text : String} {style : ScalarStyle} {w : List Char}
    (shown : Shown text style w) : 0 < w.length := by
  cases shown with
  | lines | single | double => exact Nat.succ_pos _
  | plain => simp

section Printable

variable {cs : List Char}

theorem isPrintable_of_within {c : Char} (within : 0x20 ≤ c.toNat ∧ c.toNat ≤ 0x7E) :
    Scalar.isPrintable c = true := by
  simp [Scalar.isPrintable, within]

theorem all_paddedHex (width n : Nat) :
    (Text.paddedHex width n).all Scalar.isPrintable = true := by
  rw [List.all_eq_true]
  intro x inside
  have := Text.within_of_mem_paddedHex inside
  exact isPrintable_of_within (by omega)

theorem all_escapeChar (c : Char) : (Scalar.escapeChar c).all Scalar.isPrintable = true := by
  unfold Scalar.escapeChar
  split_ifs with quote printable
  · rw [Bool.or_eq_true, decide_eq_true_eq, decide_eq_true_eq] at quote
    rcases quote with rfl | rfl <;> decide
  · rw [Bool.and_eq_true] at printable
    simp [printable.1]
  · dsimp only
    split
    case h_13 =>
      have escape : ['\\', 'x', 'u', 'U'].all Scalar.isPrintable = true := by decide
      simp only [List.all_cons, List.all_nil, Bool.and_eq_true] at escape
      split_ifs <;> simp [all_paddedHex, escape]
    all_goals decide

theorem all_singleQuoted (afterBreak : Bool) (printable : cs.all Scalar.isPrintable = true) :
    (Scalar.singleQuoted.go afterBreak cs).all Scalar.isPrintable = true := by
  have signs : [' ', '\''].all Scalar.isPrintable = true := by decide
  simp only [List.all_cons, List.all_nil, Bool.and_eq_true] at signs
  induction cs generalizing afterBreak with
  | nil => cases afterBreak <;> decide
  | cons c cs ih =>
    rw [List.all_cons, Bool.and_eq_true] at printable
    rw [Scalar.singleQuoted.go]
    split_ifs <;> simp [printable.1, ih _ printable.2, signs]

theorem all_lines (afterBreak : Bool) (printable : cs.all Scalar.isPrintable = true) :
    (Scalar.lines.go afterBreak cs).all Scalar.isPrintable = true := by
  have space : Scalar.isPrintable ' ' = true := by decide
  induction cs generalizing afterBreak with
  | nil => cases afterBreak <;> decide
  | cons c cs ih =>
    rw [List.all_cons, Bool.and_eq_true] at printable
    rw [Scalar.lines.go]
    split_ifs <;> simp [printable.1, ih _ printable.2, space]

theorem Shown.all_isPrintable {text : String} {style : ScalarStyle} {w : List Char}
    (shown : Shown text style w) : w.all Scalar.isPrintable = true := by
  have signs : ['|', '2', '\n', '\'', '"'].all Scalar.isPrintable = true := by decide
  simp only [List.all_cons, List.all_nil, Bool.and_eq_true] at signs
  cases shown with
  | lines present allowed =>
    simp only [Scalar.allowsLines, Bool.and_eq_true] at allowed
    obtain ⟨chomping, sign, -⟩ := Block.exists_chomping present
    have all : chomping.sign.all Scalar.isPrintable = true := by cases chomping <;> decide
    have indent : (if Block.statesIndent text.toList then ['2'] else []).all Scalar.isPrintable =
        true := by
      split_ifs <;> simp [signs]
    rw [Block.lines_eq, sign]
    simp only [List.all_cons, List.all_append, indent, all, all_lines true allowed.1.1, signs]
    rfl
  | plain present allowed =>
    have all := (Plain.of_allowsPlain allowed).1
    simpa [signs] using fun c inside => (all c inside).1
  | single oneLine allowed =>
    simp only [Scalar.allowsSingleQuotes, Bool.and_eq_true] at allowed
    simp [Scalar.singleQuoted, signs, all_singleQuoted false allowed.1.1]
  | double =>
    have all : (text.toList.flatMap Scalar.escapeChar).all Scalar.isPrintable = true := by
      rw [List.all_flatMap, List.all_eq_true]
      exact fun c _ => all_escapeChar c
    simp [Scalar.doubleQuoted, signs, all]

end Printable

-- A name that is a plain scalar, and short enough for a key.
structure IsKey (name : String) : Prop where
  present : name.toList ≠ []
  word : ∀ c ∈ name.toList, (c.isAlphanum || c == '_') = true
  short : name.toList.length ≤ longestKey

-- The characters that no plain scalar begins with everywhere, and the point.
def signs : List Char :=
  "-?:,[]\x7b\x7d#&*!|>'\"%@`\t.".toList

theorem of_isKeyChar {c : Char} (word : (c.isAlphanum || c == '_') = true) :
    isBlank c = false ∧ isBreak c = false ∧ ∀ x ∈ signs, c ≠ x := by
  have other (x : Char) (notWord : (x.isAlphanum || x == '_') = false) : c ≠ x := by
    rintro rfl
    rw [notWord] at word
    contradiction
  refine ⟨?_, ?_, fun x isSign => ?_⟩
  · simp [isBlank, other ' ' rfl, other '\t' rfl]
  · have line : c.toNat ≠ 0x2028 := fun same => other '\u2028' rfl (Char.toNat_inj.mp same)
    have paragraph : c.toNat ≠ 0x2029 := fun same => other '\u2029' rfl (Char.toNat_inj.mp same)
    simp [isBreak, other '\n' rfl, line, paragraph]
  · have notWords : ∀ x ∈ signs, (x.isAlphanum || x == '_') = false :=
      List.all_iff_forall_prop.mp (by decide)
    exact other x (notWords x isSign)

theorem isPrintable_of_isKeyChar {c : Char} (word : (c.isAlphanum || c == '_') = true) :
    Scalar.isPrintable c = true := by
  have ascii : c.toNat < 0x80 := by
    rcases Bool.or_eq_true_iff.mp word with alphanumeric | score
    · exact Text.ascii_of_isAlphanum alphanumeric
    · rw [beq_iff_eq.mp score]
      decide
  revert word
  revert c
  apply Text.forall_ascii
  decide

theorem write_cons (name : String) (setting : Setting) (settings : Settings) :
    (write ((name, setting) :: settings)).toList =
      (writeSetting name setting).toList ++ (write settings).toList := by
  simp [write, String.toList_join]

theorem writeSetting_eq (name : String) (setting : Setting) :
    ∃ later, (writeSetting name setting).toList = name.toList ++ ':' :: later := by
  match setting with
  | .text _ | .flag true | .flag false | .texts [] | .texts (_ :: _) =>
    exact ⟨_, by simp [writeSetting]; rfl⟩

theorem beginsLine_write {settings : Settings} (keys : ∀ s ∈ settings, IsKey s.1) :
    BeginsLine (write settings).toList := by
  cases settings with
  | nil => simp [write, BeginsLine]
  | cons setting settings =>
    obtain ⟨name, value⟩ := setting
    have key : IsKey name := keys _ List.mem_cons_self
    obtain ⟨first, later, same⟩ := List.exists_cons_of_ne_nil key.present
    obtain ⟨front, written⟩ := writeSetting_eq name value
    obtain ⟨noBlank, noBreak, other⟩ := of_isKeyChar (key.word first (by simp [same]))
    intro c isHead
    rw [write_cons, written, same] at isHead
    obtain rfl := Option.some.inj isHead
    exact ⟨noBlank, noBreak, other '#' (by decide)⟩

theorem all_writeSetting {name : String} (key : IsKey name) (setting : Setting) :
    (writeSetting name setting).toList.all Scalar.isPrintable = true := by
  have all : name.toList.all Scalar.isPrintable = true :=
    List.all_eq_true.mpr fun c inside => isPrintable_of_isKeyChar (key.word c inside)
  have text (t : String) := (shown_write t).all_isPrintable
  have signs : [':', ' ', '-', '\n'].all Scalar.isPrintable = true := by decide
  simp only [List.all_cons, List.all_nil, Bool.and_eq_true] at signs
  match setting with
  | .text t => simp [writeSetting, all, text, signs]
  | .flag true | .flag false => simp [writeSetting, all]; decide
  | .texts [] => simp [writeSetting, all]; decide
  | .texts (t :: ts) => simp [writeSetting, all, text, signs, String.toList_join]

theorem all_write {settings : Settings} (keys : ∀ s ∈ settings, IsKey s.1) :
    (write settings).toList.all Scalar.isPrintable = true := by
  induction settings with
  | nil => rfl
  | cons s settings ih =>
    obtain ⟨key, later⟩ := List.forall_mem_cons.mp keys
    rw [write_cons, List.all_append, all_writeSetting key, ih later]
    rfl

end ApiContract.Yaml
