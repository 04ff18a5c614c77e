import ApiContract.Proofs.Hexadecimal
import ApiContract.Yaml.Block
import ApiContract.Yaml.Plain
import ApiContract.Yaml.Printer
import ApiContract.Yaml.Quoted
import Mathlib.Data.List.Basic

set_option autoImplicit false

namespace ApiContract.Yaml

-- A line that is not empty, and neither indented nor a comment, or the end of the text.
def BeginsLine (rest : List Char) : Prop :=
  ∀ c ∈ rest.head?, isBlank c = false ∧ isBreak c = false ∧ c ≠ '#'

namespace Scalar

theorem anyAdjacent_cons {p : Char → Char → Bool} {c : Char} {cs : List Char}
    (apart : anyAdjacent p (c :: cs) = false) :
    (∀ d ∈ cs.head?, p c d = false) ∧ anyAdjacent p cs = false := by
  cases cs with
  | nil => exact ⟨by simp, rfl⟩
  | cons d cs =>
    obtain ⟨here, later⟩ := Bool.or_eq_false_iff.mp apart
    exact ⟨fun x isHead => Option.some.inj isHead ▸ here, later⟩

theorem of_isPrintable {c : Char} (printable : isPrintable c = true) :
    isAllowed c = true ∧ c ∉ ['\t', '\r', nextLine, byteOrderMark] := by
  refine ⟨?_, fun inside => ?_⟩
  · simp only [isPrintable, Bool.or_eq_true, Bool.and_eq_true, beq_iff_eq, bne_iff_ne,
      decide_eq_true_eq] at printable
    simp only [isAllowed, Bool.or_eq_true, Bool.and_eq_true, beq_iff_eq, decide_eq_true_eq]
    omega
  · simp only [List.mem_cons, List.not_mem_nil, or_false] at inside
    rcases inside with rfl | rfl | rfl | rfl <;> contradiction

theorem isBlank_eq {c : Char} (printable : isPrintable c = true) : isBlank c = (c == ' ') := by
  have noTab : c ≠ '\t' := fun same => (of_isPrintable printable).2 (by simp [same])
  simp [isBlank, noTab]

theorem anyAdjacent_eq_false {p : Char → Char → Bool} {cs : List Char}
    (apart : ∀ c ∈ cs, ∀ d ∈ cs, p c d = false) : anyAdjacent p cs = false := by
  simp only [anyAdjacent, List.any_eq_false, Bool.not_eq_true]
  rintro ⟨c, d⟩ inside
  obtain ⟨first, second⟩ := List.of_mem_zip inside
  exact apart c first d (List.mem_of_mem_tail second)

end Scalar

namespace Plain

def Progress.shown (p : Progress) : List Char :=
  p.gap.folded ++ p.text

-- A line is being read, and no gap of it is lost.
structure Progress.IsInLine (p : Progress) : Prop where
  whole : p.gap.broken = false
  within : p.afterGap = false → p.gap = {}
  column : p.afterGap = true → 0 < p.place.column

def GoesOn (p : Progress) (c : Char) (rest : List Char) : Prop :=
  isBreak c = false ∧ (c = ':' → atGap rest = false) ∧ (p.afterGap = true → c ≠ '#')

theorem read?_step {indent : Nat} (low : indent ≤ 1) {p : Progress} (inLine : p.IsInLine) {c : Char}
    {rest : List Char} (goesOn : GoesOn p c rest) :
    ∃ q : Progress, read? false indent p (c :: rest) = read? false indent q rest ∧
      q.shown = c :: p.shown ∧ q.IsInLine ∧ q.afterGap = isBlank c ∧
        q.place = p.place.advance 1 := by
  obtain ⟨noBreak, noColon, noComment⟩ := goesOn
  by_cases blank : isBlank c = true
  · refine ⟨p.pushBlank c, ?_, ?_, ?_, by rw [blank]; rfl, rfl⟩
    · simp [read?, blank, inLine.whole]
    · simp [Progress.shown, Progress.pushBlank, Gap.pushBlank, Gap.folded, inLine.whole]
    · exact {
        whole := by simp [Progress.pushBlank, Gap.pushBlank, inLine.whole]
        within := nofun
        column := fun _ => Nat.succ_pos _ }
  · have noBlank := Bool.eq_false_iff.mpr blank
    refine ⟨p.push c, ?_, rfl, ⟨rfl, fun _ => rfl, nofun⟩, noBlank.symm, rfl⟩
    have noEnd : (p.afterGap && endsAfterGap false indent p.place (c :: rest)) = false := by
      cases afterGap : p.afterGap with
      | false => rfl
      | true =>
        have column := inLine.column afterGap
        have notIndented : ¬ p.place.column < indent := by omega
        have notFirst : p.place.column ≠ 0 := by omega
        simp [endsAfterGap, notIndented, notFirst, noComment afterGap]
    have noKey : endsBefore false c rest = false := by
      by_cases colon : c = ':'
      · simp [endsBefore, noColon colon]
      · simp [endsBefore, colon]
    simp [read?, noBlank, noBreak, noEnd, isRefused, noKey]

theorem read?_line {indent : Nat} (low : indent ≤ 1) {cs : List Char} (tail : List Char)
    (noBreak : ∀ c ∈ cs, isBreak c = false) (noTail : cs.getLast? = some ':' → atGap tail = false)
    (noKey : Scalar.anyAdjacent (fun a b => a == ':' && isBlank b) cs = false)
    (noComment : Scalar.anyAdjacent (fun a b => isBlank a && b == '#') cs = false) {p : Progress}
    (inLine : p.IsInLine) (start : p.afterGap = true → cs.head? ≠ some '#') :
    ∃ q : Progress, read? false indent p (cs ++ tail) = read? false indent q tail ∧
      q.shown = cs.reverse ++ p.shown ∧ q.IsInLine ∧
      q.afterGap = (cs.getLast?.map isBlank).getD p.afterGap ∧
      q.place = p.place.advance cs.length := by
  induction cs generalizing p with
  | nil => exact ⟨p, rfl, rfl, inLine, rfl, rfl⟩
  | cons c cs ih =>
    obtain ⟨here, later⟩ := List.forall_mem_cons.mp noBreak
    obtain ⟨key, noKey⟩ := Scalar.anyAdjacent_cons noKey
    obtain ⟨comment, noComment⟩ := Scalar.anyAdjacent_cons noComment
    have goesOn : GoesOn p c (cs ++ tail) := by
      refine ⟨here, fun colon => ?_, fun afterGap same => start afterGap (by rw [same]; rfl)⟩
      cases cs with
      | nil => exact noTail (by rw [colon]; rfl)
      | cons d cs =>
        have noBlank : isBlank d = false := by simpa [colon] using key d rfl
        simp [atGap, noBlank, later d List.mem_cons_self]
    obtain ⟨p', same, shown, inLine, afterGap, place⟩ := read?_step low inLine goesOn
    obtain ⟨q, same', shown', inLine', afterGap', place'⟩ := ih later
      (fun last => noTail (by rw [List.getLast?_cons, last]; rfl)) noKey noComment inLine
      (fun gap isHead => by
        have := comment '#' isHead
        simp [← afterGap, gap] at this)
    refine ⟨q, same.trans same', ?_, inLine', ?_, ?_⟩
    · rw [shown', shown, List.reverse_cons, List.append_assoc, List.singleton_append]
    · rw [afterGap', afterGap]
      cases cs <;> simp [List.getLast?_cons]
    · rw [place', place, List.length_cons]
      simp [Place.advance, Nat.add_assoc, Nat.add_comm 1]

theorem isInLine_start (place : Place) : ({ place } : Progress).IsInLine :=
  ⟨rfl, fun _ => rfl, nofun⟩

theorem of_allowsPlain {cs : List Char} (plain : Scalar.allowsPlain cs = true) :
    (∀ c ∈ cs, Scalar.isPrintable c = true ∧ isBreak c = false) ∧ cs.head? ≠ some ' ' ∧
      cs.getLast? ≠ some ' ' ∧ Scalar.beginsLikeMarkup cs = false ∧ cs.getLast? ≠ some ':' ∧
      Scalar.anyAdjacent (fun a b => a == ':' && isBlank b) cs = false ∧
      Scalar.anyAdjacent (fun a b => isBlank a && b == '#') cs = false := by
  simp only [Scalar.allowsPlain, Scalar.holdsMarkup, Bool.and_eq_true, bne_iff_ne,
    List.all_eq_true, Bool.not_eq_true', Bool.or_eq_false_iff, beq_eq_false_iff_ne] at plain
  obtain ⟨⟨⟨⟨first, last⟩, all⟩, begins⟩, ⟨colon, key⟩, comment⟩ := plain
  exact ⟨all, first, last, begins, colon, key, comment⟩

theorem read?_text {cs rest : List Char} (plain : Scalar.allowsPlain cs = true)
    (present : cs ≠ []) (begins : BeginsLine rest) (place : Place) :
    ∃ q : Progress, read? false 1 { place } (cs ++ '\n' :: rest) = some (q, rest) ∧
      q.text = cs.reverse ∧ q.gap.broken = true ∧ q.place.column = 0 := by
  obtain ⟨all, -, last, -, colon, key, comment⟩ := of_allowsPlain plain
  obtain ⟨q, same, shown, inLine, afterGap, -⟩ := read?_line le_rfl ('\n' :: rest)
    (fun c inside => (all c inside).2) (fun isLast => absurd isLast colon) key comment
    (isInLine_start place) nofun
  have within : q.afterGap = false := by
    obtain ⟨c, isLast⟩ := Option.ne_none_iff_exists'.mp (mt List.getLast?_eq_none_iff.mp present)
    have printable := (all c (List.mem_of_getLast? isLast)).1
    have noSpace : c ≠ ' ' := fun space => last (by rw [isLast, space])
    simp [afterGap, isLast, Scalar.isBlank_eq printable, noSpace]
  have gap := inLine.within within
  refine ⟨q.pushBreak '\n', ?_, ?_, ?_, rfl⟩
  · rw [same, read?, if_neg (by decide), if_pos (by decide)]
    cases rest with
    | nil => rfl
    | cons c rest =>
      obtain ⟨noBlank, noBreak, -⟩ := begins c rfl
      have ends : (q.pushBreak '\n').afterGap = true ∧
          endsAfterGap false 1 (q.pushBreak '\n').place (c :: rest) = true :=
        ⟨rfl, by simp [endsAfterGap, Progress.pushBreak, Place.nextLine]⟩
      simp [read?, noBlank, noBreak, ends]
  · simpa [Progress.shown, gap, Gap.folded, Progress.pushBreak] using shown
  · simp [Progress.pushBreak, Gap.pushBreak, gap]

end Plain

namespace Quoted

def Progress.shown (p : Progress) : List Char :=
  p.gap.folded ++ p.text

section Double

def IsReadAs (written : List Char) (c : Char) : Prop :=
  ∀ (p : Progress) (rest : List Char), p.gap.broken = false → 0 < p.place.column →
    ∃ q : Progress, readDouble? p (written ++ rest) = readDouble? q rest ∧
      q.shown = c :: p.shown ∧ q.gap.broken = false ∧ 0 < q.place.column

theorem isReadAs_plain {c : Char} (noBreak : isBreak c = false) (noQuote : c ≠ '"')
    (noBackslash : c ≠ '\\') : IsReadAs [c] c := by
  intro p rest whole column
  have free : p.isBarred (c :: rest) = false := by
    simp [Progress.isBarred, Nat.ne_of_gt column]
  by_cases blank : isBlank c = true
  · refine ⟨p.pushBlank c, ?_, ?_, ?_, Nat.succ_pos _⟩
    · rw [List.singleton_append, readDouble?.eq_def]
      simp [blank]
    · simp [Progress.shown, Progress.pushBlank, Gap.pushBlank, Gap.folded, whole]
    · simp [Progress.pushBlank, Gap.pushBlank, whole]
  · refine ⟨p.push c 1, ?_, rfl, rfl, Nat.succ_pos _⟩
    rw [List.singleton_append, readDouble?.eq_def]
    simp [blank, noBreak, free, noQuote, noBackslash]

theorem isReadAs_escape {c : Char} {escape : List Char} (count : Nat)
    (read : ∀ (p : Progress) (rest : List Char),
      p.isBarred ('\\' :: (escape ++ rest)) = false →
        readDouble? p ('\\' :: (escape ++ rest)) = readDouble? (p.push c (count + 1)) rest) :
    IsReadAs ('\\' :: escape) c := by
  intro p rest whole column
  have free : p.isBarred ('\\' :: (escape ++ rest)) = false := by
    simp [Progress.isBarred, Nat.ne_of_gt column]
  exact ⟨_, read p rest free, rfl, rfl, Nat.succ_pos _⟩

theorem isReadAs_letter {c e : Char} (escaped : escaped? e = some c) :
    IsReadAs ['\\', e] c := by
  have letter : isBreak e = false ∧ e ≠ 'x' ∧ e ≠ 'u' ∧ e ≠ 'U' := by
    unfold escaped? at escaped
    split at escaped
    all_goals first | contradiction | decide
  obtain ⟨noBreak, noX, noU, noU'⟩ := letter
  refine isReadAs_escape 1 fun p rest free => ?_
  rw [List.singleton_append] at free ⊢
  rw [readDouble?]
  · simp [isBlank, free, noBreak, escaped, show isBreak '\\' = false from rfl]
  · rintro a b rest rfl
    contradiction
  · rintro a b c d rest rfl
    contradiction
  · rintro a b c d e f g h rest rfl
    contradiction

-- The digits after these letters are as many as their escape takes.
theorem isReadAs_hex {c letter : Char} {width : Nat}
    (escape : (letter, width) ∈ [('x', 2), ('u', 4), ('U', 8)]) (fits : c.toNat < 16 ^ width) :
    IsReadAs ('\\' :: letter :: Text.paddedHex width c.toNat) c := by
  have read := Text.hexChar?_paddedHex width c
  have length : (Text.paddedHex width c.toNat).length = width := by
    refine Text.length_paddedHex ?_ fits
    simp only [List.mem_cons, Prod.mk.injEq, List.not_mem_nil, or_false] at escape
    omega
  generalize Text.paddedHex width c.toNat = digits at read length
  refine isReadAs_escape (digits.length + 1) fun p rest free => ?_
  simp only [List.mem_cons, Prod.mk.injEq, List.not_mem_nil, or_false] at escape
  obtain ⟨rfl, rfl⟩ | ⟨rfl, rfl⟩ | ⟨rfl, rfl⟩ := escape
  all_goals simp only [List.cons_append] at free ⊢
  · match digits, length with
    | [a, b], _ =>
      simp only [List.cons_append, List.nil_append] at free ⊢
      rw [readDouble?]
      simp [isBlank, isBreak, free, read]
  · match digits, length with
    | [a, b, c, d], _ =>
      simp only [List.cons_append, List.nil_append] at free ⊢
      rw [readDouble?]
      simp [isBlank, isBreak, free, read]
  · match digits, length with
    | [a, b, c, d, e, f, g, h], _ =>
      simp only [List.cons_append, List.nil_append] at free ⊢
      rw [readDouble?]
      simp [isBlank, isBreak, free, read]

theorem isReadAs_escapeChar (c : Char) : IsReadAs (Scalar.escapeChar c) c := by
  have named {x e : Char} (escaped : escaped? e = some x) (same : c.toNat = x.toNat) :
      IsReadAs ['\\', e] c :=
    Char.toNat_inj.mp same ▸ isReadAs_letter escaped
  unfold Scalar.escapeChar
  split_ifs with quote printable
  · rw [Bool.or_eq_true, decide_eq_true_eq, decide_eq_true_eq] at quote
    rcases quote with rfl | rfl <;> exact isReadAs_letter rfl
  · simp only [Bool.or_eq_true, decide_eq_true_eq, not_or] at quote
    simp only [Bool.and_eq_true, Bool.not_eq_true'] at printable
    exact isReadAs_plain printable.2 quote.1 quote.2
  · dsimp only
    split
    case h_13 =>
      have valid : c.toNat.isValidChar := c.valid
      unfold Nat.isValidChar at valid
      split_ifs with byte unit
      · exact isReadAs_hex (by decide) byte
      · exact isReadAs_hex (by decide) unit
      · exact isReadAs_hex (by decide) (by omega)
    all_goals exact named rfl (by assumption)

theorem readDouble?_text (cs tail : List Char) {p : Progress}
    (whole : p.gap.broken = false) (column : 0 < p.place.column) :
    ∃ q, readDouble? p (cs.flatMap Scalar.escapeChar ++ '"' :: tail) = some (q, tail) ∧
      q.text = cs.reverse ++ p.shown := by
  induction cs generalizing p with
  | nil =>
    refine ⟨p.close, ?_, rfl⟩
    have free : p.isBarred ('"' :: tail) = false := by
      simp [Progress.isBarred, Nat.ne_of_gt column]
    rw [List.flatMap_nil, List.nil_append, readDouble?.eq_def]
    simp [isBlank, isBreak, free]
  | cons c cs ih =>
    obtain ⟨p', same, shown, whole', column'⟩ :=
      isReadAs_escapeChar c p (cs.flatMap Scalar.escapeChar ++ '"' :: tail) whole column
    obtain ⟨q, read, text⟩ := ih whole' column'
    refine ⟨q, ?_, by rw [text, shown, List.reverse_cons, List.append_assoc]; rfl⟩
    rw [List.flatMap_cons, List.append_assoc, same, read]

end Double

section Single

-- Whether the last character was a break, one that folding keeps; if not, a line is being read.
structure Progress.IsAfter (p : Progress) (afterBreak : Bool) : Prop where
  broken : p.gap.broken = afterBreak
  kept : afterBreak = true → ∃ b, b ≠ '\n' ∧ p.gap.firstBreak = some b
  column : afterBreak = false → 0 < p.place.column

variable {p : Progress} {c : Char} {cs rest : List Char} {afterBreak : Bool}

theorem folded_eq {g : Gap} {b : Char} (broken : g.broken = true) (first : g.firstBreak = some b)
    (other : b ≠ '\n') : g.folded = g.laterBreaks ++ [b] := by
  rw [Gap.folded, if_pos broken, first]
  split
  case h_1 same => exact absurd (Option.some.inj same) other
  case h_2 same => rw [Option.some.inj same]
  case h_3 none => contradiction

theorem isBlank_of_isBreak (breaks : isBreak c = true) : isBlank c = false := by
  by_contra blank
  simp only [isBlank, Bool.not_eq_false, Bool.or_eq_true, beq_iff_eq] at blank
  rcases blank with rfl | rfl <;> contradiction

theorem readSingle?_blank (blank : isBlank c = true) :
    readSingle? p (c :: rest) = readSingle? (p.pushBlank c) rest := by
  rw [readSingle?.eq_def]
  simp [blank]

theorem readSingle?_break (rest : List Char) (breaks : isBreak c = true) (other : c ≠ '\n')
    (after : p.IsAfter afterBreak) (noBlanks : p.gap.broken = false → p.gap.blanks = []) :
    ∃ q : Progress, readSingle? p (c :: rest) = readSingle? q rest ∧ q.shown = c :: p.shown ∧
      q.IsAfter true := by
  have read : readSingle? p (c :: rest) = readSingle? (p.pushBreak c) rest := by
    rw [readSingle?.eq_def]
    simp [isBlank_of_isBreak breaks, breaks]
  refine ⟨p.pushBreak c, read, ?_⟩
  cases broken : p.gap.broken with
  | false =>
    have gap : (p.gap.pushBreak c) = { broken := true, firstBreak := some c } := by
      simp [Gap.pushBreak, broken]
    have before : p.gap.folded = [] := by simp [Gap.folded, broken, noBlanks broken]
    refine ⟨?_, ?_, fun _ => ⟨c, other, ?_⟩, nofun⟩
    · have folded : ({ broken := true, firstBreak := some c } : Gap).folded = [c] :=
        folded_eq rfl rfl other
      simp [Progress.shown, Progress.pushBreak, gap, folded, before]
    · simp [Progress.pushBreak, gap]
    · simp [Progress.pushBreak, gap]
  | true =>
    obtain ⟨b, other, first⟩ := after.kept (after.broken ▸ broken)
    have gap : (p.gap.pushBreak c) = { p.gap with laterBreaks := c :: p.gap.laterBreaks } := by
      simp [Gap.pushBreak, broken]
    refine ⟨?_, ?_, fun _ => ⟨b, other, ?_⟩, nofun⟩
    · have folded : (p.gap.pushBreak c).folded = c :: p.gap.folded := by
        rw [folded_eq broken first other, gap]
        exact folded_eq broken first other
      simp [Progress.shown, Progress.pushBreak, folded]
    · simp [Progress.pushBreak, gap, broken]
    · simp [Progress.pushBreak, gap, first]

-- The indentation of a line adds nothing to the text.
theorem readSingle?_indentation (rest : List Char) (after : p.IsAfter afterBreak) :
    ∃ q : Progress, readSingle? p ((if afterBreak then [' ', ' '] else []) ++ rest) =
        readSingle? q rest ∧
      q.gap = p.gap ∧ q.shown = p.shown ∧ 0 < q.place.column := by
  cases afterBreak with
  | false => exact ⟨p, rfl, rfl, rfl, after.column rfl⟩
  | true =>
    have kept (c : Char) : p.gap.pushBlank c = p.gap := by simp [Gap.pushBlank, after.broken]
    refine ⟨(p.pushBlank ' ').pushBlank ' ', ?_, ?_, ?_, Nat.succ_pos _⟩
    · exact (readSingle?_blank rfl).trans (readSingle?_blank rfl)
    · simp [Progress.pushBlank, kept]
    · simp [Progress.shown, Progress.pushBlank, kept]

theorem readSingle?_char (rest : List Char) (column : 0 < p.place.column)
    (printable : Scalar.isPrintable c = true) (noBreak : isBreak c = false)
    (noSpace : p.gap.broken = true → c ≠ ' ') :
    ∃ q : Progress, readSingle? p ((if c = '\'' then ['\'', '\''] else [c]) ++ rest) =
        readSingle? q rest ∧
      q.shown = c :: p.shown ∧ q.IsAfter false ∧ (c ≠ ' ' → q.gap.blanks = []) := by
  have free (rest : List Char) : p.isBarred rest = false := by
    simp [Progress.isBarred, Nat.ne_of_gt column]
  by_cases space : c = ' '
  · subst space
    have whole : p.gap.broken = false := by
      by_contra broken
      exact noSpace (Bool.of_not_eq_false broken) rfl
    refine ⟨p.pushBlank ' ', ?_, ?_, ?_, fun other => absurd rfl other⟩
    · exact readSingle?_blank rfl
    · simp [Progress.shown, Progress.pushBlank, Gap.pushBlank, Gap.folded, whole]
    · exact ⟨by simp [Progress.pushBlank, Gap.pushBlank, whole], nofun, fun _ => Nat.succ_pos _⟩
  · have noBlank : isBlank c = false := by simp [Scalar.isBlank_eq printable, space]
    split_ifs with quote
    · subst quote
      refine ⟨p.push '\'' 2, ?_, rfl, ⟨rfl, nofun, fun _ => Nat.succ_pos _⟩, fun _ => rfl⟩
      rw [List.cons_append, List.singleton_append, readSingle?.eq_def]
      simp [noBlank, noBreak, free]
    · refine ⟨p.push c 1, ?_, rfl, ⟨rfl, nofun, fun _ => Nat.succ_pos _⟩, fun _ => rfl⟩
      rw [List.singleton_append, readSingle?.eq_def]
      simp [noBlank, noBreak, free, quote]

theorem readSingle?_close (column : 0 < p.place.column) (noQuote : rest.head? ≠ some '\'') :
    readSingle? p ('\'' :: rest) = some (p.close, rest) := by
  have free : p.isBarred ('\'' :: rest) = false := by
    simp [Progress.isBarred, Nat.ne_of_gt column]
  rw [readSingle?.eq_def]
  simp only [free, show isBlank '\'' = false from rfl, show isBreak '\'' = false from rfl,
    Bool.false_eq_true, if_false, beq_self_eq_true, if_true]
  split
  case h_1 => exact absurd rfl noQuote
  case h_2 => rfl

-- The conditions under which a text is shown between single quotes, for the rest of it.
structure Fits (cs : List Char) : Prop where
  printable : ∀ c ∈ cs, Scalar.isPrintable c = true ∧ c ≠ '\n'
  before : Scalar.anyAdjacent (fun a b => a == ' ' && isBreak b) cs = false
  behind : Scalar.anyAdjacent (fun a b => isBreak a && b == ' ') cs = false

theorem readSingle?_text (noQuote : rest.head? ≠ some '\'') (fits : Fits cs)
    (after : p.IsAfter afterBreak) (noSpace : afterBreak = true → cs.head? ≠ some ' ')
    (noBlanks : p.gap.broken = false → p.gap.blanks ≠ [] → ∀ c ∈ cs.head?, isBreak c = false) :
    ∃ q, readSingle? p (Scalar.singleQuoted.go afterBreak cs ++ rest) = some (q, rest) ∧
      q.text = cs.reverse ++ p.shown := by
  induction cs generalizing p afterBreak with
  | nil =>
    obtain ⟨q, same, -, shown, column⟩ := readSingle?_indentation ('\'' :: rest) after
    have written : Scalar.singleQuoted.go afterBreak [] ++ rest =
        (if afterBreak then [' ', ' '] else []) ++ '\'' :: rest := by
      cases afterBreak <;> rfl
    refine ⟨q.close, ?_, shown⟩
    rw [written, same, readSingle?_close column noQuote]
  | cons c cs ih =>
    obtain ⟨here, later⟩ := List.forall_mem_cons.mp fits.printable
    obtain ⟨before, noBefore⟩ := Scalar.anyAdjacent_cons fits.before
    obtain ⟨behind, noBehind⟩ := Scalar.anyAdjacent_cons fits.behind
    have further : Fits cs := ⟨later, noBefore, noBehind⟩
    rw [Scalar.singleQuoted.go]
    by_cases breaks : isBreak c = true
    · obtain ⟨q, same, shown, after'⟩ := readSingle?_break
        (Scalar.singleQuoted.go true cs ++ rest) breaks here.2 after fun whole => by
          by_contra some
          exact absurd breaks (by simpa using noBlanks whole some c rfl)
      obtain ⟨q', read, text⟩ := ih further after'
        (fun _ space => by simpa [breaks] using behind ' ' space)
        (fun whole => absurd (after'.broken.symm.trans whole) nofun)
      exact ⟨q', by rw [if_pos breaks, List.cons_append, same, read], by simp [text, shown]⟩
    · have noBreak := Bool.eq_false_iff.mpr breaks
      obtain ⟨p', same, gap, shown, column⟩ := readSingle?_indentation
        ((if c = '\'' then ['\'', '\''] else [c]) ++ (Scalar.singleQuoted.go false cs ++ rest))
        after
      obtain ⟨q, same', shown', after', blanks⟩ := readSingle?_char
        (Scalar.singleQuoted.go false cs ++ rest) column here.1 noBreak fun broken space =>
          noSpace (by rw [← after.broken, ← gap, broken]) (by rw [space]; rfl)
      obtain ⟨q', read, text'⟩ := ih further after' nofun fun _ some d isHead => by
        have space : c = ' ' := by
          by_contra other
          exact some (blanks other)
        simpa [space] using before d isHead
      refine ⟨q', ?_, by simp [text', shown', shown]⟩
      rw [if_neg breaks, List.append_assoc, List.append_assoc, same, same', read]

theorem fits_of_allowsSingleQuotes (oneLine : '\n' ∉ cs)
    (allowed : Scalar.allowsSingleQuotes cs = true) : Fits cs := by
  simp only [Scalar.allowsSingleQuotes, Bool.and_eq_true, List.all_eq_true, Bool.not_eq_true']
    at allowed
  obtain ⟨⟨printable, before⟩, behind⟩ := allowed
  refine ⟨fun c inside => ⟨printable c inside, ?_⟩, before, behind⟩
  rintro rfl
  exact oneLine inside

end Single

end Quoted

namespace Block

def Progress.shown (p : Progress) : List Char :=
  p.emptyLines ++ p.lastBreak ++ p.text

def Progress.take (p : Progress) (c : Char) : Progress :=
  if isBreak c then
    if p.inLine then { p with place := p.place.nextLine, lastBreak := [c], inLine := false }
    else { p with place := p.place.nextLine, emptyLines := c :: p.emptyLines }
  else if p.inLine then { p with place := p.place.advance 1, text := c :: p.text }
  else { p with place := p.place.advance 2 }.beginLine false c

-- The last line is ended where the text does not end it.
def Progress.ended (p : Progress) : Progress :=
  if p.inLine then p.take '\n' else p

-- A line begins in the first column, and while it is read no break is pending.
structure Progress.IsTidy (p : Progress) : Prop where
  column : p.inLine = false → p.place.column = 0
  kept : p.inLine = true → p.lastBreak = [] ∧ p.emptyLines = []

variable {p : Progress} {c : Char} {cs rest : List Char}

theorem Progress.IsTidy.take (tidy : p.IsTidy) (c : Char) :
    (p.take c).IsTidy ∧ (p.take c).shown = c :: p.shown ∧ (p.take c).inLine = !isBreak c := by
  have kept := tidy.kept
  unfold Progress.take
  split_ifs with breaks inLine inLine <;> refine ⟨⟨?_, ?_⟩, ?_, ?_⟩ <;>
    simp_all [Progress.shown, Progress.beginLine, Place.nextLine]

theorem Progress.IsTidy.foldl_take (tidy : p.IsTidy) (cs : List Char) :
    (cs.foldl Progress.take p).IsTidy ∧
      (cs.foldl Progress.take p).shown = cs.reverse ++ p.shown := by
  induction cs generalizing p with
  | nil => exact ⟨tidy, rfl⟩
  | cons c cs ih =>
    obtain ⟨tidy', shown, -⟩ := tidy.take c
    obtain ⟨tidy'', shown'⟩ := ih tidy'
    refine ⟨tidy'', ?_⟩
    rw [List.foldl_cons, shown', shown, List.reverse_cons, List.append_assoc]
    rfl

theorem read?_stop (outside : p.inLine = false) (column : p.place.column = 0)
    (begins : BeginsLine rest) : read? false 2 p rest = some (p, rest) := by
  cases rest with
  | nil => rfl
  | cons c rest =>
    obtain ⟨noBlank, noBreak, -⟩ := begins c rfl
    simp only [isBlank, Bool.or_eq_false_iff] at noBlank
    simp [read?, outside, column, noBlank, noBreak]

theorem read?_break (tail : List Char) (breaks : isBreak c = true) :
    read? false 2 p (c :: tail) = read? false 2 (p.take c) tail := by
  have noBlank := Quoted.isBlank_of_isBreak breaks
  simp only [isBlank, Bool.or_eq_false_iff] at noBlank
  rw [read?, Progress.take]
  cases inLine : p.inLine <;> simp [breaks, noBlank]

theorem read?_indent (tail : List Char) (outside : p.inLine = false) (less : p.place.column < 2) :
    read? false 2 p (' ' :: tail) = read? false 2 { p with place := p.place.advance 1 } tail := by
  rw [read?]
  simp [outside, less]

theorem read?_char (tail : List Char) (tidy : p.IsTidy) (noBreak : isBreak c = false) :
    read? false 2 p ((if !p.inLine then [' ', ' '] else []) ++ c :: tail) =
      read? false 2 (p.take c) tail := by
  cases inLine : p.inLine with
  | true => simp [Progress.take, read?, inLine, noBreak]
  | false =>
    have column := tidy.column inLine
    have indented : read? false 2 p (' ' :: ' ' :: c :: tail) =
        read? false 2 { p with place := p.place.advance 2 } (c :: tail) :=
      (read?_indent _ inLine (by omega)).trans
        (read?_indent _ (by exact inLine) (by simp [Place.advance, column]))
    refine indented.trans ?_
    rw [read?, Progress.take]
    simp [inLine, noBreak, column, Place.advance]

theorem read?_lines (tidy : p.IsTidy) (begins : BeginsLine rest) :
    read? false 2 p (Scalar.lines.go (!p.inLine) cs ++ rest) =
      some ((cs.foldl Progress.take p).ended, rest) := by
  induction cs generalizing p with
  | nil =>
    cases inLine : p.inLine with
    | true =>
      have last : p.take '\n' =
          { p with place := p.place.nextLine, lastBreak := ['\n'], inLine := false } := by
        rw [Progress.take, if_pos (by decide), if_pos inLine]
      have ended : ([].foldl Progress.take p).ended = p.take '\n' := if_pos inLine
      rw [ended, last, ← read?_stop rfl rfl begins]
      simp [Scalar.lines.go, read?, inLine, isBreak]
    | false =>
      have ended : ([].foldl Progress.take p).ended = p := by simp [Progress.ended, inLine]
      rw [ended]
      exact read?_stop inLine (tidy.column inLine) begins
  | cons c cs ih =>
    obtain ⟨tidy', -, inLine'⟩ := tidy.take c
    have later := ih tidy'
    rw [List.foldl_cons, ← later, inLine', Bool.not_not, Scalar.lines.go]
    by_cases breaks : isBreak c = true
    · rw [if_pos breaks, breaks, List.cons_append, read?_break _ breaks]
    · have noBreak := Bool.eq_false_iff.mpr breaks
      rw [if_neg breaks, noBreak, List.append_assoc, List.cons_append, read?_char _ tidy noBreak]

def Chomping.sign : Chomping → List Char
  | .clip => []
  | .strip => ['-']
  | .keep => ['+']

theorem IsTidy.start (place : Place) (column : place.column = 0) :
    ({ place } : Progress).IsTidy :=
  ⟨fun _ => column, nofun⟩

theorem chomped_strip (tidy : p.IsTidy) (inLine : p.inLine = true) :
    p.ended.chomped .strip = p.shown.reverse := by
  have kept := tidy.kept inLine
  have text : p.ended.text = p.text := by
    simp [Progress.ended, inLine, Progress.take, isBreak]
  simp [Progress.chomped, text, Progress.shown, kept]

theorem chomped_keep (outside : p.inLine = false) :
    p.ended.chomped .keep = p.shown.reverse := by
  simp [Progress.ended, outside, Progress.chomped, Progress.shown]

-- After a line there is a single break, so that none is lost.
theorem chomped_clip (tidy : p.IsTidy) (inLine : p.inLine = true) (breaks : isBreak c = true) :
    (p.take c).ended.chomped .clip = (p.take c).shown.reverse := by
  have kept := tidy.kept inLine
  simp [Progress.take, breaks, inLine, Progress.ended, Progress.chomped, Progress.shown, kept]

theorem exists_chomping (present : cs ≠ []) :
    ∃ chomping : Chomping, Scalar.chomping cs = chomping.sign ∧
      ∀ {p : Progress}, p.IsTidy → p.shown = [] →
        (cs.foldl Progress.take p).ended.chomped chomping = cs := by
  obtain ⟨front, c, rfl⟩ := (List.eq_nil_or_concat' cs).resolve_left present
  have last {p : Progress} (tidy : p.IsTidy) (empty : p.shown = []) :
      ((front.foldl Progress.take p).take c).shown.reverse = front ++ [c] := by
    have shown := (tidy.foldl_take (front ++ [c])).2
    rw [List.foldl_append, empty, List.append_nil] at shown
    exact (congrArg List.reverse shown).trans (List.reverse_reverse _)
  simp only [List.foldl_append, List.foldl_cons, List.foldl_nil]
  have keep (breaks : isBreak c = true) {p : Progress} (tidy : p.IsTidy) (empty : p.shown = []) :
      ((front.foldl Progress.take p).take c).ended.chomped .keep = front ++ [c] := by
    have inLine := ((tidy.foldl_take front).1.take c).2.2
    rw [chomped_keep (by rw [inLine, breaks]; rfl), last tidy empty]
  by_cases breaks : isBreak c = true
  · rcases List.eq_nil_or_concat' front with rfl | ⟨front, d, rfl⟩
    · exact ⟨.keep, by simp [Scalar.chomping, breaks, Chomping.sign], keep breaks⟩
    by_cases breaks' : isBreak d = true
    · exact ⟨.keep, by simp [Scalar.chomping, breaks, breaks', Chomping.sign], keep breaks⟩
    · have noBreak := Bool.eq_false_iff.mpr breaks'
      refine ⟨.clip, by simp [Scalar.chomping, breaks, noBreak, Chomping.sign], ?_⟩
      intro p tidy empty
      obtain ⟨tidy', -, inLine⟩ := (tidy.foldl_take front).1.take d
      rw [← last tidy empty, List.foldl_append, List.foldl_cons, List.foldl_nil]
      exact chomped_clip tidy' (by rw [inLine, noBreak]; rfl) breaks
  · have noBreak := Bool.eq_false_iff.mpr breaks
    refine ⟨.strip, by simp [Scalar.chomping, noBreak, Chomping.sign], ?_⟩
    intro p tidy empty
    obtain ⟨tidy', -, inLine⟩ := (tidy.foldl_take front).1.take c
    rw [chomped_strip tidy' (by rw [inLine, noBreak]; rfl), last tidy empty]

theorem header?_sign (chomping : Chomping) (body : List Char) :
    header? (chomping.sign ++ '\n' :: body) = some (⟨chomping, none⟩, chomping.sign.length) := by
  cases chomping with
  | clip => cases body <;> rfl
  | strip | keep => rfl

theorem header?_two_sign (chomping : Chomping) (body : List Char) :
    header? ('2' :: (chomping.sign ++ '\n' :: body)) =
      some (⟨chomping, some 2⟩, chomping.sign.length + 1) := by
  cases chomping <;> rfl

-- Whether the indentation has to be stated, because the text does not show it.
def statesIndent (cs : List Char) : Bool :=
  cs.head?.any fun c => c == ' ' || isBreak c

theorem lines_eq (cs : List Char) : Scalar.lines cs =
    '|' :: ((if statesIndent cs then ['2'] else []) ++
      (Scalar.chomping cs ++ '\n' :: Scalar.lines.go true cs)) := by
  cases cs with
  | nil => simp [Scalar.lines, statesIndent]
  | cons c cs => simp [Scalar.lines, statesIndent]

theorem deepestIndent?_go {tail : List Char} (printable : ∀ c ∈ cs, Scalar.isPrintable c = true)
    (present : cs ≠ []) (shows : statesIndent cs = false) :
    deepestIndent? 0 0 (Scalar.lines.go true cs ++ tail) = some 2 := by
  obtain ⟨c, cs, rfl⟩ := List.exists_cons_of_ne_nil present
  simp only [statesIndent, List.head?_cons, Option.any_some, Bool.or_eq_false_iff] at shows
  obtain ⟨noSpace, noBreak⟩ := shows
  have noTab : (c == '\t') = false := by
    have noBlank := Scalar.isBlank_eq (printable c List.mem_cons_self)
    rw [noSpace] at noBlank
    exact (Bool.or_eq_false_iff.mp noBlank).2
  simp [Scalar.lines.go, noBreak, deepestIndent?, noSpace, noTab]

theorem endLine?_break (place : Place) (rest : List Char) :
    (⟨'\n' :: rest, place⟩ : Cursor).endLine? = some ⟨rest, ⟨place.line + 1, 0⟩⟩ := by
  simp [Cursor.endLine?, Cursor.skipBlanks, Cursor.takeWhile, isBlank, Cursor.skipComment, atBreak,
    isBreak, Cursor.skipBreak, Place.nextLine, Place.advance]

theorem header?_lines {chomping : Chomping} (sign : Scalar.chomping cs = chomping.sign)
    {c : Cursor} (written : '|' :: c.rest = Scalar.lines cs ++ rest) :
    ∃ count, header? c.rest = some (⟨chomping, if statesIndent cs then some 2 else none⟩, count) ∧
      (c.skip count).endLine? = some ⟨Scalar.lines.go true cs ++ rest, ⟨c.place.line + 1, 0⟩⟩ := by
  obtain ⟨text, place⟩ := c
  rw [lines_eq, sign, List.cons_append, List.append_assoc, List.append_assoc,
    List.cons_append] at written
  obtain rfl := (List.cons.inj written).2
  cases statesIndent cs with
  | true =>
    refine ⟨_, header?_two_sign chomping _, ?_⟩
    rw [Cursor.skip, if_pos rfl, List.cons_append, List.drop_succ_cons, List.nil_append,
      List.drop_left]
    exact endLine?_break _ _
  | false =>
    refine ⟨_, header?_sign chomping _, ?_⟩
    rw [Cursor.skip, if_neg Bool.false_ne_true, List.nil_append, List.drop_left]
    exact endLine?_break _ _

theorem column_ended (tidy : p.IsTidy) : p.ended.place.column = 0 := by
  unfold Progress.ended
  split_ifs with inLine
  · exact (tidy.take '\n').1.column (tidy.take '\n').2.2
  · exact tidy.column (Bool.eq_false_iff.mpr inLine)

theorem scalar?_text {c : Cursor} (allowed : Scalar.allowsLines cs = true) (present : cs ≠ [])
    (begins : BeginsLine rest) (written : '|' :: c.rest = Scalar.lines cs ++ rest) :
    ∃ place : Place, scalar? false 0 c = some (cs, ⟨rest, place⟩) ∧ place.column = 0 := by
  have printable : ∀ c ∈ cs, Scalar.isPrintable c = true := by
    simp only [Scalar.allowsLines, Bool.and_eq_true, List.all_eq_true] at allowed
    exact allowed.1.1
  obtain ⟨chomping, sign, chomped⟩ := exists_chomping present
  obtain ⟨count, header, ended⟩ := header?_lines sign written
  have tidy := IsTidy.start ⟨c.place.line + 1, 0⟩ rfl
  have read : read? false 2 { place := ⟨c.place.line + 1, 0⟩ } (Scalar.lines.go true cs ++ rest) =
      _ := read?_lines tidy begins
  refine ⟨_, ?_, column_ended (tidy.foldl_take cs).1⟩
  unfold scalar?
  rw [header]
  cases shows : statesIndent cs with
  | true => simp [ended, read, chomped tidy rfl]
  | false => simp [ended, read, chomped tidy rfl, deepestIndent?_go printable present shows]

end Block

end ApiContract.Yaml
