import ApiContract.Proofs.Hexadecimal
import ApiContract.Toml.Printer
import ApiContract.Toml.Quoted

set_option autoImplicit false

namespace ApiContract.Toml

section Escapes

variable {c : Char} {cs rest : List Char}

theorem isControl_eq_false (free : isControl c = false) :
    c ≠ '\r' ∧ (c ≠ '\n' → isTextChar c = true) := by
  constructor
  · rintro rfl
    contradiction
  · intro noBreak
    simp only [isControl, Bool.or_eq_false_iff, Bool.and_eq_false_iff, decide_eq_false_iff_not,
      bne_eq_false_iff_eq, beq_eq_false_iff_ne] at free
    simp only [isTextChar, Bool.or_eq_true, Bool.and_eq_true, decide_eq_true_eq, beq_iff_eq,
      bne_iff_ne]
    rcases free with ⟨(high | tab) | newline, notDelete⟩
    · exact .inr ⟨Nat.not_lt.mp high, notDelete⟩
    · exact .inl tab
    · contradiction

theorem escapeChar_cases (noBreak : c ≠ '\n') :
    (escapeChar c = [c] ∧ c ≠ '\\' ∧ c ≠ '\r' ∧ isTextChar c = true) ∨
      ∃ e escape, escapeChar c = '\\' :: e :: escape ∧ isBlank e = false ∧ e ≠ '\n' ∧
        '\r' ∉ e :: escape ∧ ∀ rest, escape? (e :: (escape ++ rest)) = some (c, rest) := by
  unfold escapeChar
  split
  case h_6 _ _ _ _ _ noBackslash =>
    split
    case isTrue control =>
      have small : c.toNat < 16 ^ 4 := by
        simp only [isControl, Bool.or_eq_true, Bool.and_eq_true, decide_eq_true_eq, beq_iff_eq]
          at control
        omega
      have length := Text.length_paddedHex (n := c.toNat) (by decide) small
      refine .inr ⟨_, _, rfl, by decide, by decide, ?_, fun rest => ?_⟩
      · simp only [List.mem_cons, not_or]
        exact ⟨by decide, fun inside => absurd (Text.within_of_mem_paddedHex inside) (by decide)⟩
      · rw [escape?, if_neg (by rw [List.length_append]; omega),
          List.take_left' length, List.drop_left' length, Text.hexChar?_paddedHex]
        rfl
    case isFalse free =>
      obtain ⟨noReturn, isText⟩ := isControl_eq_false (Bool.eq_false_iff.mpr free)
      exact .inl ⟨rfl, noBackslash, noReturn, isText noBreak⟩
  all_goals exact .inr ⟨_, [], rfl, by decide, by decide, by decide, fun _ => rfl⟩

end Escapes

section Basic

variable {c : Char} {rest : List Char}

theorem basic?_escape {cs : List Char} (escaped : escape? cs = some (c, rest)) :
    basic? ('\\' :: cs) = (basic? rest).map (push c) := by
  rw [basic?, escaped]

theorem basic?_plain (noQuote : c ≠ '"') (noBackslash : c ≠ '\\') (isText : isTextChar c = true) :
    basic? (c :: rest) = (basic? rest).map (push c) := by
  rw [basic?]
  · rw [if_pos isText]
  · exact noQuote
  · exact noBackslash

def written (c : Char) : List Char :=
  if c = '"' then ['\\', '"'] else if c = '\n' then ['\\', 'n'] else escapeChar c

theorem basic_eq (cs : List Char) : basic cs = '"' :: cs.flatMap written ++ ['"'] :=
  rfl

theorem basic?_written (c : Char) (rest : List Char) :
    basic? (written c ++ rest) = (basic? rest).map (push c) := by
  unfold written
  split_ifs with quote newline
  · exact basic?_escape (by rw [quote]; rfl)
  · exact basic?_escape (by rw [newline]; rfl)
  · rcases escapeChar_cases newline with
      ⟨same, noBackslash, -, isText⟩ | ⟨e, escape, same, -, -, -, read⟩
    · rw [same]
      exact basic?_plain quote noBackslash isText
    · rw [same]
      exact basic?_escape (read rest)

theorem basic?_flatMap_written (cs rest : List Char) :
    basic? (cs.flatMap written ++ '"' :: rest) = some (cs, rest) := by
  induction cs with
  | nil => rw [List.flatMap_nil, List.nil_append, basic?]
  | cons c cs ih => rw [List.flatMap_cons, List.append_assoc, basic?_written, ih]; rfl

theorem no_return_in_written (c : Char) : '\r' ∉ written c := by
  unfold written
  split_ifs with quote newline
  · decide
  · decide
  · rcases escapeChar_cases newline with
      ⟨same, -, noReturn, -⟩ | ⟨e, escape, same, -, -, noReturn, -⟩
    · rw [same]
      simpa using noReturn.symm
    · rw [same, List.mem_cons, not_or]
      exact ⟨by decide, noReturn⟩

end Basic

section Literal

variable {cs rest : List Char}

theorem literal?_plain (plain : ∀ c ∈ cs, isTextChar c = true ∧ c ≠ '\'') :
    literal? (cs ++ '\'' :: rest) = some (cs, rest) := by
  induction cs with
  | nil => rfl
  | cons c cs ih =>
    obtain ⟨⟨isText, noQuote⟩, later⟩ := List.forall_mem_cons.mp plain
    rw [List.cons_append, literal?, if_pos isText, ih later]
    · rfl
    · exact noQuote

end Literal

section Long

variable {quote c : Char} {cs rest : List Char} {run : Nat}

-- A text is a run of quotes, or goes on with another character after one.
theorem exists_leading (quote : Char) (cs : List Char) :
    ∃ k, (∀ run, run + k ≤ longestRun quote run cs) ∧
      (cs = List.replicate k quote ∨
        ∃ x later, x ≠ quote ∧ cs = List.replicate k quote ++ x :: later) := by
  induction cs with
  | nil => exact ⟨0, fun run => by simp [longestRun], .inl rfl⟩
  | cons c cs ih =>
    by_cases here : c = quote
    · obtain ⟨k, long, shape⟩ := ih
      refine ⟨k + 1, fun run => ?_, ?_⟩
      · have := long (run + 1)
        rw [longestRun, if_pos here]
        omega
      · rw [List.replicate_succ, here]
        exact shape.imp (fun all => by rw [all]) fun ⟨x, later, other, whole⟩ =>
          ⟨x, later, other, by rw [whole, List.cons_append]⟩
    · refine ⟨0, fun run => ?_, .inr ⟨c, cs, here, rfl⟩⟩
      rw [longestRun, if_neg here]
      exact Nat.le_max_left ..

theorem longestRun_mono (quote : Char) (cs : List Char) {run run' : Nat} (less : run ≤ run') :
    longestRun quote run cs ≤ longestRun quote run' cs := by
  induction cs generalizing run run' with
  | nil => exact less
  | cons c cs ih =>
    unfold longestRun
    split_ifs
    · exact ih (Nat.succ_le_succ less)
    · exact max_le_max_right _ less

theorem endLong_replicate (apart : rest.head? ≠ some quote) {k : Nat} (few : k ≤ 2) :
    endLong quote (List.replicate k quote ++ rest) = (List.replicate k quote, rest) := by
  have none : rest.takeWhile (· == quote) = [] := by
    cases rest with
    | nil => rfl
    | cons c rest =>
      have other : (c == quote) = false := beq_false_of_ne fun same => apart (by rw [same]; rfl)
      rw [List.takeWhile_cons, other]
      rfl
  have taken : (List.replicate k quote ++ rest).takeWhile (· == quote) =
      List.replicate k quote := by
    rw [List.takeWhile_append_of_pos (by simp), none, List.append_nil]
  have all : (List.replicate k quote).take 2 = List.replicate k quote :=
    List.take_of_length_le (by simpa using few)
  simp only [endLong, taken, all, List.length_replicate, List.drop_left' List.length_replicate]

/-- Three quotes in a row, and as many more as belong to the text. -/
def closing (quote : Char) (k : Nat) (rest : List Char) : List Char :=
  quote :: quote :: quote :: (List.replicate k quote ++ rest)

theorem replicate_append_closing (k : Nat) :
    List.replicate k quote ++ closing quote 0 rest = closing quote k rest := by
  induction k with
  | zero => rfl
  | succ k ih => rw [List.replicate_succ, List.cons_append, ih]; rfl

theorem longLiteral?_closing (apart : rest.head? ≠ some '\'') {k : Nat} (few : k ≤ 2) :
    longLiteral? (closing '\'' k rest) = some (List.replicate k '\'', rest) := by
  rw [closing, longLiteral?, endLong_replicate apart few]

theorem longBasic?_closing (apart : rest.head? ≠ some '"') {k : Nat} (few : k ≤ 2) :
    longBasic? (closing '"' k rest) = some (List.replicate k '"', rest) := by
  rw [closing, longBasic?, endLong_replicate apart few]

theorem not_prefix_of_leading {x : Char} {k : Nat} (few : k ≤ 2) (other : x ≠ quote)
    (later : List Char) :
    ¬[quote, quote, quote] <+: List.replicate k quote ++ x :: later := by
  have apart : quote ≠ x := other.symm
  obtain rfl | rfl | rfl : k = 0 ∨ k = 1 ∨ k = 2 := by omega
  all_goals simp [List.replicate_succ, List.cons_prefix_cons, apart]

theorem longLiteral?_plain (isText : (isTextChar c || c == '\n') = true)
    (goesOn : ¬['\'', '\'', '\''] <+: c :: cs) :
    longLiteral? (c :: cs) = (longLiteral? cs).map (push c) := by
  rw [longLiteral?]
  · rw [if_pos isText]
  · rintro rest rfl rfl
    exact goesOn ⟨rest, rfl⟩

theorem longLiteral?_text (plain : ∀ c ∈ cs, (isTextChar c || c == '\n') = true)
    (runs : longestRun '\'' 0 cs ≤ 2) (apart : rest.head? ≠ some '\'') :
    longLiteral? (cs ++ closing '\'' 0 rest) = some (cs, rest) := by
  induction cs with
  | nil => exact longLiteral?_closing apart (Nat.zero_le 2)
  | cons c cs ih =>
    obtain ⟨here, later⟩ := List.forall_mem_cons.mp plain
    obtain ⟨k, long, shape⟩ := exists_leading '\'' (c :: cs)
    have few : k ≤ 2 := by
      have := long 0
      omega
    rcases shape with all | ⟨x, back, other, whole⟩
    · rw [all, replicate_append_closing, longLiteral?_closing apart few]
    · have goesOn : ¬['\'', '\'', '\''] <+: c :: cs ++ closing '\'' 0 rest := by
        rw [whole, List.append_assoc, List.cons_append]
        exact not_prefix_of_leading few other _
      have shorter : longestRun '\'' 0 cs ≤ 2 := by
        refine le_trans ?_ runs
        rw [longestRun]
        split_ifs
        · exact longestRun_mono _ _ (Nat.zero_le _)
        · exact Nat.le_max_right ..
      rw [List.cons_append] at goesOn ⊢
      rw [longLiteral?_plain here goesOn, ih later shorter]
      rfl

theorem longBasic?_plain (noBackslash : c ≠ '\\') (isText : (isTextChar c || c == '\n') = true)
    (goesOn : ¬['"', '"', '"'] <+: c :: cs) :
    longBasic? (c :: cs) = (longBasic? cs).map (push c) := by
  rw [longBasic?]
  · rw [if_pos isText]
  · rintro rest rfl rfl
    exact goesOn ⟨rest, rfl⟩
  · exact noBackslash

theorem longBasic?_escape {e : Char} (noBlank : isBlank e = false) (noBreak : e ≠ '\n')
    (escaped : escape? (e :: cs) = some (c, rest)) :
    longBasic? ('\\' :: e :: cs) = (longBasic? rest).map (push c) := by
  have here : continued? (e :: cs) = none := by
    rw [continued?, List.dropWhile_cons_of_neg (by simp [noBlank])]
    split
    case h_1 same => exact absurd (List.cons.inj same).1 noBreak
    case h_2 => rfl
  rw [longBasic?, here, escaped]

theorem exists_leading_escapeThird (few : run ≤ 2) (cs : List Char) :
    ∃ k, run + k ≤ 2 ∧
      ((cs = List.replicate k '"' ∧ escapeThird run cs = List.replicate k '"') ∨
        ∃ x later, x ≠ '"' ∧ escapeThird run cs = List.replicate k '"' ++ x :: later) := by
  induction cs generalizing run with
  | nil => exact ⟨0, few, .inl ⟨rfl, rfl⟩⟩
  | cons c cs ih =>
    by_cases quote : c = '"'
    · by_cases third : run = 2
      · refine ⟨0, few, .inr ⟨'\\', '"' :: escapeThird 0 cs, by decide, ?_⟩⟩
        rw [escapeThird, if_pos quote, if_pos third]
        rfl
      · have more : run + 1 ≤ 2 := by omega
        obtain ⟨k, bound, shape⟩ := ih more
        have here : escapeThird run (c :: cs) = '"' :: escapeThird (run + 1) cs := by
          rw [escapeThird, if_pos quote, if_neg third]
        refine ⟨k + 1, by omega, ?_⟩
        rw [here, quote, List.replicate_succ]
        rcases shape with ⟨all, same⟩ | ⟨x, later, other, whole⟩
        · exact .inl ⟨by rw [all], by rw [same]⟩
        · exact .inr ⟨x, later, other, by rw [whole, List.cons_append]⟩
    · refine ⟨0, few, .inr ?_⟩
      rw [escapeThird, if_neg quote]
      split_ifs with newline
      · exact ⟨c, _, quote, rfl⟩
      · rcases escapeChar_cases newline with ⟨same, -⟩ | ⟨e, escape, same, -⟩
        · exact ⟨c, _, quote, by rw [same]; rfl⟩
        · exact ⟨'\\', _, by decide, by rw [same]; rfl⟩

theorem longBasic?_text (few : run ≤ 2) (apart : rest.head? ≠ some '"') :
    longBasic? (escapeThird run cs ++ closing '"' 0 rest) = some (cs, rest) := by
  induction cs generalizing run with
  | nil => exact longBasic?_closing apart (Nat.zero_le 2)
  | cons c cs ih =>
    obtain ⟨k, bound, shape⟩ := exists_leading_escapeThird few (c :: cs)
    rcases shape with ⟨all, same⟩ | ⟨x, back, other, whole⟩
    · rw [same, all, replicate_append_closing, longBasic?_closing apart (by omega)]
    · have goesOn : ¬['"', '"', '"'] <+: escapeThird run (c :: cs) ++ closing '"' 0 rest := by
        rw [whole, List.append_assoc, List.cons_append]
        exact not_prefix_of_leading (by omega) other _
      revert goesOn
      rw [escapeThird]
      split_ifs with quote third newline
      · -- The third double quote in a row is escaped.
        intro _
        rw [List.cons_append, List.cons_append,
          longBasic?_escape (by decide) (by decide) (show escape? _ = some ('"', _) from rfl),
          ih (Nat.zero_le 2), quote]
        rfl
      · intro goesOn
        rw [List.cons_append] at goesOn ⊢
        rw [longBasic?_plain (by decide) (by decide) goesOn, ih (by omega), quote]
        rfl
      · intro goesOn
        rw [List.append_assoc, List.singleton_append] at goesOn ⊢
        rw [longBasic?_plain (by rw [newline]; decide) (by simp [newline]) goesOn,
          ih (Nat.zero_le 2)]
        rfl
      · intro goesOn
        rcases escapeChar_cases newline with
          ⟨same, noBackslash, -, isText⟩ | ⟨e, escape, same, noBlank, noBreak, -, read⟩
        · rw [same, List.append_assoc, List.singleton_append] at goesOn
          rw [same, List.append_assoc, List.singleton_append,
            longBasic?_plain noBackslash (by simp [isText]) goesOn, ih (Nat.zero_le 2)]
          rfl
        · rw [same, List.append_assoc, List.cons_append, List.cons_append,
            longBasic?_escape noBlank noBreak (read _), ih (Nat.zero_le 2)]
          rfl

end Long

inductive Written (cs : List Char) : List Char → Prop
  | basic : Written cs (basic cs)
  | literal (present : cs ≠ []) (plain : ∀ c ∈ cs, isTextChar c = true ∧ c ≠ '\'') :
    Written cs ('\'' :: cs ++ ['\''])
  | longBasic : Written cs (long '"' cs (escapeThird 0 cs))
  | longLiteral (plain : ∀ c ∈ cs, (isTextChar c || c == '\n') = true)
    (runs : longestRun '\'' 0 cs ≤ 2) : Written cs (long '\'' cs cs)

section Styles

variable {cs w rest : List Char}

theorem longestRun_pos {quote : Char} (run : Nat) (inside : quote ∈ cs) :
    0 < longestRun quote run cs := by
  induction cs generalizing run with
  | nil => simp at inside
  | cons c cs ih =>
    rw [longestRun]
    split_ifs with here
    · exact Nat.lt_of_lt_of_le (Nat.succ_pos run) (by
        obtain ⟨k, long, -⟩ := exists_leading quote cs
        have := long (run + 1)
        omega)
    · have later : quote ∈ cs := (List.mem_cons.mp inside).resolve_left fun same => here same.symm
      exact lt_max_of_lt_right (ih 0 later)

theorem isControl_of_any {c : Char} (plain : (!cs.any isControl) = true) (inside : c ∈ cs) :
    isControl c = false := by
  simp only [Bool.not_eq_true', List.any_eq_false, Bool.not_eq_true] at plain
  exact plain c inside

theorem written_writeText (text : String) : Written text.toList (writeText text).toList := by
  rw [writeText, String.toList_ofList]
  generalize text.toList = cs
  split_ifs with simple oneLine doubles singles
  case pos => exact .basic
  case pos =>
    simp only [Bool.and_eq_true] at oneLine
    obtain ⟨⟨plain, noSingles⟩, noBreak⟩ := oneLine
    refine .literal ?_ fun c inside => ⟨?_, ?_⟩
    · rintro rfl
      exact simple rfl
    · refine (isControl_eq_false (isControl_of_any plain inside)).2 ?_
      rintro rfl
      simp [inside] at noBreak
    · rintro rfl
      have := longestRun_pos 0 inside
      simp only [beq_iff_eq] at noSingles
      omega
  case pos => exact .longBasic
  case pos =>
    simp only [Bool.and_eq_true, decide_eq_true_eq] at singles
    obtain ⟨plain, few⟩ := singles
    refine .longLiteral (fun c inside => ?_) few
    by_cases newline : c = '\n'
    · simp [newline]
    · simp [(isControl_eq_false (isControl_of_any plain inside)).2 newline]
  case pos => exact .longBasic
  case neg => exact .basic

theorem skipFirstBreak_long {quote : Char} (written : List Char)
    (kept : '\n' ∉ cs → written.head? ≠ some '\n') (noBreak : quote ≠ '\n') :
    skipFirstBreak
        ((if cs.contains '\n' then ['\n'] else []) ++ (written ++ closing quote 0 rest)) =
      written ++ closing quote 0 rest := by
  split_ifs with lines
  · rfl
  · rw [List.nil_append, skipFirstBreak]
    intro later same
    cases written with
    | nil => exact noBreak (List.cons.inj same).1
    | cons first more => exact kept (by simpa using lines) (by rw [(List.cons.inj same).1]; rfl)

theorem long_append (quote : Char) (cs written rest : List Char) :
    long quote cs written ++ rest =
      quote :: quote :: quote ::
        ((if cs.contains '\n' then ['\n'] else []) ++ (written ++ closing quote 0 rest)) := by
  simp [long, closing]

theorem head?_escapeThird (oneLine : '\n' ∉ cs) : (escapeThird 0 cs).head? ≠ some '\n' := by
  cases cs with
  | nil => simp [escapeThird]
  | cons c cs =>
    have newline : c ≠ '\n' := fun same => oneLine (by simp [same])
    rw [escapeThird, if_neg newline]
    split_ifs with quote third
    · simp
    · simp
    · rcases escapeChar_cases newline with ⟨same, -⟩ | ⟨e, escape, same, -⟩
      · simpa [same] using newline
      · simp [same]

theorem head?_of_begins {c : Char} {front : List Char} (begins : c :: front <+: cs) :
    cs.head? = some c := by
  obtain ⟨later, rfl⟩ := begins
  rfl

theorem flatMap_written_eq_cons (present : cs ≠ []) :
    ∃ first later, first ≠ '"' ∧ cs.flatMap written = first :: later := by
  obtain ⟨c, cs, rfl⟩ := List.exists_cons_of_ne_nil present
  rw [List.flatMap_cons, written]
  split_ifs with quote newline
  · exact ⟨_, _, by decide, rfl⟩
  · exact ⟨_, _, by decide, rfl⟩
  · rcases escapeChar_cases newline with ⟨same, -⟩ | ⟨e, escape, same, -⟩
    · exact ⟨c, _, quote, by rw [same]; rfl⟩
    · exact ⟨'\\', _, by decide, by rw [same]; rfl⟩

theorem quoted?_double (alone : ¬['"', '"'] <+: cs) : quoted? ('"' :: cs) = basic? cs := by
  rw [quoted?]
  rintro later rfl
  exact alone ⟨later, rfl⟩

theorem quoted?_single (alone : ¬['\'', '\''] <+: cs) : quoted? ('\'' :: cs) = literal? cs := by
  rw [quoted?]
  rintro later rfl
  exact alone ⟨later, rfl⟩

theorem quoted?_of_written (written : Written cs w) (noDouble : rest.head? ≠ some '"')
    (noSingle : rest.head? ≠ some '\'') : quoted? (w ++ rest) = some (cs, rest) := by
  cases written with
  | basic =>
    rw [basic_eq, List.append_assoc, List.singleton_append, List.cons_append]
    refine (quoted?_double fun begins => ?_).trans (basic?_flatMap_written cs rest)
    by_cases absent : cs = []
    · subst absent
      exact noDouble (head?_of_begins (List.cons_prefix_cons.mp begins).2)
    · obtain ⟨first, later, other, same⟩ := flatMap_written_eq_cons absent
      rw [same, List.cons_append] at begins
      exact other (List.cons_prefix_cons.mp begins).1.symm
  | literal present plain =>
    rw [List.append_assoc, List.singleton_append, List.cons_append]
    refine (quoted?_single fun begins => ?_).trans (literal?_plain plain)
    obtain ⟨first, later, rfl⟩ := List.exists_cons_of_ne_nil present
    exact (plain first List.mem_cons_self).2 (List.cons_prefix_cons.mp begins).1.symm
  | longBasic =>
    rw [long_append, quoted?, skipFirstBreak_long _ head?_escapeThird (by decide)]
    exact longBasic?_text (Nat.zero_le 2) noDouble
  | longLiteral plain runs =>
    have kept : '\n' ∉ cs → cs.head? ≠ some '\n' := fun oneLine first =>
      oneLine (List.mem_of_mem_head? first)
    rw [long_append, quoted?, skipFirstBreak_long _ kept (by decide)]
    exact longLiteral?_text plain runs noSingle

theorem Written.begins (written : Written cs w) : ∃ body, w = '"' :: body ∨ w = '\'' :: body := by
  cases written with
  | basic | longBasic => exact ⟨_, .inl rfl⟩
  | literal | longLiteral => exact ⟨_, .inr rfl⟩

theorem no_return_in_escapeThird (run : Nat) (cs : List Char) : '\r' ∉ escapeThird run cs := by
  induction cs generalizing run with
  | nil => simp [escapeThird]
  | cons c cs ih =>
    have first : c ≠ '"' → '\r' ∉ if c = '\n' then [c] else escapeChar c := by
      intro noQuote
      have := no_return_in_written c
      rw [written, if_neg noQuote] at this
      split_ifs at this ⊢ with newline
      · simp [newline]
      · exact this
    rw [escapeThird]
    split_ifs with quote third <;> simp_all

theorem no_return_in_long {quote : Char} {inner : List Char} (noReturn : '\r' ∉ inner)
    (other : quote ≠ '\r') : '\r' ∉ long quote cs inner := by
  unfold long
  split_ifs <;> simp [noReturn, other.symm]

theorem Written.no_return (written : Written cs w) : '\r' ∉ w := by
  cases written with
  | basic => simp [basic_eq, no_return_in_written]
  | literal present plain =>
    have absent : '\r' ∉ cs := fun inside => absurd (plain _ inside).1 (by decide)
    simp [absent]
  | longBasic => exact no_return_in_long (no_return_in_escapeThird 0 cs) (by decide)
  | longLiteral plain runs =>
    exact no_return_in_long (fun inside => absurd (plain _ inside) (by decide)) (by decide)

end Styles

end ApiContract.Toml
