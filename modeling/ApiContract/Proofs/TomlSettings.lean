import ApiContract.Proofs.TomlTexts
import ApiContract.Toml.Parser
import Mathlib.Data.List.Nodup

set_option autoImplicit false

namespace ApiContract.Toml

def ofSetting : Setting → Value
  | .text text => .text text
  | .flag value => .bool value
  | .texts texts => .array (texts.map .text)

section Values

variable {depth : Nat} {rest : List Char}

theorem value?_writeText (text : String) (noDouble : rest.head? ≠ some '"')
    (noSingle : rest.head? ≠ some '\'') :
    value? depth ((writeText text).toList ++ rest) = some (.text text, rest) := by
  have shown := written_writeText text
  have read := quoted?_of_written shown noDouble noSingle
  obtain ⟨body, begins | begins⟩ := shown.begins
  all_goals
    rw [begins, List.cons_append] at read ⊢
    simp [value?, read]

def shownText (text : String) : List Char :=
  "    ".toList ++ (writeText text).toList ++ [',']

-- The line of a text, after the break that ends the line before.
def textLine (text : String) : List Char :=
  '\n' :: shownText text

theorem items?_end (item? : List Char → Option (Value × List Char)) :
    items? item? (']' :: rest) = some ([], rest) := by
  rw [items?]
  rfl

theorem skipGaps_writeText (text : String) (later : List Char) :
    skipGaps false ((writeText text).toList ++ later) = (writeText text).toList ++ later := by
  obtain ⟨body, begins | begins⟩ := (written_writeText text).begins <;>
    simp [begins, skipGaps, isBlank]

theorem skipGaps_textLine (text : String) (later : List Char) :
    skipGaps false (textLine text ++ later) = (writeText text).toList ++ ',' :: later := by
  simpa [textLine, shownText, skipGaps, isBlank] using skipGaps_writeText text (',' :: later)

theorem head?_writeText (text : String) (later : List Char) :
    ((writeText text).toList ++ later).head? ≠ some ']' := by
  obtain ⟨body, begins | begins⟩ := (written_writeText text).begins <;> simp [begins]

theorem items?_writeText (text : String) :
    items? (value? depth) ((writeText text).toList ++ ']' :: rest) = some ([.text text], rest) := by
  rw [items?, skipGaps_writeText]
  split
  case h_1 same => exact absurd (by rw [same]; rfl) (head?_writeText text (']' :: rest))
  case h_2 =>
    rw [value?_writeText text (by simp) (by simp)]
    simp [skipGaps, isBlank]

theorem items?_step {item? : List Char → Option (Value × List Char)} {cs start later : List Char}
    {v : Value} (gap : skipGaps false cs = start) (opened : start.head? ≠ some ']')
    (item : item? start = some (v, ',' :: later)) (shorter : later.length < cs.length) :
    items? item? cs = (items? item? later).map fun r => (v :: r.1, r.2) := by
  rw [items?, gap]
  split
  case h_1 => exact absurd rfl opened
  case h_2 => simp [item, skipGaps, isBlank, shorter]

theorem items?_textLines (texts : List String) :
    items? (value? depth) (texts.flatMap textLine ++ '\n' :: ']' :: rest) =
      some (texts.map .text, rest) := by
  induction texts with
  | nil =>
    rw [List.flatMap_nil, List.nil_append, items?]
    rfl
  | cons text texts ih =>
    rw [List.flatMap_cons, List.append_assoc,
      items?_step (skipGaps_textLine text _) (head?_writeText text _)
        (value?_writeText text (by simp) (by simp)) _, ih]
    · rfl
    · simp only [textLine, shownText, List.length_append, List.length_cons]
      omega

-- Breaks that end the lines of a list stand in front of the lines as well, with one more.
theorem break_flatMap {α : Type} (line : α → List Char) (items : List α) :
    '\n' :: items.flatMap (fun i => line i ++ ['\n']) =
      items.flatMap (fun i => '\n' :: line i) ++ ['\n'] := by
  induction items with
  | nil => rfl
  | cons i items ih =>
    rw [List.flatMap_cons, List.flatMap_cons, List.append_assoc, List.singleton_append, ih,
      List.append_assoc, List.cons_append]

theorem toList_writeTexts_single (text : String) :
    (writeTexts [text]).toList = '[' :: ((writeText text).toList ++ [']']) := by
  simp [writeTexts]

theorem toList_writeTexts {texts : List String} (several : 2 ≤ texts.length) :
    (writeTexts texts).toList = '[' :: (texts.flatMap textLine ++ ['\n', ']']) := by
  have shown : (writeTexts texts).toList =
      '[' :: '\n' :: texts.flatMap (fun t => shownText t ++ ['\n']) ++ [']'] := by
    match texts with
    | first :: second :: more =>
      simp [writeTexts, shownText, String.toList_join, List.flatMap_map]
  rw [shown, List.cons_append, break_flatMap shownText, List.append_assoc]
  rfl

theorem value?_writeTexts (texts : List String) :
    value? (depth + 1) ((writeTexts texts).toList ++ rest) =
      some (.array (texts.map .text), rest) := by
  match texts with
  | [] =>
    change (items? (value? depth) (']' :: rest)).map _ = _
    rw [items?_end]
    rfl
  | [text] =>
    rw [toList_writeTexts_single, List.cons_append, value?, List.append_assoc]
    change (items? (value? depth) (_ ++ ']' :: rest)).map _ = _
    rw [items?_writeText]
    rfl
  | first :: second :: more =>
    rw [toList_writeTexts (by simp), List.cons_append, value?, List.append_assoc]
    change (items? (value? depth) (_ ++ '\n' :: ']' :: rest)).map _ = _
    rw [items?_textLines]
    rfl

theorem writeSetting_eq_cons (setting : Setting) :
    ∃ first later, isBlank first = false ∧ (writeSetting setting).toList = first :: later := by
  match setting with
  | .text text =>
    obtain ⟨body, begins | begins⟩ := (written_writeText text).begins
    · exact ⟨'"', body, rfl, begins⟩
    · exact ⟨'\'', body, rfl, begins⟩
  | .flag true => exact ⟨'t', _, rfl, rfl⟩
  | .flag false => exact ⟨'f', _, rfl, rfl⟩
  | .texts [] => exact ⟨'[', _, rfl, rfl⟩
  | .texts [text] => exact ⟨'[', _, rfl, toList_writeTexts_single text⟩
  | .texts (first :: second :: more) => exact ⟨'[', _, rfl, toList_writeTexts (by simp)⟩

theorem value?_writeSetting (setting : Setting) :
    value? (depth + 1) ((writeSetting setting).toList ++ '\n' :: rest) =
      some (ofSetting setting, '\n' :: rest) := by
  cases setting with
  | text text => exact value?_writeText text (by simp) (by simp)
  | flag value => cases value <;> rfl
  | texts texts => exact value?_writeTexts texts

end Values

section Statements

structure IsBare (name : String) : Prop where
  present : name.toList ≠ []
  bare : ∀ c ∈ name.toList, isBareChar c = true

variable {name : String} {rest : List Char}

theorem of_isBareChar {c : Char} (bare : isBareChar c = true) :
    isBlank c = false ∧ c ∉ ['\n', '\r', '#', '[', '"', '\''] ∧ c.toNat ≠ 0xFEFF := by
  refine ⟨?_, fun inside => ?_, fun mark => ?_⟩
  · by_contra blank
    simp only [isBlank, Bool.not_eq_false, Bool.or_eq_true, beq_iff_eq] at blank
    rcases blank with rfl | rfl <;> contradiction
  · simp only [List.mem_cons, List.not_mem_nil, or_false] at inside
    rcases inside with rfl | rfl | rfl | rfl | rfl | rfl <;> contradiction
  · have : c = '\uFEFF' := Char.toNat_inj.mp mark
    subst this
    contradiction

theorem IsBare.toList_eq (bare : IsBare name) :
    ∃ first later, isBareChar first = true ∧ name.toList = first :: later := by
  obtain ⟨first, later, same⟩ := List.exists_cons_of_ne_nil bare.present
  exact ⟨first, later, bare.bare first (by simp [same]), same⟩

theorem keyPart?_bare (bare : IsBare name) :
    keyPart? (name.toList ++ ' ' :: rest) = some (name, ' ' :: rest) := by
  obtain ⟨first, later, isBare, same⟩ := bare.toList_eq
  obtain ⟨-, others, -⟩ := of_isBareChar isBare
  have taken : (name.toList ++ ' ' :: rest).takeWhile isBareChar = name.toList := by
    rw [List.takeWhile_append_of_pos bare.bare]
    simp [isBareChar]
  have dropped : (name.toList ++ ' ' :: rest).dropWhile isBareChar = ' ' :: rest := by
    rw [List.dropWhile_append_of_pos bare.bare]
    simp [isBareChar]
  rw [keyPart?]
  · simp [taken, dropped, bare.present]
  · simp_all
  · simp_all

theorem skipGaps_bare (bare : IsBare name) :
    skipGaps false (name.toList ++ rest) = name.toList ++ rest := by
  obtain ⟨first, later, isBare, same⟩ := bare.toList_eq
  obtain ⟨noBlank, others, -⟩ := of_isBareChar isBare
  simp_all [skipGaps]

theorem key?_bare (bare : IsBare name) :
    key? (name.toList ++ ' ' :: '=' :: rest) = some ([], name, '=' :: rest) := by
  have start : skipBlanks (name.toList ++ ' ' :: '=' :: rest) =
      name.toList ++ ' ' :: '=' :: rest := by
    obtain ⟨first, later, isBare, same⟩ := bare.toList_eq
    rw [same, List.cons_append, skipBlanks,
      List.dropWhile_cons_of_neg (by simp [(of_isBareChar isBare).1])]
  have parts : keyParts? depthLimit (name.toList ++ ' ' :: '=' :: rest) =
      some ([name], '=' :: rest) := by
    rw [depthLimit, keyParts?, start, keyPart?_bare bare]
    simp [skipBlanks, isBlank]
  simp [key?, parts]

theorem statement?_setting (bare : IsBare name) (setting : Setting) :
    statement? (name.toList ++ ' ' :: '=' :: ' ' ::
        ((writeSetting setting).toList ++ '\n' :: rest)) =
      some (.assign ⟨[], name, ofSetting setting⟩, '\n' :: rest) := by
  obtain ⟨first, later, isBare, same⟩ := bare.toList_eq
  obtain ⟨-, others, -⟩ := of_isBareChar isBare
  have value : value? depthLimit
      (skipBlanks (' ' :: ((writeSetting setting).toList ++ '\n' :: rest))) =
        some (ofSetting setting, '\n' :: rest) := by
    obtain ⟨first, later, noBlank, begins⟩ := writeSetting_eq_cons setting
    have read : value? depthLimit ((writeSetting setting).toList ++ '\n' :: rest) = _ :=
      value?_writeSetting setting
    rw [begins, List.cons_append] at read ⊢
    rw [← read]
    simp only [skipBlanks, List.dropWhile_cons, noBlank]
    rfl
  have assigned : key? (name.toList ++ ' ' :: '=' :: ' ' ::
      ((writeSetting setting).toList ++ '\n' :: rest)) = _ := key?_bare bare
  rw [statement?, assignment?, assigned]
  · simp [value]
  · simp_all
  · simp_all

def statement (s : String × Setting) : Statement :=
  .assign ⟨[], s.1, ofSetting s.2⟩

def settingLine (s : String × Setting) (rest : List Char) : List Char :=
  s.1.toList ++ ' ' :: '=' :: ' ' :: ((writeSetting s.2).toList ++ '\n' :: rest)

theorem toList_write (settings : Settings) :
    (write settings).toList = settings.foldr settingLine [] := by
  rw [write, String.toList_join]
  induction settings with
  | nil => rfl
  | cons s settings ih => simp [← ih, settingLine]

theorem statements?_settingLine {s : String × Setting} (bare : IsBare s.1) :
    statements? (settingLine s rest) = (statements? rest).map (statement s :: ·) := by
  have start : skipGaps false (settingLine s rest) = settingLine s rest := skipGaps_bare bare
  have shorter : rest.length < (settingLine s rest).length := by
    simp only [settingLine, List.length_append, List.length_cons]
    omega
  rw [statements?, start]
  split
  case h_1 same => simp [settingLine] at same
  case h_2 =>
    rw [show statement? (settingLine s rest) = _ from statement?_setting bare s.2]
    simp [endLine?, skipBlanks, isBlank, shorter, statement]

theorem statements?_write {settings : Settings} (bare : ∀ s ∈ settings, IsBare s.1) :
    statements? (write settings).toList = some (settings.map statement) := by
  rw [toList_write]
  induction settings with
  | nil => rw [List.foldr_nil, statements?]; rfl
  | cons s settings ih =>
    obtain ⟨first, later⟩ := List.forall_mem_cons.mp bare
    rw [List.foldr_cons, statements?_settingLine first, ih later]
    rfl

end Statements

section Tables

theorem step_statement {entries : List (String × Value)} (s : String × Setting)
    (new : s.1 ∉ entries.map Prod.fst) :
    Draft.step ⟨.table .header entries, []⟩ (statement s) =
      some ⟨.table .header (entries ++ [(s.1, ofSetting s.2)]), []⟩ := by
  have free : entries.lookup s.1 = none :=
    List.lookup_eq_none_iff.mpr fun e inside =>
      bne_iff_ne.mpr fun same => new (List.mem_map.mpr ⟨e, inside, same.symm⟩)
  simp [Draft.step, statement, Value.atHeader, Assignment.apply, Value.assign, Value.addEntry, free]

theorem foldlM_step {entries : List (String × Value)} {settings : Settings}
    (distinct : (entries.map Prod.fst ++ settings.map Prod.fst).Nodup) :
    (settings.map statement).foldlM Draft.step ⟨.table .header entries, []⟩ =
      some ⟨.table .header (entries ++ settings.map fun s => (s.1, ofSetting s.2)), []⟩ := by
  induction settings generalizing entries with
  | nil => simp
  | cons s settings ih =>
    rw [List.map_cons, List.foldlM_cons, step_statement s _]
    · change List.foldlM _ _ _ = _
      rw [ih (by simpa [List.append_assoc] using distinct)]
      simp
    · intro old
      exact List.disjoint_of_nodup_append distinct old (by simp)

end Tables

theorem unifyBreaks_eq {cs : List Char} (noReturn : '\r' ∉ cs) : unifyBreaks cs = cs := by
  induction cs with
  | nil => rfl
  | cons c cs ih =>
    rw [List.mem_cons, not_or] at noReturn
    rw [unifyBreaks, ih noReturn.2]
    rintro later rfl
    exact absurd rfl noReturn.1

theorem no_return_in_writeSetting (setting : Setting) : '\r' ∉ (writeSetting setting).toList := by
  have text (t : String) : '\r' ∉ (writeText t).toList := (written_writeText t).no_return
  match setting with
  | .text t => exact text t
  | .flag value => cases value <;> decide
  | .texts [] => decide
  | .texts [t] => simp [writeSetting, writeTexts, text]
  | .texts (first :: second :: more) =>
    rw [writeSetting, toList_writeTexts (by simp)]
    simp [textLine, shownText, text]

theorem no_return_in_write {settings : Settings} (bare : ∀ s ∈ settings, IsBare s.1) :
    '\r' ∉ (write settings).toList := by
  rw [toList_write]
  induction settings with
  | nil => simp
  | cons s settings ih =>
    obtain ⟨first, later⟩ := List.forall_mem_cons.mp bare
    have name : '\r' ∉ s.1.toList := fun inside => absurd (first.bare _ inside) (by decide)
    simp [settingLine, name, no_return_in_writeSetting, ih later]

theorem head?_write {settings : Settings} (bare : ∀ s ∈ settings, IsBare s.1) :
    ∀ c ∈ (write settings).toList.head?, c.toNat ≠ 0xFEFF := by
  rw [toList_write]
  cases settings with
  | nil => simp
  | cons s settings =>
    obtain ⟨first, later, isBare, same⟩ := (bare s List.mem_cons_self).toList_eq
    simpa [settingLine, same] using (of_isBareChar isBare).2.2

-- Neither a mark of the byte order nor a break of two characters is in the way.
theorem parse?_eq {text : String} (noMark : ∀ c ∈ text.toList.head?, c.toNat ≠ 0xFEFF)
    (noReturn : '\r' ∉ text.toList) :
    parse? text = (statements? text.toList).bind fun statements =>
      (statements.foldlM Draft.step {}).map (·.root) := by
  have start := unifyBreaks_eq noReturn
  unfold parse?
  cases same : text.toList with
  | nil => simp [unifyBreaks, Option.map_eq_bind]
  | cons c cs =>
    rw [same] at noMark start
    simp [noMark c rfl, start, Option.map_eq_bind]

theorem parse?_write {settings : Settings} (bare : ∀ s ∈ settings, IsBare s.1)
    (distinct : (settings.map Prod.fst).Nodup) :
    parse? (write settings) =
      some (.table .header (settings.map fun s => (s.1, ofSetting s.2))) := by
  have root : (settings.map statement).foldlM Draft.step ⟨.table .header [], []⟩ = _ :=
    foldlM_step (by simpa using distinct)
  rw [parse?_eq (head?_write bare) (no_return_in_write bare), statements?_write bare,
    Option.bind_some, root]
  rfl

end ApiContract.Toml
