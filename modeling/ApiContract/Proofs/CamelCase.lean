import ApiContract.Name.Case
import ApiContract.Text.Ascii

set_option autoImplicit false

namespace ApiContract.Name

open Text

def IsCapital (c : Char) : Prop :=
  c.isUpper = true ∨ c.isDigit = true

instance : DecidablePred IsCapital :=
  fun _ => inferInstanceAs (Decidable (_ ∨ _))

def IsWord (word : List Char) : Prop :=
  word ≠ [] ∧ ∀ c ∈ word, IsCapital c

instance : DecidablePred IsWord :=
  fun word => @instDecidableAnd _ _ _ (List.decidableBAll IsCapital word)

def IsConstant (name : String) : Prop :=
  ∃ words, (∀ word ∈ words, IsWord word) ∧ name.toList = ['_'].intercalate words

/-- The text without the underscores next to a digit, where `afterDigit` says what it follows. -/
def dropDigitBreaks (afterDigit : Bool) : List Char → List Char
  | [] => []
  | c :: cs =>
    if c = '_' ∧ (afterDigit || cs.head?.any Char.isDigit) then dropDigitBreaks false cs
    else c :: dropDigitBreaks c.isDigit cs

def withoutDigitBreaks (name : String) : String :=
  String.ofList (dropDigitBreaks false name.toList)

def HasDigitBreak (name : String) : Prop :=
  ∃ d ∈ name.toList,
    d.isDigit = true ∧ (['_', d] <:+: name.toList ∨ [d, '_'] <:+: name.toList)

/-- Upper camel case of a text in capitals, where `begins` says that a letter begins a word. -/
def titled (begins : Bool) : List Char → List Char
  | [] => []
  | c :: cs =>
    if c = '_' then titled true cs
    else (if begins then c else c.toLower) :: titled c.isDigit cs

/-- Capitals again, with an underscore before each word that does not follow a digit. -/
def untitled (afterLetter : Bool) : List Char → List Char
  | [] => []
  | c :: cs =>
    (if afterLetter && c.isUpper then ['_', c] else [c.toUpper]) ++ untitled c.isAlpha cs

section Characters

variable {c : Char}

theorem upper_cases (upper : c.isUpper = true) :
    isUppercase c = true ∧ toLower c = [c.toLower] ∧ toUpper c.toLower = [c] := by
  have ascii := ascii_of_isUpper upper
  revert upper
  revert c
  apply forall_ascii
  decide

theorem digit_cases (digit : c.isDigit = true) :
    isUppercase c = false ∧ isAlphanumeric c = true ∧ toUpper c = [c] := by
  have ascii := ascii_of_isDigit digit
  revert digit
  revert c
  apply forall_ascii
  decide

theorem upper_kinds (upper : c.isUpper = true) :
    c ≠ '_' ∧ c.isDigit = false ∧ c.isAlpha = true ∧ c.toUpper = c ∧
      c.toLower.isUpper = false ∧ c.toLower.isAlpha = true ∧ c.toLower.toUpper = c := by
  have ascii := ascii_of_isUpper upper
  revert upper
  revert c
  apply forall_ascii
  decide

theorem digit_kinds (digit : c.isDigit = true) :
    c ≠ '_' ∧ c.isUpper = false ∧ c.isAlpha = false ∧ c.toUpper = c ∧ c.toLower = c := by
  have ascii := ascii_of_isDigit digit
  revert digit
  revert c
  apply forall_ascii
  decide

end Characters

section Steps

variable {c : Char} {cs word : List Char} {flag : Bool}

theorem wordsFrom_upper (upper : c.isUpper = true) :
    wordsFrom word flag (c :: cs) =
      if flag then word :: wordsFrom [c.toLower] false cs
      else wordsFrom (word ++ [c.toLower]) false cs := by
  have ⟨uppercase, lower, _⟩ := upper_cases upper
  rw [wordsFrom, if_pos uppercase, lower]

theorem wordsFrom_digit (digit : c.isDigit = true) :
    wordsFrom word flag (c :: cs) = wordsFrom (word ++ [c]) true cs := by
  have ⟨uppercase, alphanumeric, _⟩ := digit_cases digit
  simp [wordsFrom, uppercase, alphanumeric, digit]

theorem wordsFrom_underscore :
    wordsFrom word flag ('_' :: cs) = word :: wordsFrom [] false cs := rfl

theorem capitalize_nil : capitalize [] = [] := rfl

theorem capitalize_toLower (upper : c.isUpper = true) : capitalize [c.toLower] = [c] := by
  have ⟨_, _, capital⟩ := upper_cases upper
  rw [capitalize, capital, List.append_nil]

theorem capitalize_digit (digit : c.isDigit = true) : capitalize [c] = [c] := by
  have ⟨_, _, same⟩ := digit_cases digit
  rw [capitalize, same, List.append_nil]

theorem titled_upper (upper : c.isUpper = true) :
    titled flag (c :: cs) = (if flag then c else c.toLower) :: titled false cs := by
  have ⟨other, digit, _⟩ := upper_kinds upper
  rw [titled, if_neg other, digit]

theorem titled_digit (digit : c.isDigit = true) :
    titled flag (c :: cs) = c :: titled true cs := by
  have ⟨other, _, _, _, lower⟩ := digit_kinds digit
  rw [titled, if_neg other, digit, lower, ite_self]

theorem titled_underscore : titled flag ('_' :: cs) = titled true cs := rfl

theorem untitled_upper (upper : c.isUpper = true) :
    untitled flag (c :: cs) = (if flag then ['_', c] else [c]) ++ untitled true cs := by
  have ⟨_, _, letter, same, _⟩ := upper_kinds upper
  rw [untitled, upper, letter, same, Bool.and_true]

theorem untitled_toLower (upper : c.isUpper = true) :
    untitled flag (c.toLower :: cs) = c :: untitled true cs := by
  have ⟨_, _, _, _, lower, letter, capital⟩ := upper_kinds upper
  simp [untitled, lower, letter, capital]

theorem untitled_digit (digit : c.isDigit = true) :
    untitled flag (c :: cs) = c :: untitled false cs := by
  have ⟨_, upper, letter, same, _⟩ := digit_kinds digit
  simp [untitled, upper, letter, same]

theorem dropDigitBreaks_of_ne (other : c ≠ '_') :
    dropDigitBreaks flag (c :: cs) = c :: dropDigitBreaks c.isDigit cs := by
  simp [dropDigitBreaks, other]

theorem dropDigitBreaks_underscore (here : flag = true ∨ cs.head?.any Char.isDigit = true) :
    dropDigitBreaks flag ('_' :: cs) = dropDigitBreaks false cs := by
  simp [dropDigitBreaks, here]

theorem dropDigitBreaks_break (stays : ¬(flag = true ∨ cs.head?.any Char.isDigit = true)) :
    dropDigitBreaks flag ('_' :: cs) = '_' :: dropDigitBreaks false cs := by
  rw [dropDigitBreaks, if_neg (by simpa using stays)]
  rfl

-- Where `word` has been read of the first word, the rest of the name is titled.
theorem flatMap_capitalize_wordsFrom (capitals : ∀ c ∈ cs, IsCapital c ∨ c = '_') :
    (wordsFrom word flag cs).flatMap capitalize =
      capitalize word ++ titled (word.isEmpty || flag) cs := by
  induction cs generalizing word flag with
  | nil => simp [wordsFrom, titled]
  | cons c cs ih =>
    obtain ⟨here, later⟩ := List.forall_mem_cons.mp capitals
    have ih {word : List Char} {flag : Bool} := @ih word flag later
    rcases here with (upper | digit) | rfl
    · rw [wordsFrom_upper upper, titled_upper upper]
      cases word with
      | nil => cases flag <;> simp [ih, capitalize_nil, capitalize_toLower upper]
      | cons first rest =>
        cases flag with
        | false => simp [ih, capitalize]
        | true => simp [ih, capitalize_toLower upper]
    · rw [wordsFrom_digit digit, titled_digit digit, ih]
      cases word with
      | nil => simp [capitalize_nil, capitalize_digit digit]
      | cons first rest => simp [capitalize]
    · simp [wordsFrom_underscore, titled_underscore, ih, capitalize_nil]

end Steps

theorem flatMap_filter_nonempty (words : List (List Char)) :
    (words.filter (!·.isEmpty)).flatMap capitalize = words.flatMap capitalize := by
  induction words with
  | nil => rfl
  | cons word words ih =>
    cases word with
    | nil => simpa [capitalize_nil] using ih
    | cons first rest => simp [ih]

-- The rest of a constant, where `inWord` says that a character of its word has been read.
inductive Spelled : Bool → List Char → Prop
  | done : Spelled true []
  | capital {inWord : Bool} {c : Char} {cs : List Char} (capital : IsCapital c)
      (rest : Spelled true cs) : Spelled inWord (c :: cs)
  | underscore {cs : List Char} (rest : Spelled false cs) : Spelled true ('_' :: cs)

namespace Spelled

variable {inWord : Bool} {cs : List Char}

theorem append {word : List Char} (spelled : IsWord word) (rest : Spelled true cs) :
    Spelled inWord (word ++ cs) := by
  obtain ⟨nonempty, capitals⟩ := spelled
  induction word generalizing inWord with
  | nil => contradiction
  | cons c word ih =>
    obtain ⟨here, later⟩ := List.forall_mem_cons.mp capitals
    refine .capital here ?_
    by_cases last : word = []
    · rwa [last]
    · exact ih last later

theorem of_words {words : List (List Char)} (some : words ≠ [])
    (spelled : ∀ word ∈ words, IsWord word) :
    Spelled false (['_'].intercalate words) := by
  induction words with
  | nil => contradiction
  | cons word words ih =>
    obtain ⟨here, later⟩ := List.forall_mem_cons.mp spelled
    cases words with
    | nil =>
      rw [List.intercalate_singleton, ← List.append_nil word]
      exact append here .done
    | cons next words =>
      rw [List.intercalate_cons_cons, List.append_assoc]
      exact append here (.underscore (ih (List.cons_ne_nil _ _) later))

theorem capitals (spelled : Spelled inWord cs) : ∀ c ∈ cs, IsCapital c ∨ c = '_' := by
  induction spelled with
  | done => simp
  | capital here _ ih => exact List.forall_mem_cons.mpr ⟨.inl here, ih⟩
  | underscore _ ih => exact List.forall_mem_cons.mpr ⟨.inr rfl, ih⟩

theorem untitled_titled (spelled : Spelled inWord cs) :
    untitled true (titled (!inWord) cs) =
        dropDigitBreaks false (if inWord then cs else '_' :: cs) ∧
      untitled false (titled true cs) = dropDigitBreaks inWord cs := by
  induction spelled with
  | done => exact ⟨rfl, rfl⟩
  | @capital inWord c cs here rest ih =>
    -- Either flag may meet either state, so that both halves go through the induction together.
    obtain ⟨afterLetter, afterDigit⟩ := ih
    rcases here with upper | digit
    · have ⟨other, kind, _⟩ := upper_kinds upper
      simp only [Bool.not_true, if_true] at afterLetter
      have kept (flag : Bool) : dropDigitBreaks flag (c :: cs) = c :: dropDigitBreaks false cs := by
        rw [dropDigitBreaks_of_ne other, kind]
      cases inWord <;>
        simp [titled_upper upper, untitled_upper upper, untitled_toLower upper, kept, afterLetter,
          dropDigitBreaks_break, kind]
    · have ⟨other, _⟩ := digit_kinds digit
      have kept (flag : Bool) : dropDigitBreaks flag (c :: cs) = c :: dropDigitBreaks true cs := by
        rw [dropDigitBreaks_of_ne other, digit]
      cases inWord <;>
        simp [titled_digit digit, untitled_digit digit, kept, afterDigit,
          dropDigitBreaks_underscore, digit]
  | @underscore cs rest ih =>
    obtain ⟨afterLetter, afterDigit⟩ := ih
    exact ⟨afterLetter, afterDigit.trans (dropDigitBreaks_underscore (.inl rfl)).symm⟩

end Spelled

theorem titled_dropDigitBreaks {cs : List Char} {afterDigit begins : Bool}
    (breaks : afterDigit = true → begins = true) :
    titled begins (dropDigitBreaks afterDigit cs) = titled begins cs := by
  induction cs generalizing afterDigit begins with
  | nil => rfl
  | cons c cs ih =>
    by_cases other : c = '_'
    · subst other
      by_cases here : afterDigit = true ∨ cs.head?.any Char.isDigit = true
      · rw [dropDigitBreaks_underscore here, titled_underscore, ih (by simp)]
        rcases here with after | before
        · rw [breaks after]
        · cases cs with
          | nil => simp at before
          | cons d cs =>
            have digit : d.isDigit = true := by simpa using before
            rw [titled_digit digit, titled_digit digit]
      · rw [dropDigitBreaks_break here, titled_underscore, titled_underscore, ih (by simp)]
    · rw [dropDigitBreaks_of_ne other, titled, titled, if_neg other, if_neg other, ih id]

theorem dropDigitBreaks_eq_self {cs : List Char} {afterDigit : Bool}
    (apart : ∀ d : Char, d.isDigit = true → ¬['_', d] <:+: cs ∧ ¬[d, '_'] <:+: cs)
    (first : afterDigit = true → cs.head? ≠ some '_') : dropDigitBreaks afterDigit cs = cs := by
  induction cs generalizing afterDigit with
  | nil => rfl
  | cons c cs ih =>
    have later : dropDigitBreaks c.isDigit cs = cs := by
      apply ih
      · intro d digit
        obtain ⟨before, after⟩ := apart d digit
        exact ⟨mt List.infix_cons before, mt List.infix_cons after⟩
      · intro digit next
        obtain ⟨rest, rfl⟩ := List.head?_eq_some_iff.mp next
        exact (apart c digit).2 ⟨[], rest, rfl⟩
    by_cases other : c = '_'
    · subst other
      have stays : ¬(afterDigit = true ∨ cs.head?.any Char.isDigit = true) := by
        rintro (after | before)
        · exact first after rfl
        · cases cs with
          | nil => simp at before
          | cons d rest => exact (apart d (by simpa using before)).1 ⟨[], rest, rfl⟩
      rw [dropDigitBreaks_break stays]
      exact congrArg _ later
    · rw [dropDigitBreaks_of_ne other, later]

section Constants

variable {name a b : String}

theorem IsConstant.spelled (constant : IsConstant name) :
    name = "" ∨ Spelled false name.toList := by
  obtain ⟨words, spelled, joined⟩ := constant
  by_cases some : words = []
  · exact .inl (String.toList_eq_nil_iff.mp (by rw [joined, some]; rfl))
  · exact .inr (joined ▸ Spelled.of_words some spelled)

theorem IsConstant.toList_upperCamelCase (constant : IsConstant name) :
    (upperCamelCase name).toList = titled true name.toList := by
  have capitals : ∀ c ∈ name.toList, IsCapital c ∨ c = '_' := by
    rcases constant.spelled with rfl | spelled
    · simp
    · exact spelled.capitals
  rw [upperCamelCase, words, String.toList_ofList, flatMap_filter_nonempty,
    flatMap_capitalize_wordsFrom capitals]
  rfl

theorem toList_withoutDigitBreaks :
    (withoutDigitBreaks name).toList = dropDigitBreaks false name.toList :=
  String.toList_ofList

/-- Two variants have one name if only breaks next to a digit tell their constants apart. -/
theorem upperCamelCase_eq_iff (constant : IsConstant a) (constant' : IsConstant b) :
    upperCamelCase a = upperCamelCase b ↔ withoutDigitBreaks a = withoutDigitBreaks b := by
  have regained {name : String} (constant : IsConstant name) :
      untitled false (upperCamelCase name).toList = (withoutDigitBreaks name).toList := by
    rw [constant.toList_upperCamelCase, toList_withoutDigitBreaks]
    rcases constant.spelled with rfl | spelled
    · rfl
    · exact spelled.untitled_titled.2
  have again {name : String} (constant : IsConstant name) :
      (upperCamelCase name).toList = titled true (withoutDigitBreaks name).toList := by
    rw [constant.toList_upperCamelCase, toList_withoutDigitBreaks,
      titled_dropDigitBreaks fun _ => rfl]
  rw [← String.toList_inj, ← String.toList_inj]
  constructor
  · intro same
    rw [← regained constant, ← regained constant', same]
  · intro same
    rw [again constant, again constant', same]

theorem withoutDigitBreaks_eq_self (unbroken : ¬HasDigitBreak name) :
    withoutDigitBreaks name = name := by
  have apart (d : Char) (digit : d.isDigit = true) :
      ¬['_', d] <:+: name.toList ∧ ¬[d, '_'] <:+: name.toList := by
    rw [← not_or]
    intro here
    have member : d ∈ name.toList :=
      here.elim (fun before => before.subset (by simp)) fun after => after.subset (by simp)
    exact unbroken ⟨d, member, digit, here⟩
  rw [← String.toList_inj, toList_withoutDigitBreaks]
  exact dropDigitBreaks_eq_self apart (by simp)

end Constants

end ApiContract.Name
