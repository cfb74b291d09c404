import DocMarkers.Extraction.Placeholder

set_option autoImplicit false

namespace DocMarkers

namespace Extraction

def endsWord (afterWord : Bool) : Text → Bool
  | [] => afterWord
  | c :: rest => endsWord (isWordCharacter c) rest

theorem startsWord_append (front : Text) {rest : Text} (apart : startsWord rest = false) :
    startsWord (front ++ rest) = startsWord front := by
  cases front with
  | nil => exact apart
  | cons c front => rfl

section IsPlaceholder

variable {afterWord afterWord' : Bool} {c : Char} {rest : Text}

theorem isPlaceholder_iff :
    isPlaceholder afterWord c rest = true ↔
      (c = 'X' ∨ c = 'x') ∧ afterWord = false ∧ startsWord rest = false := by
  simp [isPlaceholder, and_assoc]

/-- An X, capital or small, with no word character before or behind it. -/
def StandsAlone (before : Text) (c : Char) (after : Text) : Prop :=
  (c = 'X' ∨ c = 'x') ∧ endsWord false before = false ∧ startsWord after = false

theorem isPlaceholder_append (afterWord : Bool) (c : Char) (front : Text)
    (apart : startsWord rest = false) :
    isPlaceholder afterWord c (front ++ rest) = isPlaceholder afterWord c front := by
  rw [isPlaceholder, isPlaceholder, startsWord_append front apart]

theorem isWordCharacter_of_isPlaceholder (placed : isPlaceholder afterWord c rest = true) :
    isWordCharacter c = true := by
  obtain ⟨letter, -, -⟩ := isPlaceholder_iff.1 placed
  rcases letter with rfl | rfl <;> decide +kernel

-- Behind a word character and at a character of another kind there is no placeholder.
theorem isPlaceholder_eq_false (apart : afterWord = true ∨ startsWord (c :: rest) = false) :
    isPlaceholder afterWord c rest = false := by
  rw [Bool.eq_false_iff]
  intro placed
  have word := isWordCharacter_of_isPlaceholder placed
  obtain ⟨-, outside, -⟩ := isPlaceholder_iff.1 placed
  simp_all [startsWord]

end IsPlaceholder

section Append

variable {rest : Text}

theorem fillFrom_append (value front : Text) (afterWord : Bool) (apart : startsWord rest = false) :
    fillFrom value afterWord (front ++ rest) =
      fillFrom value afterWord front ++ fillFrom value (endsWord afterWord front) rest := by
  induction front generalizing afterWord with
  | nil => rfl
  | cons c front ih =>
    simp only [List.cons_append, fillFrom, isPlaceholder_append _ _ front apart, ih, endsWord,
      List.append_assoc]

theorem hasPlaceholderFrom_append (front : Text) (afterWord : Bool)
    (apart : startsWord rest = false) :
    hasPlaceholderFrom afterWord (front ++ rest) =
      (hasPlaceholderFrom afterWord front || hasPlaceholderFrom (endsWord afterWord front) rest) := by
  induction front generalizing afterWord with
  | nil => rfl
  | cons c front ih =>
    simp only [List.cons_append, hasPlaceholderFrom, isPlaceholder_append _ _ front apart, ih,
      endsWord, Bool.or_assoc]

end Append

theorem hasPlaceholderFrom_iff {afterWord : Bool} {text : Text} :
    hasPlaceholderFrom afterWord text = true ↔
      ∃ before c after, text = before ++ c :: after ∧
        isPlaceholder (endsWord afterWord before) c after = true := by
  induction text generalizing afterWord with
  | nil => simp [hasPlaceholderFrom]
  | cons c rest ih =>
    rw [hasPlaceholderFrom, Bool.or_eq_true, ih]
    constructor
    · rintro (placed | ⟨before, d, after, rfl, placed⟩)
      · exact ⟨[], c, rest, rfl, placed⟩
      · exact ⟨c :: before, d, after, rfl, placed⟩
    · rintro ⟨before, d, after, split, placed⟩
      cases before with
      | nil =>
        obtain ⟨rfl, rfl⟩ := List.cons.inj split
        exact .inl placed
      | cons b before =>
        obtain ⟨rfl, rfl⟩ := List.cons.inj split
        exact .inr ⟨before, d, after, rfl, placed⟩

section Filled

variable (value : Text) {afterWord afterWord' : Bool}

theorem fillFrom_of_apart (afterWord afterWord' : Bool) {text : Text} (apart : startsWord text = false) :
    fillFrom value afterWord' text = fillFrom value afterWord text := by
  cases text with
  | nil => rfl
  | cons c rest => rw [fillFrom, fillFrom, isPlaceholder_eq_false (.inr apart),
      isPlaceholder_eq_false (.inr apart)]

theorem fillFrom_placeholder {before after : Text} {c : Char}
    (placed : isPlaceholder (endsWord afterWord before) c after = true) :
    fillFrom value afterWord (before ++ c :: after) =
      fillFrom value afterWord before ++ value ++ fillPlaceholder after value := by
  induction before generalizing afterWord with
  | nil =>
    rw [endsWord] at placed
    obtain ⟨-, -, apart⟩ := isPlaceholder_iff.1 placed
    simp [fillFrom, placed, fillPlaceholder, fillFrom_of_apart value false (isWordCharacter c) apart]
  | cons d before ih =>
    have same : isPlaceholder afterWord d (before ++ c :: after) = isPlaceholder afterWord d before := by
      cases before with
      | nil =>
        obtain ⟨-, outside, -⟩ := isPlaceholder_iff.1 placed
        have apart (rest : Text) : isPlaceholder afterWord d rest = false :=
          isPlaceholder_eq_false (.inr outside)
        rw [apart, apart]
      | cons => rfl
    simp only [List.cons_append, fillFrom, same, ih placed, List.append_assoc]

theorem fillFrom_eq_self {text : Text} (without : hasPlaceholderFrom afterWord text = false) :
    fillFrom value afterWord text = text := by
  induction text generalizing afterWord with
  | nil => rfl
  | cons c rest ih =>
    rw [hasPlaceholderFrom, Bool.or_eq_false_iff] at without
    simp [fillFrom, without.1, ih without.2]

theorem startsWord_fillFrom {text : Text} (apart : afterWord = true ∨ startsWord text = false) :
    startsWord (fillFrom value afterWord text) = startsWord text := by
  cases text with
  | nil => rfl
  | cons c rest => simp [fillFrom, isPlaceholder_eq_false apart, startsWord]

theorem isPlaceholder_fillFrom {c : Char} {rest : Text}
    (alike : afterWord' = afterWord ∨ startsWord (c :: rest) = false) :
    isPlaceholder afterWord' c (fillFrom value (isWordCharacter c) rest) =
      isPlaceholder afterWord c rest := by
  by_cases word : isWordCharacter c = true
  next =>
    have same : afterWord' = afterWord := by simpa [startsWord, word] using alike
    rw [isPlaceholder, isPlaceholder, startsWord_fillFrom value (.inl word), same]
  next =>
    have other : isWordCharacter c = false := by simpa using word
    rw [isPlaceholder_eq_false (.inr other), isPlaceholder_eq_false (.inr other)]

theorem fillFrom_fillFrom (other : Text) {template : Text}
    (alike : afterWord' = afterWord ∨ startsWord template = false) :
    fillFrom other afterWord' (fillFrom value afterWord template) =
      fillFrom (fillPlaceholder value other) afterWord template := by
  induction template generalizing afterWord afterWord' with
  | nil => rfl
  | cons c rest ih =>
    have stays := isPlaceholder_fillFrom value alike
    by_cases placed : isPlaceholder afterWord c rest = true
    next =>
      have word := isWordCharacter_of_isPlaceholder placed
      rw [placed] at stays
      obtain ⟨-, outside, apart⟩ := isPlaceholder_iff.1 stays
      obtain ⟨-, -, last⟩ := isPlaceholder_iff.1 placed
      simp only [fillFrom, placed, if_true, outside, fillFrom_append other value false apart,
        ih (.inr last), fillPlaceholder]
    next =>
      rw [Bool.not_eq_true] at placed
      rw [placed] at stays
      simp [fillFrom, placed, stays, ih (.inl rfl)]

theorem hasPlaceholderFrom_fillFrom {template : Text}
    (alike : afterWord' = afterWord ∨ startsWord template = false) :
    hasPlaceholderFrom afterWord' (fillFrom value afterWord template) =
      (hasPlaceholderFrom afterWord template && hasPlaceholder value) := by
  induction template generalizing afterWord afterWord' with
  | nil => rfl
  | cons c rest ih =>
    have stays := isPlaceholder_fillFrom value alike
    by_cases placed : isPlaceholder afterWord c rest = true
    next =>
      rw [placed] at stays
      obtain ⟨-, outside, apart⟩ := isPlaceholder_iff.1 stays
      obtain ⟨-, -, last⟩ := isPlaceholder_iff.1 placed
      simp only [fillFrom, hasPlaceholderFrom, placed, if_true, outside,
        hasPlaceholderFrom_append value false apart, ih (.inr last), hasPlaceholder]
      cases hasPlaceholderFrom false value <;> simp
    next =>
      rw [Bool.not_eq_true] at placed
      rw [placed] at stays
      simp [fillFrom, hasPlaceholderFrom, placed, stays, ih (.inl rfl)]

end Filled

/-- A placeholder is an X that stands alone. Each is replaced by the value and what is around it filled in
the same way, while a template without any stays as it is. Once filled, a template has a placeholder if
both it and the value had one, and filling it again fills the value. -/
theorem filling_composes (template value other : Text) :
    (hasPlaceholder template = true ↔
      ∃ before c after, template = before ++ c :: after ∧ StandsAlone before c after) ∧
    (∀ before c after, StandsAlone before c after → template = before ++ c :: after →
      fillPlaceholder template value =
        fillPlaceholder before value ++ value ++ fillPlaceholder after value) ∧
    (hasPlaceholder template = false → fillPlaceholder template value = template) ∧
    (hasPlaceholder (fillPlaceholder template value) = true ↔
      hasPlaceholder template = true ∧ hasPlaceholder value = true) ∧
    fillPlaceholder (fillPlaceholder template value) other =
      fillPlaceholder template (fillPlaceholder value other) := by
  refine ⟨?_, ?_, fillFrom_eq_self value, ?_, fillFrom_fillFrom value other (.inl rfl)⟩
  · simp only [hasPlaceholder, hasPlaceholderFrom_iff, isPlaceholder_iff, StandsAlone]
  · rintro before c after alone rfl
    exact fillFrom_placeholder value (isPlaceholder_iff.2 alone)
  · rw [← Bool.and_eq_true]
    exact Bool.eq_iff_iff.1 (hasPlaceholderFrom_fillFrom value (.inl rfl))

-- The value brings a placeholder of its own, and the X at the end is in a word.
theorem filling_composes_around_dash :
    let template := "-x- _X".toList
    StandsAlone ['-'] 'x' "- _X".toList ∧ hasPlaceholder "- _X".toList = false ∧
      fillPlaceholder template "X%".toList = "-X%- _X".toList ∧
      hasPlaceholder (fillPlaceholder template "X%".toList) = true := by
  have alone : StandsAlone ['-'] 'x' "- _X".toList :=
    ⟨.inr rfl, by decide +kernel, by decide +kernel⟩
  have without : hasPlaceholder "- _X".toList = false := by decide +kernel
  obtain ⟨some, split, -, both, -⟩ := filling_composes "-x- _X".toList "X%".toList []
  obtain ⟨-, -, same, -⟩ := filling_composes "- _X".toList "X%".toList []
  have before : fillPlaceholder ['-'] "X%".toList = ['-'] := by decide +kernel
  refine ⟨alone, without, ?_, both.2 ⟨some.2 ⟨_, _, _, rfl, alone⟩, by decide +kernel⟩⟩
  rw [split _ _ _ alone rfl, same without, before]
  rfl

end Extraction

end DocMarkers
