import DocMarkers.Marker.Basic

set_option autoImplicit false

namespace DocMarkers

def Text.IsPlain (text : Text) : Prop := '{' ∉ text ∧ '}' ∉ text

instance (text : Text) : Decidable text.IsPlain := inferInstanceAs (Decidable (_ ∧ _))

namespace Marker

def IsEnclosable (params : Text) : Prop :=
  ¬ ['{', '{'] <:+: params ∧ ¬ ['}', '}'] <:+: params ∧ ¬ ['}'] <:+ params

structure IsValid (marker : Marker) : Prop where
  name : isName marker.name = true
  params : ∀ params ∈ marker.params, IsEnclosable params

theorem mem_literal (marker : Marker) : '}' ∈ marker.literal := by
  unfold literal
  split <;> simp

theorem literal_opening (marker : Marker) : ∃ behind, marker.literal = '{' :: '{' :: behind := by
  unfold literal
  split <;> exact ⟨_, rfl⟩

theorem isEnclosable_nil : IsEnclosable [] := by
  simp [IsEnclosable]

theorem isEnclosable_cons {c : Char} {rest : Text} :
    IsEnclosable (c :: rest) ↔
      (c = '{' → rest.head? ≠ some '{') ∧ (c = '}' → rest.head?.getD '}' ≠ '}') ∧
        IsEnclosable rest := by
  cases rest with
  | nil => simp [IsEnclosable, List.infix_cons_iff, List.singleton_suffix_iff_getLast?_eq_some]
  | cons d rest =>
    simp only [IsEnclosable, List.infix_cons_iff (a := c), List.suffix_cons_iff (a := c),
      List.cons_prefix_cons, List.head?_cons, List.nil_prefix, Option.getD_some]
    grind

theorem isEnclosable_of_isPlain {params : Text} (plain : params.IsPlain) : IsEnclosable params :=
  ⟨fun opens => plain.1 (opens.subset List.mem_cons_self),
    fun closes => plain.2 (closes.subset List.mem_cons_self),
    fun last => plain.2 (last.subset List.mem_cons_self)⟩

theorem isValid_of_isEnclosable {name params : Text} (named : isName name = true)
    (inside : IsEnclosable params) : IsValid ⟨name, some params⟩ := by
  refine ⟨named, fun given same => ?_⟩
  cases same
  exact inside

theorem enclosed?_append {params : Text} (inside : IsEnclosable params) (rest : Text) :
    enclosed? (params ++ '}' :: '}' :: rest) = some params := by
  induction params with
  | nil => rfl
  | cons c params ih =>
    obtain ⟨notOpening, notClosing, inside⟩ := isEnclosable_cons.1 inside
    rw [List.cons_append]
    unfold enclosed?
    split
    next => contradiction
    next closing same => cases params <;> simp_all
    next opening same => cases params <;> simp_all
    next same =>
      obtain ⟨rfl, rfl⟩ := List.cons.inj same
      simp [ih inside]

theorem isEnclosable_of_enclosed? {body params : Text} (found : enclosed? body = some params) :
    IsEnclosable params := by
  fun_induction enclosed? body generalizing params with
  | case1 => contradiction
  | case2 rest => cases found; exact isEnclosable_nil
  | case3 => contradiction
  | case4 c rest notClosing notOpening ih =>
    obtain ⟨inner, within, rfl⟩ := Option.map_eq_some_iff.1 found
    obtain ⟨behind, rfl⟩ := enclosed?_eq within
    refine isEnclosable_cons.2 ⟨?_, ?_, ih within⟩ <;> cases inner <;> simp_all

-- An opening double brace behind a text closes nothing in it.
theorem enclosed?_append_opening {body : Text} (lacking : enclosed? body = none) (rest : Text) :
    enclosed? (body ++ '{' :: '{' :: rest) = none := by
  fun_induction enclosed? body with
  | case1 => rfl
  | case2 => contradiction
  | case3 => rfl
  | case4 c body notClosing notOpening ih =>
    have behind := ih (Option.map_eq_none_iff.1 lacking)
    rw [List.cons_append]
    unfold enclosed?
    split
    next => rfl
    next closing same => cases body <;> simp_all
    next => rfl
    next same =>
      obtain ⟨rfl, rfl⟩ := List.cons.inj same
      simp [behind]

theorem continued?_append_opening {name text : Text} (lacking : continued? name text = none)
    (rest : Text) : continued? name (text ++ '{' :: '{' :: rest) = none := by
  fun_cases continued? name text with
  | case1 => contradiction
  | case2 body =>
    have behind := enclosed?_append_opening (Option.map_eq_none_iff.1 lacking) rest
    simp [continued?, behind]
  | case3 text notClosing notParams =>
    unfold continued?
    split
    next closing same => cases text <;> simp_all [List.append_eq_cons_iff]
    next body same => cases text <;> simp_all
    next => rfl

theorem isName_iff {name : Text} :
    isName name = true ↔
      ∃ stem, name = 'a' :: 'i' :: '_' :: stem ∧ stem ≠ [] ∧ ∀ c ∈ stem, isNameChar c = true := by
  fun_cases isName name <;> simp_all

theorem not_mem_of_isName {name : Text} {c : Char} (outside : isNameChar c = false)
    (named : isName name = true) : c ∉ name := by
  obtain ⟨stem, rfl, -, named⟩ := isName_iff.1 named
  have front : ∀ d ∈ 'a' :: 'i' :: '_' :: stem, isNameChar d = true := by
    simpa using ⟨rfl, rfl, rfl, named⟩
  intro member
  rw [front c member] at outside
  contradiction

theorem takeWhile_name_append (text : Text) {c : Char} (outside : isNameChar c = false)
    (rest : Text) :
    (text ++ c :: rest).takeWhile isNameChar = text.takeWhile isNameChar ∧
      (text ++ c :: rest).dropWhile isNameChar = text.dropWhile isNameChar ++ c :: rest := by
  induction text with
  | nil => simp [outside]
  | cons d text ih => by_cases inside : isNameChar d = true <;> simp [inside, ih]

theorem atStart?_literal {marker : Marker} (valid : marker.IsValid) (rest : Text) :
    atStart? (marker.literal ++ rest) = some marker := by
  obtain ⟨name, params⟩ := marker
  obtain ⟨stem, rfl, inhabited, named⟩ := isName_iff.1 valid.name
  have closing : isNameChar '}' = false := rfl
  have colon : isNameChar ':' = false := rfl
  cases params with
  | none =>
    simp [literal, atStart?, continued?, List.takeWhile_append_of_pos named,
      List.dropWhile_append_of_pos named, closing, inhabited]
  | some params =>
    have closed := enclosed?_append (valid.params params rfl) rest
    simp [literal, atStart?, continued?, List.takeWhile_append_of_pos named,
      List.dropWhile_append_of_pos named, colon, inhabited, closed]

theorem isValid_of_continued? {name text : Text} {marker : Marker} (named : isName name = true)
    (found : continued? name text = some marker) : marker.IsValid := by
  fun_cases continued? name text with
  | case1 =>
    cases found
    exact ⟨named, by simp⟩
  | case2 body =>
    obtain ⟨params, within, rfl⟩ := Option.map_eq_some_iff.1 found
    refine ⟨named, fun given same => ?_⟩
    cases same
    exact isEnclosable_of_enclosed? within
  | case3 => simp [continued?] at found

theorem isValid_of_atStart? {text : Text} {marker : Marker} (found : atStart? text = some marker) :
    marker.IsValid := by
  fun_cases atStart? text with
  | case1 => simp_all [atStart?]
  | case2 rest inhabited =>
    simp only [atStart?, inhabited] at found
    refine isValid_of_continued? (isName_iff.2 ⟨_, rfl, ?_, ?_⟩) found
    · simpa using inhabited
    · exact List.all_eq_true.1 (List.all_takeWhile)
  | case3 => simp [atStart?] at found

theorem atStart?_eq_some_iff {text : Text} {marker : Marker} :
    atStart? text = some marker ↔ marker.IsValid ∧ marker.literal <+: text := by
  constructor
  · intro found
    obtain ⟨rest, whole⟩ := atStart?_eq found
    exact ⟨isValid_of_atStart? found, rest, whole.symm⟩
  · rintro ⟨valid, rest, rfl⟩
    exact atStart?_literal valid rest

theorem atStart?_of_not_mem {text : Text} (unclosed : '}' ∉ text) : atStart? text = none := by
  cases found : atStart? text with
  | none => rfl
  | some marker =>
    have front := (atStart?_eq_some_iff.1 found).2
    exact absurd (front.subset marker.mem_literal) unclosed

theorem atStart?_append {text : Text} {marker : Marker} (found : atStart? text = some marker)
    (rest : Text) : atStart? (text ++ rest) = some marker := by
  obtain ⟨valid, front⟩ := atStart?_eq_some_iff.1 found
  exact atStart?_eq_some_iff.2 ⟨valid, front.trans (List.prefix_append text rest)⟩

theorem atStart?_eq_none_of_append (text rest : Text)
    (lacking : atStart? (text ++ rest) = none) : atStart? text = none := by
  cases found : atStart? text with
  | none => rfl
  | some marker => rw [← lacking, atStart?_append found]

theorem atStart?_append_opening {text : Text} (inhabited : text ≠ [])
    (lacking : atStart? text = none) (rest : Text) :
    atStart? (text ++ '{' :: '{' :: rest) = none := by
  have opening : isNameChar '{' = false := rfl
  fun_cases atStart? text with
  | case1 stem unnamed =>
    obtain ⟨taken, -⟩ := takeWhile_name_append stem opening ('{' :: rest)
    simp_all [atStart?]
  | case2 stem named =>
    obtain ⟨taken, dropped⟩ := takeWhile_name_append stem opening ('{' :: rest)
    simp only [atStart?, named] at lacking
    simp only [List.cons_append, atStart?, taken, dropped, named]
    exact continued?_append_opening lacking rest
  | case3 other =>
    unfold atStart?
    split
    next stem same =>
      rcases text with _ | ⟨a, _ | ⟨b, _ | ⟨c, _ | ⟨d, _ | ⟨e, text⟩⟩⟩⟩⟩ <;> simp_all
    next => rfl

instance (marker : Marker) : Decidable marker.IsValid :=
  decidable_of_iff (atStart? marker.literal = some marker)
    ⟨isValid_of_atStart?, fun valid => by simpa using atStart?_literal valid []⟩

theorem literal_injective {first second : Marker} (valid : first.IsValid)
    (valid' : second.IsValid) (same : first.literal = second.literal) : first = second := by
  have found := atStart?_literal valid []
  rw [same, atStart?_literal valid' []] at found
  exact (Option.some.inj found).symm

end Marker

end DocMarkers
