import DocMarkers.Proofs.Extraction.Matching
import DocMarkers.Proofs.Lookup.Shape
import Mathlib.Data.List.Basic

set_option autoImplicit false

namespace DocMarkers

namespace Pattern

/-- What is left of a text once the words of the pattern are taken out. From the left, the word that is found at
a place is passed over, and what stands behind it is searched in the same way. -/
inductive Removes (p : Pattern) : Text → Text → Prop where
  | done : Removes p [] []
  | keeps {c : Char} {rest left : Text} (missing : p.first? (c :: rest) = none)
      (others : Removes p rest left) : Removes p (c :: rest) (c :: left)
  | cuts {text word rest left : Text} (split : text = word ++ rest) (filled : word ≠ [])
      (found : p.first? text = some word) (others : Removes p rest left) : Removes p text left

namespace Removes

variable {p : Pattern} {text left other : Text}

theorem sublist (removed : p.Removes text left) : left.Sublist text := by
  induction removed with
  | done => exact .slnil
  | keeps _ _ ih => exact ih.cons_cons _
  | cuts split _ _ _ ih =>
    rw [split]
    exact ih.trans (List.sublist_append_right _ _)

theorem unique (removed : p.Removes text left) (removed' : p.Removes text other) : left = other := by
  induction removed generalizing other with
  | done =>
    cases removed' with
    | done => rfl
    | cuts split filled => exact absurd (List.append_eq_nil_iff.1 split.symm).1 filled
  | keeps missing _ ih =>
    cases removed' with
    | keeps _ others => rw [ih others]
    | cuts _ _ found =>
      rw [missing] at found
      contradiction
  | cuts split filled found _ ih =>
    cases removed' with
    | done => exact absurd (List.append_eq_nil_iff.1 split.symm).1 filled
    | keeps missing =>
      rw [missing] at found
      contradiction
    | cuts split' _ found' others =>
      obtain rfl := Option.some.inj (found.symm.trans found')
      obtain rfl := List.append_cancel_left (split.symm.trans split')
      exact ih others

end Removes

end Pattern

namespace Markup

open Pattern

def tag : Pattern := .all [.one (· == '<'), .many (· != '>'), .one (· == '>')]

def closing : Text → Option Text := (Pattern.one (· == '>')).attempt some

theorem attemptMany_unclosed {rest : Text} (unclosed : '>' ∉ rest) :
    attemptMany (· != '>') closing rest = none := by
  induction rest with
  | nil => rfl
  | cons c rest ih =>
    obtain ⟨apart, later⟩ := not_or.1 (mt List.mem_cons.2 unclosed)
    have here : closing (c :: rest) = none := by simp [closing, attempt, Ne.symm apart]
    simp [attemptMany, ih later, here]

theorem attemptMany_closed {inside : Text} (free : '>' ∉ inside) (rest : Text) :
    attemptMany (· != '>') closing (inside ++ '>' :: rest) = some rest := by
  induction inside with
  | nil => rfl
  | cons c inside ih =>
    obtain ⟨apart, later⟩ := not_or.1 (mt List.mem_cons.2 free)
    simp [attemptMany, ih later, Ne.symm apart]

theorem attempt_tag (rest : Text) :
    tag.attempt some ('<' :: rest) = attemptMany (· != '>') closing rest := rfl

theorem first?_tag_of_ne {c : Char} (apart : c ≠ '<') (rest : Text) : tag.first? (c :: rest) = none := by
  simp [first?, tag, all, attempt, apart]

theorem first?_tag_unclosed {rest : Text} (unclosed : '>' ∉ rest) : tag.first? ('<' :: rest) = none := by
  rw [first?, attempt_tag, attemptMany_unclosed unclosed]
  rfl

theorem first?_tag_closed {inside : Text} (free : '>' ∉ inside) (rest : Text) :
    tag.first? ('<' :: (inside ++ '>' :: rest)) = some ('<' :: (inside ++ ['>'])) := by
  have split : '<' :: (inside ++ '>' :: rest) = '<' :: (inside ++ ['>']) ++ rest := by simp
  rw [first?, attempt_tag, attemptMany_closed free, split, Option.map_some, List.length_append,
    Nat.add_sub_cancel, List.take_left]

theorem exists_first?_tag {rest : Text} (closed : '>' ∈ rest) :
    ∃ word, tag.first? ('<' :: rest) = some word := by
  obtain ⟨inside, after, rfl, free⟩ := List.eq_append_cons_of_mem closed
  exact ⟨_, first?_tag_closed free after⟩

theorem untagged_of_removes {text left : Text} (removed : tag.Removes text left) :
    ¬ ['<', '>'].Sublist left := by
  induction removed with
  | done => simp
  | @keeps c rest left missing others ih =>
    intro within
    rcases List.cons_sublist_cons'.1 within with later | ⟨rfl, closed⟩
    · exact ih later
    · have behind : '>' ∈ rest := others.sublist.subset (List.singleton_sublist.1 closed)
      obtain ⟨word, found⟩ := exists_first?_tag behind
      rw [missing] at found
      contradiction
  | cuts _ _ _ _ ih => exact ih

theorem removes_self {text : Text} (untagged : ¬ ['<', '>'].Sublist text) : tag.Removes text text := by
  induction text with
  | nil => exact .done
  | cons c rest ih =>
    obtain ⟨later, here⟩ := not_or.1 (mt List.cons_sublist_cons'.2 untagged)
    refine .keeps ?_ (ih later)
    by_cases opens : c = '<'
    next =>
      subst opens
      exact first?_tag_unclosed fun closed => here ⟨rfl, List.singleton_sublist.2 closed⟩
    next => exact first?_tag_of_ne opens rest

def IsOpening (front : Text) : Prop := ∃ inside, front = '<' :: inside ∧ '>' ∉ inside

theorem IsOpening.append {front : Text} {c : Char} (opening : IsOpening front) (apart : c ≠ '>') :
    IsOpening (front ++ [c]) := by
  obtain ⟨inside, rfl, free⟩ := opening
  refine ⟨inside ++ [c], rfl, ?_⟩
  rw [List.mem_append, List.mem_singleton, not_or]
  exact ⟨free, Ne.symm apart⟩

theorem IsOpening.untagged {front : Text} (opening : IsOpening front) : ¬ ['<', '>'].Sublist front := by
  obtain ⟨inside, rfl, free⟩ := opening
  intro within
  rcases List.cons_sublist_cons'.1 within with later | ⟨-, closed⟩
  · exact free (later.subset (by simp))
  · exact free (closed.subset (by simp))

theorem removes_stripTagsFrom {opened : Option Text} {text : Text}
    (opening : ∀ front ∈ opened, IsOpening front.reverse) :
    tag.Removes ((opened.elim [] List.reverse) ++ text) (stripTagsFrom opened text) := by
  fun_induction stripTagsFrom opened text with
  | case1 => exact .done
  | case2 front =>
    rw [List.append_nil]
    exact removes_self (opening front rfl).untagged
  | case3 rest ih => exact ih (by simp [IsOpening])
  | case4 c rest other ih => exact .keeps (first?_tag_of_ne other rest) (ih nofun)
  | case5 front rest ih =>
    obtain ⟨inside, begun, free⟩ := opening front rfl
    have found := first?_tag_closed free rest
    have split : '<' :: (inside ++ '>' :: rest) = '<' :: (inside ++ ['>']) ++ rest := by simp
    rw [Option.elim_some, begun, List.cons_append]
    exact .cuts split (List.cons_ne_nil _ _) found (ih nofun)
  | case6 front c rest other ih =>
    have longer := ih (by simpa using (opening front rfl).append other)
    simpa using longer

theorem removes_iff {text left : Text} : tag.Removes text left ↔ left = stripTags text := by
  have removed : tag.Removes text (stripTags text) := @removes_stripTagsFrom none text nofun
  constructor
  · intro other
    exact other.unique removed
  · rintro rfl
    exact removed

theorem not_occurs_tag {text : Text} (untagged : ¬ ['<', '>'].Sublist text) : ¬ tag.Occurs text := by
  rintro ⟨before, word, after, rfl, isTag⟩
  apply untagged
  apply List.sublist_append_of_sublist_right
  apply List.sublist_append_of_sublist_left
  cases isTag with
  | seq opens rest =>
    cases rest with
    | seq inside closes =>
      cases opens with
      | one opens =>
        cases closes with
        | one closes =>
          obtain rfl := eq_of_beq opens
          obtain rfl := eq_of_beq closes
          exact .cons_cons _ (List.sublist_append_right _ _)

end Markup

theorem Summary.exists_shortExtract {fields : List (Text × Value)} {topic today : Text} {record : Summary}
    (built : ofFields fields topic today = .ok record) :
    ∃ short, record.shortExtract = .text short ∧
      if (Value.field fields "extract_html".toList).isPresent then
        ∃ extract, (Value.field fields "extract".toList).orElse (.text []) = .text extract ∧
          short = (Markup.stripTags extract).take shortLength
      else short = [] := by
  simp only [ofFields, bind_eq_ok_iff, pure, Except.pure, Except.ok.injEq] at built
  obtain ⟨_, -, shortExtract, shortened, _, -, _, -, rfl⟩ := built
  unfold shorten at shortened
  dsimp only
  split at shortened
  next present =>
    split at shortened
    next extract given =>
      obtain rfl := Except.ok.inj shortened
      refine ⟨_, rfl, ?_⟩
      rw [if_pos present]
      exact ⟨extract, given, rfl⟩
    next => contradiction
  next missing =>
    obtain rfl := Except.ok.inj shortened
    refine ⟨[], rfl, ?_⟩
    rw [if_neg missing]

namespace Markup

/-- Of an extract without its tags no opening bracket has a closing one anywhere behind it, so that nothing is
left to remove. A short extract is the start of such a text, or empty where the page has no markup, and holds
no tag either. -/
theorem stripped_of_every_tag :
    (∀ extract, let stripped := stripTags extract
      (∀ left, tag.Removes extract left ↔ left = stripped) ∧ ¬ ['<', '>'].Sublist stripped ∧
        stripTags stripped = stripped) ∧
    ∀ fields topic today,
      ((∃ record, Summary.ofFields fields topic today = .ok record) ↔ Summary.IsShaped fields) ∧
      ∀ record, Summary.ofFields fields topic today = .ok record →
        ∃ short, record.shortExtract = .text short ∧ short.length ≤ 200 ∧ ¬ tag.Occurs short ∧
          if (Value.field fields "extract_html".toList).isPresent then
            ∃ extract, (Value.field fields "extract".toList).orElse (.text []) = .text extract ∧
              short <+: stripTags extract ∧ short.length = min 200 (stripTags extract).length
          else short = [] := by
  have untagged (extract : Text) : ¬ ['<', '>'].Sublist (stripTags extract) :=
    untagged_of_removes (removes_iff.2 rfl)
  constructor
  · intro extract stripped
    have fixed : stripped = stripTags stripped := removes_iff.1 (removes_self (untagged extract))
    exact ⟨fun left => removes_iff, untagged extract, fixed.symm⟩
  · intro fields topic today
    refine ⟨Summary.isShaped_iff, fun record built => ?_⟩
    obtain ⟨short, given, told⟩ := Summary.exists_shortExtract built
    refine ⟨short, given, ?_⟩
    split at told
    next present =>
      obtain ⟨extract, ofExtract, rfl⟩ := told
      have start := List.take_prefix Summary.shortLength (stripTags extract)
      have bare : ¬ tag.Occurs ((stripTags extract).take Summary.shortLength) :=
        not_occurs_tag fun within => untagged extract (within.trans start.sublist)
      rw [if_pos present]
      exact ⟨List.length_take_le _ _, bare, extract, ofExtract, start, List.length_take⟩
    next missing =>
      subst told
      rw [if_neg missing]
      exact ⟨Nat.zero_le _, not_occurs_tag (by simp), rfl⟩

-- The first tag reaches over a bracket that opens another one, of which a closing bracket is left, and the last
-- bracket opens none.
theorem stripped_of_every_tag_in_disorder :
    let extract := "<<b>i>x</i> a < b".toList
    let fields := [("extract".toList, Value.text extract), ("extract_html".toList, .text "<p>".toList)]
    let stripped := "i>x a < b".toList
    Summary.IsShaped fields ∧ tag.Removes extract stripped ∧
      ∃ record short, Summary.ofFields fields [] [] = .ok record ∧ record.shortExtract = .text short ∧
        short <+: stripped ∧ short.length = 9 := by
  intro extract fields stripped
  obtain ⟨strips, shortens⟩ := stripped_of_every_tag
  obtain ⟨exists_iff, ofRecord⟩ := shortens fields [] []
  have same : stripped = stripTags extract := by decide
  have shaped : Summary.IsShaped fields := ⟨rfl, nofun, rfl, fun _ => rfl⟩
  obtain ⟨record, built⟩ := exists_iff.2 shaped
  obtain ⟨short, given, -, -, told⟩ := ofRecord record built
  have present : (Value.field fields "extract_html".toList).isPresent = true := rfl
  rw [if_pos present] at told
  obtain ⟨extract', ofExtract, start, length⟩ := told
  obtain rfl : extract = extract' := Value.text.inj ofExtract
  rw [← same] at start length
  exact ⟨shaped, ((strips extract).1 stripped).2 same, record, short, built, given, start, length⟩

end Markup

end DocMarkers
