import DocMarkers.Proofs.Scanning.Parameters

set_option autoImplicit false

namespace DocMarkers

namespace Topic

def IsWord (word : Text) : Prop := word ≠ [] ∧ ∀ c ∈ word, isBlank c = false

def IsGap (gap : Text) : Prop := gap ≠ [] ∧ ∀ c ∈ gap, isBlank c = true

def isPadding (c : Char) : Bool := isBlank c || c == '_'

inductive Spaced : List Text → Text → Prop where
  | none : Spaced [] []
  | one {word : Text} (isWord : IsWord word) : Spaced [word] word
  | more {word gap next rest : Text} {words : List Text} (isWord : IsWord word) (isGap : IsGap gap)
      (others : Spaced (next :: words) rest) :
      Spaced (word :: next :: words) (word ++ (gap ++ rest))

/-- The words are spaced, with blanks and underscores around them. The first word does not start with an
underscore and the last one does not end with one. -/
structure Spells (words : List Text) (topic : Text) : Prop where
  within : ∃ before body after, topic = before ++ (body ++ after) ∧ Spaced words body ∧
    ∀ c ∈ before ++ after, isPadding c = true
  first : ∀ word ∈ words.head?, word.head? ≠ some '_'
  last : ∀ word ∈ words.getLast?, word.getLast? ≠ some '_'

section JoinWords

variable {text : Text}

theorem joinWords_of_isGap (isGap : IsGap text) : joinWords text = ['_'] := by
  obtain ⟨filled, blanks⟩ := isGap
  induction text with
  | nil => contradiction
  | cons c rest ih =>
    obtain ⟨blank, others⟩ := List.forall_mem_cons.1 blanks
    rw [joinWords_of_blank blank]
    cases rest with
    | nil => rfl
    | cons d rest =>
      have goesOn : (d :: rest).head?.any isBlank = true := others d List.mem_cons_self
      rw [if_pos goesOn]
      exact ih (List.cons_ne_nil d rest) others

theorem underscore_of_mem_joinWords (padding : ∀ c ∈ text, isPadding c = true) :
    ∀ c ∈ joinWords text, (c == '_') = true := by
  intro c member
  rcases mem_of_mem_joinWords member with rfl | ⟨within, plain⟩
  · rfl
  · have pads := padding c within
    rwa [isPadding, plain, Bool.false_or] at pads

theorem head?_joinWords (trimmed : text.IsTrimmed) : (joinWords text).head? = text.head? := by
  cases text with
  | nil => rfl
  | cons c rest => rw [joinWords_of_plain (trimmed.first c rfl), List.head?_cons, List.head?_cons]

theorem getLast?_joinWords (trimmed : text.IsTrimmed) : (joinWords text).getLast? = text.getLast? := by
  rcases List.eq_nil_or_concat' text with rfl | ⟨front, c, rfl⟩
  · rfl
  · have plain : isBlank c = false := trimmed.last c List.getLast?_concat
    have single : joinWords [c] = [c] := joinWords_of_plain plain
    rw [joinWords_append_of_first (by simpa using plain), single, List.getLast?_concat,
      List.getLast?_concat]

end JoinWords

section Padding

variable {before body after : Text}

theorem trimBy_joinWords (trimmed : body.IsTrimmed) (padding : ∀ c ∈ before ++ after, isPadding c = true) :
    Text.trimBy (· == '_') (joinWords (before ++ (body ++ after))) =
      Text.trimBy (· == '_') (joinWords body) := by
  obtain ⟨front, back⟩ := List.forall_mem_append.1 padding
  cases body with
  | nil =>
    -- The blanks before and after may be one run, which no seam divides.
    rw [List.nil_append, Text.trimBy_eq_nil (underscore_of_mem_joinWords padding)]
    rfl
  | cons c rest =>
    have first : ∀ d ∈ (c :: rest ++ after).head?, isBlank d = false := trimmed.first
    rw [joinWords_append_of_first first, joinWords_append_of_last trimmed.last]
    exact Text.trimBy_append (List.forall_mem_append.2
      ⟨underscore_of_mem_joinWords front, underscore_of_mem_joinWords back⟩) _

theorem normalize_padded (trimmed : body.IsTrimmed) (padding : ∀ c ∈ before ++ after, isPadding c = true) :
    normalize (before ++ (body ++ after)) = Text.trimBy (· == '_') (joinWords body) := by
  obtain ⟨front, back, split, blanks⟩ := Text.isPadded_trim (before ++ (body ++ after))
  have blanksPad : ∀ c ∈ front ++ back, isPadding c = true := by
    intro c member
    rw [isPadding, blanks c member, Bool.true_or]
  rw [← trimBy_joinWords trimmed padding, split,
    trimBy_joinWords (Text.isTrimmed_trim _) blanksPad, ← split, normalize]

end Padding

namespace Spaced

variable {word text : Text} {words : List Text}

theorem isWord (spaced : Spaced words text) : ∀ word ∈ words, IsWord word := by
  induction spaced with
  | none => nofun
  | one isWord => simpa using isWord
  | more isWord _ _ ih => exact List.forall_mem_cons.2 ⟨isWord, ih⟩

theorem head?_eq (spaced : Spaced words text) : text.head? = words.head?.bind List.head? := by
  cases spaced with
  | none => rfl
  | one => rfl
  | more isWord => simp [List.head?_append_of_ne_nil _ isWord.1]

theorem ne_nil (spaced : Spaced (word :: words) text) : text ≠ [] := by
  cases spaced with
  | one isWord => exact isWord.1
  | more isWord => exact List.append_ne_nil_of_left_ne_nil isWord.1 _

theorem getLast?_eq (spaced : Spaced words text) : text.getLast? = words.getLast?.bind List.getLast? := by
  induction spaced with
  | none => rfl
  | one => rfl
  | more _ _ others ih =>
    rw [List.getLast?_append_of_ne_nil _ (List.append_ne_nil_of_right_ne_nil _ others.ne_nil),
      List.getLast?_append_of_ne_nil _ others.ne_nil, ih, List.getLast?_cons_cons]

theorem isTrimmed (spaced : Spaced words text) : text.IsTrimmed := by
  constructor
  · intro c first
    rw [spaced.head?_eq, Option.mem_def, Option.bind_eq_some_iff] at first
    obtain ⟨word, member, starts⟩ := first
    exact (spaced.isWord word (List.mem_of_mem_head? member)).2 c (List.mem_of_mem_head? starts)
  · intro c last
    rw [spaced.getLast?_eq, Option.mem_def, Option.bind_eq_some_iff] at last
    obtain ⟨word, member, ends⟩ := last
    exact (spaced.isWord word (List.mem_of_getLast? member)).2 c (List.mem_of_getLast? ends)

theorem joinWords_eq (spaced : Spaced words text) : joinWords text = Text.join ['_'] words := by
  induction spaced with
  | none => rfl
  | one isWord => exact joinWords_eq_self isWord.2
  | @more word gap next rest words isWord isGap others ih =>
    have last : ∀ c ∈ word.getLast?, isBlank c = false := fun c atEnd =>
      isWord.2 c (List.mem_of_getLast? atEnd)
    rw [joinWords_append_of_last last, joinWords_append_of_first others.isTrimmed.first,
      joinWords_eq_self isWord.2, joinWords_of_isGap isGap, ih,
      Text.join_cons _ _ (List.cons_ne_nil next words), List.append_assoc]

theorem cons {c : Char} (plain : isBlank c = false) (spaced : Spaced (word :: words) text) :
    Spaced ((c :: word) :: words) (c :: text) := by
  have longer {word : Text} (isWord : IsWord word) : IsWord (c :: word) :=
    ⟨List.cons_ne_nil c word, List.forall_mem_cons.2 ⟨plain, isWord.2⟩⟩
  cases spaced with
  | one isWord => exact .one (longer isWord)
  | more isWord isGap others => exact .more (longer isWord) isGap others

end Spaced

theorem exists_spaced {text : Text} (last : ∀ c ∈ text.getLast?, isBlank c = false) :
    ∃ blanks words body, text = blanks ++ body ∧ (∀ c ∈ blanks, isBlank c = true) ∧ Spaced words body := by
  induction text with
  | nil => exact ⟨[], [], [], rfl, nofun, .none⟩
  | cons c rest ih =>
    have ends : ∀ d ∈ rest.getLast?, isBlank d = false := by
      intro d atEnd
      cases rest with
      | nil => contradiction
      | cons e rest => exact last d (by simpa using atEnd)
    obtain ⟨blanks, words, body, rfl, areBlank, spaced⟩ := ih ends
    cases plain : isBlank c with
    | true => exact ⟨c :: blanks, words, body, rfl, List.forall_mem_cons.2 ⟨plain, areBlank⟩, spaced⟩
    | false =>
      have single : IsWord [c] := ⟨List.cons_ne_nil c [], by simpa using plain⟩
      refine ⟨[], ?_⟩
      cases words with
      | nil =>
        cases spaced
        -- Blanks that nothing follows would end the text.
        rcases List.eq_nil_or_concat' blanks with rfl | ⟨front, d, rfl⟩
        · exact ⟨[[c]], [c], rfl, nofun, .one single⟩
        · have blank : isBlank d = true := areBlank d (by simp)
          rw [ends d (by simp)] at blank
          contradiction
      | cons word words =>
        cases blanks with
        | nil => exact ⟨(c :: word) :: words, c :: body, rfl, nofun, spaced.cons plain⟩
        | cons d blanks =>
          have isGap : IsGap (d :: blanks) := ⟨List.cons_ne_nil d blanks, areBlank⟩
          exact ⟨[c] :: word :: words, _, rfl, nofun, .more single isGap spaced⟩

theorem exists_spells (topic : Text) : ∃ words, Spells words topic := by
  obtain ⟨before, after, split, padding⟩ := Text.exists_trimmed isPadding topic
  have bare {c : Char} (kept : isPadding c = false) : isBlank c = false ∧ c ≠ '_' := by
    simpa [isPadding] using kept
  have first := @Text.head?_trimBy isPadding topic
  have last := @Text.getLast?_trimBy isPadding topic
  generalize Text.trimBy isPadding topic = core at split first last
  obtain ⟨blanks, words, body, whole, areBlank, spaced⟩ :=
    exists_spaced fun c atEnd => (bare (last c atEnd)).1
  obtain rfl : blanks = [] := by
    cases blanks with
    | nil => rfl
    | cons c blanks =>
      have plain := (bare (first c (by rw [whole]; rfl))).1
      rw [areBlank c List.mem_cons_self] at plain
      exact Bool.noConfusion plain
  obtain rfl : core = body := whole
  refine ⟨words, ⟨before, core, after, split, spaced, padding⟩, fun word member starts => ?_,
    fun word member ends => ?_⟩
  · have atStart : core.head? = some '_' := by
      rw [spaced.head?_eq, Option.mem_def.1 member, Option.bind_some, starts]
    exact (bare (first '_' atStart)).2 rfl
  · have atEnd : core.getLast? = some '_' := by
      rw [spaced.getLast?_eq, Option.mem_def.1 member, Option.bind_some, ends]
    exact (bare (last '_' atEnd)).2 rfl

theorem Spells.normalize_eq {words : List Text} {topic : Text} (spells : Spells words topic) :
    normalize topic = Text.join ['_'] words := by
  obtain ⟨⟨before, body, after, rfl, spaced, padding⟩, first, last⟩ := spells
  have trimmed := spaced.isTrimmed
  rw [normalize_padded trimmed padding, ← spaced.joinWords_eq]
  apply Text.trimBy_of_ends
  · intro c atStart
    rw [head?_joinWords trimmed, spaced.head?_eq, Option.mem_def, Option.bind_eq_some_iff] at atStart
    obtain ⟨word, member, starts⟩ := atStart
    exact beq_eq_false_iff_ne.2 fun same => first word member (same ▸ starts)
  · intro c atEnd
    rw [getLast?_joinWords trimmed, spaced.getLast?_eq, Option.mem_def, Option.bind_eq_some_iff] at atEnd
    obtain ⟨word, member, ends⟩ := atEnd
    exact beq_eq_false_iff_ne.2 fun same => last word member (same ▸ ends)

/-- The normal form of a topic holds no blank, has no underscore at its ends and is its own normal form. It is
the words that spell the topic, joined by underscores, and some words spell every topic. -/
theorem normalize_canonical (topic : Text) :
    let key := normalize topic
    (∀ c ∈ key, isBlank c = false) ∧ key.head? ≠ some '_' ∧ key.getLast? ≠ some '_' ∧
      normalize key = key ∧ (∃ words, Spells words topic) ∧
      ∀ words, Spells words topic → key = Text.join ['_'] words := by
  intro key
  have first : ∀ c ∈ key.head?, (c == '_') = false := Text.head?_trimBy
  have last : ∀ c ∈ key.getLast?, (c == '_') = false := Text.getLast?_trimBy
  refine ⟨fun c => not_blank_of_mem_normalize, fun starts => ?_, fun ends => ?_,
    normalize_normalize topic, exists_spells topic, fun words spells => spells.normalize_eq⟩
  · exact Bool.noConfusion (first '_' starts)
  · exact Bool.noConfusion (last '_' ends)

-- Underscores inside a word stay beside the one that takes the place of the blanks.
theorem normalize_canonical_between_underscores :
    let topic := "\t_ C__ \u3000 _lang _".toList
    let key := "C____lang".toList
    Spells ["C__".toList, "_lang".toList] topic ∧ normalize topic = key ∧
      '_' ∈ normalize topic ∧ isBlank '_' = false := by
  intro topic key
  have isGap : IsGap " \u3000 ".toList := ⟨by decide, List.all_eq_true.1 (by decide)⟩
  have first : IsWord "C__".toList := ⟨by decide, by simp; decide⟩
  have last : IsWord "_lang".toList := ⟨by decide, by simp; decide⟩
  have spells : Spells ["C__".toList, "_lang".toList] topic := by
    refine ⟨?_, by decide, by decide⟩
    exact ⟨"\t_ ".toList, _, " _".toList, rfl, .more first isGap (.one last),
      List.all_eq_true.1 (by decide)⟩
  obtain ⟨plain, -, -, -, -, joined⟩ := normalize_canonical topic
  have same : normalize topic = key := joined _ spells
  have member : '_' ∈ normalize topic := by
    rw [same]
    decide
  exact ⟨spells, same, member, plain '_' member⟩

end Topic

end DocMarkers
