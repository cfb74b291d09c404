import DocMarkers.Proofs.Extraction.Matching

set_option autoImplicit false

namespace DocMarkers

namespace Pattern

def IsDeterminate (p : Pattern) : Prop := ∀ text, (p.ways text).length ≤ 1

def StartsWith (p : Pattern) (first : Char → Bool) : Prop :=
  ∀ text, p.ways text ≠ [] → ∃ c rest, text = c :: rest ∧ first c = true

def Avoids (p : Pattern) (test : Char → Bool) : Prop :=
  ∀ c rest, test c = true → p.ways (c :: rest) = []

def Commits (p q : Pattern) : Prop :=
  ∀ text, (seq p q).ways text = [] ∨ ∃ rest, (seq p q).ways text = q.ways rest

section Start

variable {p q : Pattern} {first second test : Char → Bool}

theorem StartsWith.mono (starts : p.StartsWith first)
    (weaker : ∀ c, first c = true → second c = true) : p.StartsWith second := by
  intro text some
  obtain ⟨c, rest, split, holds⟩ := starts text some
  exact ⟨c, rest, split, weaker c holds⟩

theorem StartsWith.avoids (starts : p.StartsWith first)
    (apart : ∀ c, first c = true → test c = false) : p.Avoids test := by
  intro c rest holds
  by_cases some : p.ways (c :: rest) = []
  next => exact some
  next =>
    obtain ⟨d, others, same, start⟩ := starts _ some
    cases same
    rw [apart c start] at holds
    contradiction

theorem Avoids.mono (avoids : p.Avoids second) (weaker : ∀ c, first c = true → second c = true) :
    p.Avoids first :=
  fun c rest holds => avoids c rest (weaker c holds)

theorem Avoids.optional (first : p.Avoids test) (second : q.Avoids test) :
    (seq (optional p) q).Avoids test := by
  intro c rest holds
  simp [Pattern.optional, ways, first c rest holds, second c rest holds]

theorem startsWith_one : (one test).StartsWith test := by
  intro text some
  cases text with
  | nil => contradiction
  | cons c rest =>
    by_cases holds : test c = true
    next => exact ⟨c, rest, rfl, holds⟩
    next => simp [ways, holds] at some

theorem StartsWith.seq (starts : p.StartsWith first) : (Pattern.seq p q).StartsWith first := by
  intro text some
  refine starts text fun none => some ?_
  rw [ways, none, List.flatMap_nil]

theorem StartsWith.either (starts : p.StartsWith first) (other : q.StartsWith first) :
    (Pattern.either p q).StartsWith first := by
  intro text some
  by_cases none : p.ways text = []
  next => exact other text fun both => some (by rw [ways, none, both, List.append_nil])
  next => exact starts text none

theorem StartsWith.many (starts : q.StartsWith first) (run : ∀ c, test c = true → first c = true) :
    (Pattern.seq (many test) q).StartsWith first := by
  intro text some
  by_cases stops : runs test text = [text]
  next =>
    refine starts text fun none => some ?_
    rw [ways, ways, stops, List.flatMap_singleton, none]
  next =>
    cases text with
    | nil => exact absurd rfl stops
    | cons c rest =>
      refine ⟨c, rest, rfl, run c ?_⟩
      by_cases holds : test c = true
      next => exact holds
      next => exact absurd (by simp [runs, holds]) stops

end Start

section Sequence

variable {p q r : Pattern} {test : Char → Bool}

theorem ways_seq_seq (text : Text) :
    (seq (seq p q) r).ways text = (seq p (seq q r)).ways text := by
  simp only [ways, List.flatMap_assoc]

theorem IsDeterminate.none_or_one (determinate : p.IsDeterminate) (text : Text) :
    p.ways text = [] ∨ ∃ rest, p.ways text = [rest] := by
  rcases Nat.le_one_iff_eq_zero_or_eq_one.1 (determinate text) with none | one
  · exact .inl (List.length_eq_zero_iff.1 none)
  · exact .inr (List.length_eq_one_iff.1 one)

theorem commits_of_determinate (determinate : p.IsDeterminate) : p.Commits q := by
  intro text
  rw [ways]
  rcases determinate.none_or_one text with none | ⟨rest, once⟩
  · exact .inl (by rw [none, List.flatMap_nil])
  · exact .inr ⟨rest, by rw [once, List.flatMap_singleton]⟩

theorem isDeterminate_one : (one test).IsDeterminate := by
  intro text
  cases text with
  | nil => exact Nat.zero_le 1
  | cons c rest => by_cases holds : test c = true <;> simp [ways, holds]

theorem commits_one : (one test).Commits q := commits_of_determinate isDeterminate_one

theorem commits_many (avoids : q.Avoids test) : (many test).Commits q := by
  intro text
  right
  induction text with
  | nil => exact ⟨[], by simp [ways, runs]⟩
  | cons c rest ih =>
    by_cases holds : test c = true
    next =>
      obtain ⟨place, found⟩ := ih
      refine ⟨place, ?_⟩
      simp only [ways, runs, holds, if_true, List.flatMap_append, List.flatMap_singleton] at found ⊢
      rw [found, avoids c rest holds, List.append_nil]
    next => exact ⟨c :: rest, by simp [ways, runs, holds]⟩

theorem Commits.seq (commits : p.Commits (seq q r)) (next : q.Commits r) :
    (Pattern.seq p q).Commits r := by
  intro text
  rw [ways_seq_seq]
  rcases commits text with none | ⟨rest, found⟩
  · exact .inl none
  · rw [found]
    exact next rest

theorem commits_optional (commits : p.Commits q) (starts : p.StartsWith test)
    (avoids : q.Avoids test) : (optional p).Commits q := by
  intro text
  by_cases none : p.ways text = []
  next => exact .inr ⟨text, by simp [optional, ways, none]⟩
  next =>
    obtain ⟨c, rest, rfl, holds⟩ := starts text none
    have kept : (seq (optional p) q).ways (c :: rest) = (seq p q).ways (c :: rest) := by
      simp [optional, ways, avoids c rest holds]
    rw [kept]
    exact commits (c :: rest)

theorem Commits.isDeterminate (commits : p.Commits q) (determinate : q.IsDeterminate) :
    (Pattern.seq p q).IsDeterminate := by
  intro text
  rcases commits text with none | ⟨rest, found⟩
  · simp [none]
  · rw [found]
    exact determinate rest

theorem Commits.isGreedy (commits : p.Commits q) (greedy : q.IsGreedy) :
    (Pattern.seq p q).IsGreedy := by
  intro text
  rcases commits text with none | ⟨rest, found⟩
  · simp [none]
  · rw [found]
    exact greedy rest

theorem IsDeterminate.isGreedy (determinate : p.IsDeterminate) : p.IsGreedy := by
  intro text
  rcases determinate.none_or_one text with none | ⟨rest, once⟩
  · rw [none]
    exact .nil
  · rw [once]
    exact List.pairwise_singleton ..

theorem IsDeterminate.either (first : p.IsDeterminate) (second : q.IsDeterminate)
    (starts : p.StartsWith test) (avoids : q.Avoids test) : (Pattern.either p q).IsDeterminate := by
  intro text
  rw [ways]
  by_cases none : p.ways text = []
  next =>
    rw [none]
    exact second text
  next =>
    obtain ⟨c, rest, rfl, holds⟩ := starts text none
    rw [avoids c rest holds, List.append_nil]
    exact first _

-- A run before an optional part is cut short only after the part was tried behind the whole run.
theorem isGreedy_many_optional (greedy : q.IsGreedy) (avoids : q.Avoids test) :
    (Pattern.seq (many test) (optional q)).IsGreedy := by
  have short (text : Text) : ((optional q).ways text).Pairwise
      fun rest other => rest.length ≤ other.length := by
    simp only [optional, ways, List.pairwise_append, List.mem_singleton, forall_eq]
    exact ⟨greedy text, List.pairwise_singleton .., fun rest => length_le_of_mem_ways⟩
  intro text
  induction text with
  | nil => simpa [ways, runs] using short []
  | cons c rest ih =>
    by_cases holds : test c = true
    next =>
      have last : (seq (many test) (optional q)).ways (c :: rest) =
          (seq (many test) (optional q)).ways rest ++ [c :: rest] := by
        simp [ways, runs, holds, optional, avoids c rest holds]
      rw [last, List.pairwise_append]
      refine ⟨ih, List.pairwise_singleton .., fun place tried other whole => ?_⟩
      rw [List.mem_singleton.1 whole]
      exact Nat.le_succ_of_le (length_le_of_mem_ways tried)
    next => simpa [ways, runs, holds] using short (c :: rest)

end Sequence

section Words

theorem ways_all (p : Pattern) (ps : List Pattern) (text : Text) :
    (all (p :: ps)).ways text = (p.ways text).flatMap (all ps).ways := by
  cases ps with
  | nil => simp [all, ways]
  | cons q ps => rfl

theorem ways_any (ps : List Pattern) (text : Text) :
    (any ps).ways text = ps.flatMap fun p => p.ways text := by
  fun_induction any ps with
  | case1 => rfl
  | case2 p => simp
  | case3 p ps _ ih => rw [ways, ih, List.flatMap_cons]

variable {fold : Char → Char}

theorem ways_word (letters text : Text) :
    (word (fun expected c => fold c == expected) letters).ways text =
      if letters <+: text.map fold then [text.drop letters.length] else [] := by
  induction letters generalizing text with
  | nil => simp [word, all, ways]
  | cons letter letters ih =>
    rw [word, List.map_cons, ways_all]
    cases text with
    | nil => simp [ways]
    | cons c rest =>
      by_cases same : fold c = letter
      next => simpa [word, ways, same] using ih rest
      next => simp [ways, same, Ne.symm same]

theorem isDeterminate_words {choices : List Text}
    (apart : choices.Pairwise fun word other => ¬ word <+: other ∧ ¬ other <+: word) :
    (any (choices.map (word fun expected c => fold c == expected))).IsDeterminate := by
  intro text
  simp only [ways_any, List.flatMap_map, ways_word]
  induction choices with
  | nil => exact Nat.zero_le 1
  | cons letters rest ih =>
    obtain ⟨others, later⟩ := List.pairwise_cons.1 apart
    by_cases start : letters <+: text.map fold
    next =>
      have none : rest.flatMap (fun word =>
          if word <+: text.map fold then [text.drop word.length] else []) = [] := by
        refine List.flatMap_eq_nil_iff.2 fun word member => if_neg fun also => ?_
        rcases List.prefix_or_prefix_of_prefix start also with within | within
        · exact (others word member).1 within
        · exact (others word member).2 within
      rw [List.flatMap_cons, if_pos start, none]
      exact Nat.le_refl 1
    next =>
      rw [List.flatMap_cons, if_neg start, List.nil_append]
      exact ih later

theorem startsWith_words {choices : List Text} (first : Char → Bool)
    (starts : ∀ word ∈ choices, ∃ letter rest, word = letter :: rest ∧ first letter = true) :
    (any (choices.map (word fun expected c => fold c == expected))).StartsWith
      fun c => first (fold c) := by
  intro text some
  obtain ⟨place, tried⟩ := List.exists_mem_of_ne_nil _ some
  simp only [ways_any, List.mem_flatMap, List.mem_map] at tried
  obtain ⟨_, ⟨word, member, rfl⟩, tried⟩ := tried
  have found : word <+: text.map fold := by
    by_cases found : word <+: text.map fold
    next => exact found
    next => simp [ways_word, found] at tried
  obtain ⟨letter, rest, rfl, holds⟩ := starts word member
  cases text with
  | nil => simp at found
  | cons c text =>
    obtain ⟨rfl, -⟩ := List.cons_prefix_cons.1 found
    exact ⟨c, text, rfl, holds⟩

end Words

end Pattern

end DocMarkers
