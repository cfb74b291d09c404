import DocMarkers.Extraction.KeyInfo
import DocMarkers.Proofs.Extraction.Greedy

set_option autoImplicit false

namespace DocMarkers

def letters : Text :=
  "abcdefghijklmnopqrstuvwxyzABCDEFGHIJKLMNOPQRSTUVWXYZıİſ".toList ++ [Char.ofNat 0x212A]

theorem toLower_of_not_ascii {c : Char} (large : ¬ c.toNat < 128) : c.toLower = c :=
  dif_neg fun capital => large (Nat.lt_of_le_of_lt capital.2 (by decide))

theorem mem_letters {c : Char} (lower : (foldLetter c).isLower = true) : c ∈ letters := by
  have ascii : ∀ n < 128, (Char.ofNat n).toLower.isLower = true → Char.ofNat n ∈ letters := by
    decide +kernel
  unfold foldLetter at lower
  split at lower
  next dot => rcases dot with rfl | rfl <;> decide +kernel
  next =>
    split at lower
    next long =>
      rw [long]
      decide +kernel
    next =>
      split at lower
      next kelvin =>
        rw [← Char.ofNat_toNat c, kelvin]
        decide +kernel
      next =>
        by_cases small : c.toNat < 128
        next =>
          rw [← Char.ofNat_toNat c] at lower ⊢
          exact ascii c.toNat small lower
        next =>
          rw [toLower_of_not_ascii small] at lower
          have atMost : c.val ≤ 'z'.val := of_decide_eq_true (Bool.and_eq_true_iff.1 lower).2
          exact absurd (Nat.lt_of_le_of_lt atMost (by decide)) small

theorem blank_apart {c : Char} (blank : isBlank c = true) :
    isDecimalDigit c = false ∧ c ≠ ',' ∧ c ≠ '.' := by
  refine ⟨?_, ?_, ?_⟩
  · simp [isBlank] at blank
    simp [isDecimalDigit, Ranges.holds, decimalDigits]
    omega
  · rintro rfl
    contradiction
  · rintro rfl
    contradiction

namespace Extraction

open Pattern

def continuesAmount (c : Char) : Bool := isDecimalDigit c || c == ',' || c == '.'

def startsUnit (c : Char) : Bool := (foldLetter c).isLower || c == '%'

theorem letters_apart : letters.all (fun c => !isBlank c && !continuesAmount c) = true := by
  decide +kernel

theorem startsUnit_apart {c : Char} (starts : startsUnit c = true) :
    isBlank c = false ∧ continuesAmount c = false := by
  rw [startsUnit, Bool.or_eq_true, beq_iff_eq] at starts
  rcases starts with lower | rfl
  · simpa using List.all_eq_true.1 letters_apart c (mem_letters lower)
  · decide

theorem blank_apart_amount {c : Char} (blank : isBlank c = true) : continuesAmount c = false := by
  simp [continuesAmount, blank_apart blank]

theorem amount_commits {q : Pattern} (avoids : q.Avoids continuesAmount) : amount.Commits q := by
  have digits : q.Avoids isDecimalDigit := avoids.mono fun c holds => by simp [continuesAmount, holds]
  have dot : q.Avoids (· == '.') := avoids.mono fun c holds => by simp_all [continuesAmount]
  have separators : q.Avoids fun c => isDecimalDigit c || c == ',' :=
    avoids.mono fun c holds => by simp_all [continuesAmount]
  have starts : (seq (one (· == '.')) (atLeastOne isDecimalDigit)).StartsWith (· == '.') :=
    startsWith_one.seq
  have fraction : (seq (one (· == '.')) (atLeastOne isDecimalDigit)).Commits q :=
    commits_one.seq (commits_one.seq (commits_many digits))
  refine commits_one.seq (.seq (commits_many ?_) (commits_optional fraction starts dot))
  refine .optional (starts.avoids fun c holds => ?_) separators
  rw [beq_iff_eq.1 holds]
  decide +kernel

section Unit

variable {q : Pattern} (starts : q.StartsWith startsUnit)
include starts

theorem blanks_commits : blanks.Commits q :=
  commits_many (starts.avoids fun _ holds => (startsUnit_apart holds).1)

theorem amount_commits_blanks : amount.Commits (seq blanks q) := by
  have both : (seq blanks q).StartsWith fun c => isBlank c || startsUnit c :=
    (starts.mono fun _ holds => by simp [holds]).many fun _ holds => by simp [holds]
  refine amount_commits (both.avoids fun c holds => ?_)
  rcases Bool.or_eq_true _ _ ▸ holds with blank | unit
  · exact blank_apart_amount blank
  · exact (startsUnit_apart unit).2

end Unit

structure AreApart (choices : List Text) : Prop where
  apart : choices.Pairwise fun word other => ¬ word <+: other ∧ ¬ other <+: word
  lower : ∀ word ∈ choices, word.head?.any Char.isLower = true

theorem words_eq (choices : List String) :
    words choices = any ((choices.map String.toList).map
      (Pattern.word fun expected c => foldLetter c == expected)) := by
  rw [words, List.map_map]
  rfl

theorem AreApart.isDeterminate {choices : List String} (areApart : AreApart (choices.map String.toList)) :
    (words choices).IsDeterminate := by
  rw [words_eq]
  exact isDeterminate_words areApart.apart

theorem AreApart.startsWith {choices : List String} (areApart : AreApart (choices.map String.toList)) :
    (words choices).StartsWith fun c => (foldLetter c).isLower := by
  rw [words_eq]
  refine startsWith_words Char.isLower fun word member => ?_
  have lower := areApart.lower word member
  cases word with
  | nil => contradiction
  | cons letter rest => exact ⟨letter, rest, rfl, lower⟩

theorem isGreedy_scaledQuantity : scaledQuantity.IsGreedy := by
  have scales : AreApart (["million", "billion", "trillion"].map String.toList) :=
    ⟨by decide +kernel, by decide +kernel⟩
  have nouns : AreApart (["users", "people", "dollars", "downloads"].map String.toList) :=
    ⟨by decide +kernel, by decide +kernel⟩
  have unit {c : Char} (lower : (foldLetter c).isLower = true) : startsUnit c = true := by
    simp [startsUnit, lower]
  have last := isGreedy_many_optional nouns.isDeterminate.isGreedy
    (nouns.startsWith.avoids fun c lower => (startsUnit_apart (unit lower)).1)
  have scaled := (commits_of_determinate scales.isDeterminate).isGreedy last
  have starts := scales.startsWith.mono fun c => unit
  exact (amount_commits_blanks starts.seq).isGreedy ((blanks_commits starts.seq).isGreedy scaled)

theorem isDeterminate_percentage : percentage.IsDeterminate := by
  have name : AreApart (["percent"].map String.toList) := ⟨by decide +kernel, by decide +kernel⟩
  have sign : (one (· == '%')).Avoids fun c => (foldLetter c).isLower := by
    refine startsWith_one.avoids fun c holds => ?_
    rw [beq_iff_eq.1 holds]
    decide +kernel
  have unit := name.isDeterminate.either isDeterminate_one name.startsWith sign
  have starts : (either (words ["percent"]) (one (· == '%'))).StartsWith startsUnit :=
    (name.startsWith.mono fun c lower => by simp [startsUnit, lower]).either
      (startsWith_one.mono fun c holds => by simp_all [startsUnit])
  exact (amount_commits_blanks starts).isDeterminate ((blanks_commits starts).isDeterminate unit)

theorem isDeterminate_times (n : Nat) : (digit.times n).IsDeterminate := by
  induction n with
  | zero => exact fun text => Nat.le_refl 1
  | succ n ih => exact commits_one.isDeterminate ih

theorem isDeterminate_monthAndYear : monthAndYear.IsDeterminate := by
  have months : AreApart (["january", "february", "march", "april", "may", "june", "july", "august",
      "september", "october", "november", "december"].map String.toList) :=
    ⟨by decide +kernel, by decide +kernel⟩
  have year : fourDigits.Avoids isBlank :=
    startsWith_one.seq.avoids fun c digit => by
      cases blank : isBlank c with
      | false => rfl
      | true => simp [blank_apart blank] at digit
  have between : (atLeastOne isBlank).Commits fourDigits := commits_one.seq (commits_many year)
  exact (commits_of_determinate months.isDeterminate).isDeterminate
    (between.isDeterminate (isDeterminate_times 4))

theorem isGreedy_keyPatterns : ∀ pattern ∈ keyPatterns, pattern.IsGreedy := by
  simp only [keyPatterns, List.forall_mem_cons]
  exact ⟨isGreedy_scaledQuantity, isDeterminate_percentage.isGreedy, isDeterminate_monthAndYear.isGreedy,
    (isDeterminate_times 4).isGreedy, nofun⟩

theorem quotable?_of_occurs {fact : Text} {higher lower : List Pattern} {pattern : Pattern}
    (order : keyPatterns = higher ++ pattern :: lower) (missing : ∀ other ∈ higher, ¬ other.Occurs fact)
    (occurs : pattern.Occurs fact) :
    ∃ before word, pattern.IsLeftmostLongest fact before word ∧ quotable? fact = some (Text.trim word) := by
  have greedy : ∀ other ∈ higher ++ pattern :: lower, other.IsGreedy := order ▸ isGreedy_keyPatterns
  obtain ⟨high, here, -⟩ := List.forall_mem_append.1 greedy |>.imp_right List.forall_mem_cons.1
  have passed : higher.findSome? (fun other => other.search? fact) = none := by
    rw [List.findSome?_eq_none_iff]
    exact fun other member => (high other member).search?_eq_none_iff.2 (missing other member)
  cases found : pattern.search? fact with
  | none => exact absurd occurs (search?_eq_none found)
  | some word =>
    obtain ⟨before, first⟩ := here.search?_eq_some found
    refine ⟨before, word, first, ?_⟩
    rw [quotable?, order, List.findSome?_append, passed, List.findSome?_cons, found]
    rfl

theorem quotable?_of_missing {fact : Text} (missing : ∀ pattern ∈ keyPatterns, ¬ pattern.Occurs fact) :
    quotable? fact = none := by
  rw [quotable?, Option.map_eq_none_iff, List.findSome?_eq_none_iff]
  exact fun pattern member =>
    (isGreedy_keyPatterns pattern member).search?_eq_none_iff.2 (missing pattern member)

theorem takeWhile_sentence {sentence rest : Text} (inside : ∀ c ∈ sentence, endsSentence c = false)
    (ends : ∀ c ∈ rest.head?, endsSentence c = true) :
    (sentence ++ rest).takeWhile (fun c => !endsSentence c) = sentence := by
  rw [List.takeWhile_append_of_pos (by simpa using inside)]
  cases rest with
  | nil => simp
  | cons c rest => simp [ends c rfl]

theorem length_trim_le (text : Text) : (Text.trim text).length ≤ text.length := by
  have front := (List.dropWhile_sublist isBlank (l := text)).length_le
  have back := (List.dropWhile_sublist isBlank (l := (text.dropWhile isBlank).reverse)).length_le
  rw [List.length_reverse] at back
  rw [Text.trim, Text.trimBy, List.length_reverse]
  omega

theorem opening_eq {sentence rest : Text} (inside : ∀ c ∈ sentence, endsSentence c = false)
    (ends : ∀ c ∈ rest.head?, endsSentence c = true) (maxLength : Nat) :
    opening (sentence ++ rest) maxLength =
      if sentence.length ≤ maxLength then Text.trim sentence
      else Text.trim (sentence.take maxLength) ++ "...".toList := by
  have cut : Text.upTo maxLength sentence = sentence.take maxLength := by
    simp [Text.upTo, Text.keptBy, ← List.take_eq_take_min]
  simp only [opening, takeWhile_sentence inside ends, cut, Int.ofNat_le]
  rfl

/-- The first pattern that occurs gives the key information: its longest word at the leftmost place. If
none occurs, the first sentence does, cut to a length. -/
theorem keyInfo_leftmost_longest (fact : Text) (maxLength : Nat) :
    (∀ higher pattern lower, keyPatterns = higher ++ pattern :: lower →
      (∀ other ∈ higher, ¬ other.Occurs fact) → pattern.Occurs fact →
      ∃ before word, pattern.IsLeftmostLongest fact before word ∧
        keyInfo fact maxLength = Text.trim word) ∧
    ((∀ pattern ∈ keyPatterns, ¬ pattern.Occurs fact) →
      ∀ sentence rest, fact = sentence ++ rest → (∀ c ∈ sentence, endsSentence c = false) →
      (∀ c ∈ rest.head?, endsSentence c = true) →
      keyInfo fact maxLength =
        (if sentence.length ≤ maxLength then Text.trim sentence
        else Text.trim (sentence.take maxLength) ++ "...".toList) ∧
      (keyInfo fact maxLength).length ≤ maxLength + 3) := by
  constructor
  · intro higher pattern lower order missing occurs
    obtain ⟨before, word, first, quoted⟩ := quotable?_of_occurs order missing occurs
    exact ⟨before, word, first, by rw [keyInfo, quoted, Option.getD_some]⟩
  · rintro missing sentence rest rfl inside ends
    rw [keyInfo, quotable?_of_missing missing, Option.getD_none, opening_eq inside ends]
    refine ⟨rfl, ?_⟩
    have whole := length_trim_le sentence
    have cut := length_trim_le (sentence.take maxLength)
    rw [List.length_take] at cut
    split
    next short => omega
    next =>
      rw [List.length_append]
      exact Nat.add_le_add (by omega) (by decide)

-- A quantity goes before the year to its left, and a sentence without any is cut.
theorem keyInfo_leftmost_longest_of_people :
    let fact := "In May 2024, 1,500 million people".toList
    let plain := ['H', 'i', ' ', 'y', 'o', 'u', '!', ' ', 'N', 'o']
    scaledQuantity.Occurs fact ∧
      (∃ before word, scaledQuantity.IsLeftmostLongest fact before word ∧
        keyInfo fact (5 : Nat) = Text.trim word) ∧
      (∀ pattern ∈ keyPatterns, ¬ pattern.Occurs plain) ∧
      keyInfo plain (2 : Nat) = "Hi...".toList := by
  intro fact plain
  have found : scaledQuantity.search? fact = some "1,500 million people".toList := by decide +kernel
  obtain ⟨_, first⟩ := isGreedy_scaledQuantity.search?_eq_some found
  have missing : ∀ pattern ∈ keyPatterns, pattern.search? plain = none := by
    simp only [keyPatterns, List.forall_mem_cons]
    exact ⟨by decide +kernel, by decide +kernel, by decide +kernel, by decide +kernel, nofun⟩
  have unquotable : ∀ pattern ∈ keyPatterns, ¬ pattern.Occurs plain :=
    fun pattern member => search?_eq_none (missing pattern member)
  obtain ⟨cut, -⟩ := (keyInfo_leftmost_longest plain 2).2 unquotable ['H', 'i', ' ', 'y', 'o', 'u']
    ['!', ' ', 'N', 'o'] rfl (by simp [endsSentence]) (by simp [endsSentence])
  exact ⟨first.occurs, (keyInfo_leftmost_longest fact 5).1 [] scaledQuantity _ rfl nofun first.occurs,
    unquotable, cut.trans (by decide +kernel)⟩

end Extraction

end DocMarkers
