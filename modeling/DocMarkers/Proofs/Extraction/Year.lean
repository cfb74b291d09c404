import DocMarkers.Pattern
import DocMarkers.Proofs.Extraction.KeyInfo
import DocMarkers.Proofs.Lookup.Topic

set_option autoImplicit false

namespace DocMarkers

namespace Extraction

open Pattern

structure IsWhole (before after : Text) : Prop where
  starts : ∀ c ∈ before.getLast?, isDecimalDigit c = false
  ends : ∀ c ∈ after.head?, isDecimalDigit c = false

instance (before after : Text) : Decidable (IsWhole before after) :=
  decidable_of_iff
    (before.getLast?.any isDecimalDigit = false ∧ after.head?.any isDecimalDigit = false) (by
      simp only [Option.any_eq_false]
      exact ⟨fun both => ⟨both.1, both.2⟩, fun whole => ⟨whole.starts, whole.ends⟩⟩)

structure IsNumber (before digits after : Text) : Prop extends IsWhole before after where
  digits : ∀ c ∈ digits, isDecimalDigit c = true

theorem matches_times {n : Nat} {word : Text} :
    Matches (digit.times n) word ↔ word.length = n ∧ ∀ c ∈ word, isDecimalDigit c = true := by
  induction n generalizing word with
  | zero =>
    constructor
    · intro whole
      cases whole
      exact ⟨rfl, nofun⟩
    · rintro ⟨short, -⟩
      rw [List.length_eq_zero_iff.1 short]
      exact .empty
  | succ n ih =>
    rw [times, matches_seq]
    constructor
    · rintro ⟨_, rest, rfl, first, later⟩
      cases first with | one holds
      obtain ⟨length, digits⟩ := ih.1 later
      exact ⟨by simp [length], List.forall_mem_cons.2 ⟨holds, digits⟩⟩
    · rintro ⟨length, digits⟩
      cases word with
      | nil => contradiction
      | cons c rest =>
        obtain ⟨holds, digits⟩ := List.forall_mem_cons.1 digits
        exact ⟨[c], rest, rfl, .one holds, ih.2 ⟨Nat.succ.inj length, digits⟩⟩

theorem trim_digits {digits : Text} (all : ∀ c ∈ digits, isDecimalDigit c = true) :
    Text.trim digits = digits := by
  refine Text.trimBy_eq_self fun c member => ?_
  cases blank : isBlank c with
  | false => rfl
  | true => simpa [all c member] using blank_apart blank

-- With a digit before them the four digits would have been found one place earlier.
theorem unpreceded_of_found {fact before year : Text}
    (found : fourDigits.IsLeftmostLongest fact before year) :
    ∀ c ∈ before.getLast?, isDecimalDigit c = false := by
  intro last stands
  obtain ⟨front, rfl⟩ := List.getLast?_eq_some_iff.1 stands
  obtain ⟨after, split⟩ := found.within
  obtain ⟨length, digits⟩ := matches_times.1 found.isWord
  refine Bool.eq_false_iff.2 fun holds => ?_
  have shifted : Matches fourDigits (last :: year.take 3) :=
    matches_times.2 ⟨by simp [length], List.forall_mem_cons.2
      ⟨holds, fun c member => digits c (List.mem_of_mem_take member)⟩⟩
  have earlier := found.leftmost front (last :: year.take 3) (year.drop 3 ++ after)
    (by simp [split, ← List.append_assoc (year.take 3)]) shifted
  rw [List.length_append, List.length_singleton] at earlier
  omega

theorem exists_number_of_found {fact before year : Text}
    (found : fourDigits.IsLeftmostLongest fact before year) :
    ∃ number after, fact = before ++ (number ++ after) ∧ IsNumber before number after ∧
      number.take 4 = year ∧ 4 ≤ number.length := by
  obtain ⟨behind, split⟩ := found.within
  obtain ⟨length, digits⟩ := matches_times.1 found.isWord
  refine ⟨year ++ behind.takeWhile isDecimalDigit, behind.dropWhile isDecimalDigit, ?_, ?_, ?_, ?_⟩
  · rw [List.append_assoc, List.takeWhile_append_dropWhile, split]
  · refine ⟨⟨unpreceded_of_found found, fun c first => ?_⟩,
      List.forall_mem_append.2 ⟨digits, fun c => List.mem_takeWhile_imp⟩⟩
    have stops := List.head?_dropWhile_not isDecimalDigit behind
    rwa [Option.mem_def.1 first] at stops
  · rw [← length, List.take_left]
  · rw [List.length_append]
    omega

-- Whatever is left of a number is a digit that follows what was taken of it.
theorem IsNumber.isWhole_iff {before number after : Text} (isNumber : IsNumber before number after)
    {taken : Nat} (within : taken ≤ number.length) :
    IsWhole before (number.drop taken ++ after) ↔ number.length = taken := by
  constructor
  · intro whole
    cases left : number.drop taken with
    | nil => exact Nat.le_antisymm (List.drop_eq_nil_iff.1 left) within
    | cons c rest =>
      have member : c ∈ number := List.mem_of_mem_drop (left ▸ List.mem_cons_self)
      have apart := whole.ends c (by rw [left]; rfl)
      rw [isNumber.digits c member] at apart
      contradiction
  · intro all
    rw [← all, List.drop_length, List.nil_append]
    exact isNumber.toIsWhole

/-- A fact that has four digits together and nothing better is quoted by the first four digits of a number,
at the first place where four digits stand. No digit precedes them, and none follows them exactly if the
number has no others. -/
theorem year_opens_number {fact : Text}
    (plain : ∀ other ∈ [scaledQuantity, percentage, monthAndYear], ¬ other.Occurs fact)
    (occurs : fourDigits.Occurs fact) (maxLength : Int) :
    ∃ before number after, fact = before ++ (number ++ after) ∧ IsNumber before number after ∧
      fourDigits.IsLeftmostLongest fact before (number.take 4) ∧
      keyInfo fact maxLength = number.take 4 ∧
      (IsWhole before (number.drop 4 ++ after) ↔ number.length = 4) := by
  have last : keyPatterns = [scaledQuantity, percentage, monthAndYear] ++ [fourDigits] := rfl
  obtain ⟨before, year, found, quoted⟩ := quotable?_of_occurs last plain occurs
  obtain ⟨number, after, split, isNumber, opens, long⟩ := exists_number_of_found found
  have digits := (matches_times.1 found.isWord).2
  refine ⟨before, number, after, split, isNumber, opens ▸ found, ?_, isNumber.isWhole_iff long⟩
  rw [keyInfo, quoted, Option.getD_some, trim_digits digits, opens]

def route : Text := "Route 12345 of 1998".toList

theorem nothing_better_on_route :
    ∀ other ∈ [scaledQuantity, percentage, monthAndYear], ¬ other.Occurs route := by
  simp only [List.forall_mem_cons]
  exact ⟨search?_eq_none (by decide +kernel), search?_eq_none (by decide +kernel),
    search?_eq_none (by decide +kernel), nofun⟩

theorem fourDigits_on_route : fourDigits.Occurs route :=
  ⟨"Route ".toList, "1234".toList, "5 of 1998".toList, rfl,
    matches_times.2 ⟨rfl, List.all_eq_true.1 (by decide +kernel)⟩⟩

theorem year_opens_number_of_route :
    (∀ other ∈ [scaledQuantity, percentage, monthAndYear], ¬ other.Occurs route) ∧
      fourDigits.Occurs route ∧
      ∃ before number after, route = before ++ (number ++ after) ∧ IsNumber before number after ∧
        keyInfo route 100 = number.take 4 ∧
        (IsWhole before (number.drop 4 ++ after) ↔ number.length = 4) := by
  obtain ⟨before, number, after, split, isNumber, -, info, whole⟩ :=
    year_opens_number nothing_better_on_route fourDigits_on_route 100
  exact ⟨nothing_better_on_route, fourDigits_on_route, before, number, after, split, isNumber, info, whole⟩

theorem year_cut_from_number :
    ¬ ∀ fact, (∀ other ∈ [scaledQuantity, percentage, monthAndYear], ¬ other.Occurs fact) →
      fourDigits.Occurs fact →
      ∃ before after, fact = before ++ (keyInfo fact ++ after) ∧ IsWhole before after := by
  intro whole
  obtain ⟨before, after, split, isWhole⟩ :=
    whole route nothing_better_on_route fourDigits_on_route
  have quoted : keyInfo route = "1234".toList := by decide +kernel
  rw [quoted] at split
  -- The place of the digits is one of those that the fact has.
  have cut : ∀ place ≤ route.length,
      route = route.take place ++ ("1234".toList ++ route.drop (place + 4)) →
        ¬ IsWhole (route.take place) (route.drop (place + 4)) := by
    decide +kernel
  have front : route.take before.length = before := by rw [split, List.take_left]
  have back : route.drop (before.length + 4) = after := by
    rw [split, ← List.drop_drop, List.drop_left]
    rfl
  have within : before.length ≤ route.length := by
    rw [split, List.length_append]
    exact Nat.le_add_right _ _
  have never := cut before.length within
  rw [front, back] at never
  exact never split isWhole

end Extraction

end DocMarkers
