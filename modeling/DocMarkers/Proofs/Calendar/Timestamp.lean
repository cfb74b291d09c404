import DocMarkers.Calendar.Timestamp
import DocMarkers.Proofs.Resolution.Template
import Mathlib.Tactic.IntervalCases

set_option autoImplicit false

namespace DocMarkers

namespace Date

def monthLengths (year : Nat) : List Nat :=
  let february := if 4 ∣ year ∧ (100 ∣ year → 400 ∣ year) then 29 else 28
  [31, february, 31, 30, 31, 30, 31, 31, 30, 31, 30, 31]

def IsOfCalendar (date : Date) : Prop :=
  1 ≤ date.year ∧ 1 ≤ date.month ∧ 1 ≤ date.day ∧
    ∃ length ∈ (monthLengths date.year)[date.month - 1]?, date.day ≤ length

instance (date : Date) : Decidable date.IsOfCalendar := inferInstanceAs (Decidable (_ ∧ _ ∧ _ ∧ _))

theorem isLeapYear_iff (year : Nat) :
    isLeapYear year = true ↔ 4 ∣ year ∧ (100 ∣ year → 400 ∣ year) := by
  simp only [isLeapYear, Bool.and_eq_true, Bool.or_eq_true, bne_iff_ne, beq_iff_eq,
    Nat.dvd_iff_mod_eq_zero]
  tauto

theorem getElem?_monthLengths (year : Nat) {month : Nat} (inhabited : 1 ≤ month) :
    (monthLengths year)[month - 1]? =
      if month ≤ 12 then some (daysInMonth year month) else none := by
  split
  next within =>
    simp only [monthLengths, daysInMonth, isLeapYear_iff]
    interval_cases month <;> rfl
  next beyond =>
    rw [List.getElem?_eq_none_iff]
    simp only [monthLengths, List.length_cons, List.length_nil]
    omega

theorem isValid_iff {date : Date} (within : date.year ≤ 9999) :
    date.isValid = true ↔ date.IsOfCalendar := by
  simp only [isValid, IsOfCalendar, Bool.and_eq_true, decide_eq_true_eq]
  constructor
  · rintro ⟨⟨⟨⟨⟨year, -⟩, month⟩, month'⟩, day⟩, day'⟩
    refine ⟨year, month, day, _, ?_, day'⟩
    rw [getElem?_monthLengths _ month, if_pos month']
    rfl
  · rintro ⟨year, month, day, length, present, day'⟩
    rw [getElem?_monthLengths _ month] at present
    split at present
    next month' =>
      obtain rfl := Option.some.inj present
      exact ⟨⟨⟨⟨⟨year, within⟩, month⟩, month'⟩, day⟩, day'⟩
    next => contradiction

end Date

namespace Decimal

theorem foldl_digits_lt {digits : Text} (each : digits.all isAsciiDigit = true) (front : Nat) :
    digits.foldl (fun n c => 10 * n + (c.toNat - '0'.toNat)) front <
      (front + 1) * 10 ^ digits.length := by
  induction digits generalizing front with
  | nil => simp
  | cons c rest ih =>
    rw [List.all_cons, Bool.and_eq_true] at each
    have digit : c.toNat - '0'.toNat ≤ 9 := by
      have last : c ≤ '9' := by simpa [isAsciiDigit] using (Bool.and_eq_true_iff.1 each.1).2
      have last : c.toNat ≤ 57 := last
      change c.toNat - 48 ≤ 9
      omega
    calc rest.foldl _ (10 * front + (c.toNat - '0'.toNat))
        < (10 * front + (c.toNat - '0'.toNat) + 1) * 10 ^ rest.length := ih each.2 _
      _ ≤ (front + 1) * 10 * 10 ^ rest.length := Nat.mul_le_mul_right _ (by omega)
      _ = (front + 1) * 10 ^ (c :: rest).length := by
        rw [List.length_cons, Nat.pow_succ', Nat.mul_assoc]

structure Numeral (places : Nat) where
  text : Text
  length_text : text.length = places
  digits : text.all isAsciiDigit = true

namespace Numeral

variable {places : Nat} (n : Numeral places)

def value : Nat := natOfDigits n.text

theorem value_lt : n.value < 10 ^ places := by
  have bound := foldl_digits_lt n.digits 0
  rwa [n.length_text, Nat.zero_add, Nat.one_mul] at bound

theorem exists_first (inhabited : 0 < places) : ∃ c rest, n.text = c :: rest ∧ isAsciiDigit c = true := by
  cases split : n.text with
  | nil =>
    have none := n.length_text
    rw [split] at none
    exact absurd none (Nat.ne_of_lt inhabited)
  | cons c rest =>
    have each := n.digits
    rw [split, List.all_cons, Bool.and_eq_true] at each
    exact ⟨c, rest, rfl, each.1⟩

end Numeral

theorem mem_numerals {first second third : Nat} {a : Numeral first} {b : Numeral second}
    {c : Numeral third} {mark d : Char} (member : d ∈ a.text ++ mark :: (b.text ++ mark :: c.text)) :
    isAsciiDigit d = true ∨ d = mark := by
  simp only [List.mem_append, List.mem_cons] at member
  rcases member with inside | same | inside | same | inside
  · exact .inl (List.all_eq_true.1 a.digits d inside)
  · exact .inr same
  · exact .inl (List.all_eq_true.1 b.digits d inside)
  · exact .inr same
  · exact .inl (List.all_eq_true.1 c.digits d inside)

end Decimal

open Decimal (Numeral)

structure Stamp where
  year : Numeral 4
  month : Numeral 2
  day : Numeral 2
  hours : Numeral 2
  minutes : Numeral 2
  seconds : Numeral 2
  hours_le : hours.value ≤ 23
  minutes_le : minutes.value ≤ 59
  seconds_le : seconds.value ≤ 59

namespace Stamp

variable (stamp : Stamp)

def date : Date := ⟨stamp.year.value, stamp.month.value, stamp.day.value⟩

def dateText : Text := stamp.year.text ++ '-' :: (stamp.month.text ++ '-' :: stamp.day.text)

def timeText : Text := stamp.hours.text ++ ':' :: (stamp.minutes.text ++ ':' :: stamp.seconds.text)

def text : Text := stamp.dateText ++ 'T' :: (stamp.timeText ++ ['Z'])

theorem mem_dateText {stamp : Stamp} {c : Char} (member : c ∈ stamp.dateText) :
    Decimal.isAsciiDigit c = true ∨ c = '-' :=
  Decimal.mem_numerals member

theorem mem_timeText {stamp : Stamp} {c : Char} (member : c ∈ stamp.timeText) :
    Decimal.isAsciiDigit c = true ∨ c = ':' :=
  Decimal.mem_numerals member

theorem text_ne_nil (stamp : Stamp) : stamp.text ≠ [] := by simp [text]

-- Behind the year a week is told from a month by its first character.
theorem exists_month (stamp : Stamp) : ∃ c rest, stamp.month.text = c :: rest ∧ c ≠ 'W' := by
  obtain ⟨c, rest, first, digit⟩ := stamp.month.exists_first (by decide)
  refine ⟨c, rest, first, ?_⟩
  rintro rfl
  contradiction

theorem length_dateText (stamp : Stamp) : stamp.dateText.length = 10 := by
  simp [dateText, stamp.year.length_text, stamp.month.length_text, stamp.day.length_text]

end Stamp

theorem Text.replaceAll_of_not_mem {c : Char} {front : Text} (value : Text) (lacking : c ∉ front)
    (rest : Text) : replaceAll [c] value (front ++ rest) = front ++ replaceAll [c] value rest := by
  induction front with
  | nil => rfl
  | cons d front ih =>
    obtain ⟨other, lacking⟩ := not_or.1 (mt List.mem_cons.2 lacking)
    have apart : ¬ [c] <+: d :: (front ++ rest) := by simp [other]
    rw [List.cons_append, replaceAll_cons value apart, ih lacking]
    rfl

namespace Timestamp

theorem digits?_numeral {places : Nat} (n : Numeral places) (rest : Text) :
    digits? places (n.text ++ rest) = some (n.value, rest) := by
  simp [digits?, List.take_left' n.length_text, List.drop_left' n.length_text, n.length_text, n.digits,
    Numeral.value]

theorem digits?_numeral_end {places : Nat} (n : Numeral places) :
    digits? places n.text = some (n.value, []) := by
  have read := digits?_numeral n []
  rwa [List.append_nil] at read

theorem monthDate?_numerals (year : Nat) (month day : Numeral 2) :
    monthDate? year true (month.text ++ '-' :: day.text) = some ⟨year, month.value, day.value⟩ := by
  simp [monthDate?, digits?_numeral, digits?_numeral_end, hyphen?]

theorem date?_dateText (stamp : Stamp) :
    date? stamp.dateText = if stamp.date.isValid then some stamp.date else none := by
  have months := monthDate?_numerals stamp.year.value stamp.month stamp.day
  obtain ⟨c, rest, first, notWeek⟩ := stamp.exists_month
  rw [first, List.cons_append] at months
  simp only [date?, Stamp.dateText, digits?_numeral, first, List.cons_append, Option.bind_eq_bind,
    Option.bind_some]
  split
  next rest' same => exact absurd (List.cons.inj same).1 notWeek
  next =>
    rw [months]
    rfl

-- The first colon tells that there are colons between the parts.
theorem parts?_colon (colons : Option Bool) (expected : colons.getD true = true)
    (part next : Numeral 2) (left : Nat) (read : List Nat) (rest : Text) :
    parts? colons (left + 1) read (part.text ++ ':' :: (next.text ++ rest)) =
      parts? (some true) left (part.value :: read) (next.text ++ rest) := by
  obtain ⟨c, more, first, -⟩ := next.exists_first (by decide)
  simp [parts?, digits?_numeral, first, expected]

theorem parts?_last (colons : Option Bool) (part : Numeral 2) (left : Nat) (read : List Nat) :
    parts? colons (left + 1) read part.text = some ((part.value :: read).reverse, true) := by
  simp [parts?, digits?_numeral_end]

theorem clock?_timeText (stamp : Stamp) :
    clock? stamp.timeText =
      some ⟨stamp.hours.value, stamp.minutes.value, stamp.seconds.value, true⟩ := by
  have parts : parts? none 3 [] stamp.timeText =
      some ([stamp.hours.value, stamp.minutes.value, stamp.seconds.value], true) := by
    have last := parts?_last (some true) stamp.seconds 0 [stamp.minutes.value, stamp.hours.value]
    have behind := parts?_colon (some true) rfl stamp.minutes stamp.seconds 1
      [stamp.hours.value] []
    rw [List.append_nil, last] at behind
    exact (parts?_colon none rfl stamp.hours stamp.minutes 2 [] (':' :: stamp.seconds.text)).trans behind
  simp [clock?, parts]

theorem isTime_timeText (stamp : Stamp) : isTime (stamp.timeText ++ '+' :: "00:00".toList) = true := by
  have inside : ∀ c ∈ stamp.timeText, (!startsOffset c) = true := by
    intro c member
    rw [Bool.not_eq_true', Bool.eq_false_iff]
    intro sign
    have sign : c = '+' ∨ c = '-' := by simpa [startsOffset] using sign
    rcases sign with rfl | rfl <;> rcases Stamp.mem_timeText member with digit | colon <;> contradiction
  have time : (stamp.timeText ++ '+' :: "00:00".toList).takeWhile (fun c => !startsOffset c) =
      stamp.timeText := (List.takeWhile_append_of_pos inside).trans (List.append_nil _)
  have behind : (stamp.timeText ++ '+' :: "00:00".toList).dropWhile (fun c => !startsOffset c) =
      '+' :: "00:00".toList := List.dropWhile_append_of_pos inside
  have valid : Clock.isValid ⟨stamp.hours.value, stamp.minutes.value, stamp.seconds.value, true⟩ = true := by
    simp [Clock.isValid, stamp.hours_le, stamp.minutes_le, stamp.seconds_le]
  have offset : (clock? "00:00".toList).any Clock.isOffset = true := by decide
  simp only [isTime, time, behind, clock?_timeText, valid, Bool.true_and]
  exact offset

theorem dateLength_dateText (stamp : Stamp) (rest : Text) :
    dateLength (stamp.dateText ++ rest) = 10 := by
  obtain ⟨c, later, first, notWeek⟩ := stamp.exists_month
  have whole : stamp.dateText ++ rest =
      stamp.year.text ++ '-' :: c :: (later ++ '-' :: (stamp.day.text ++ rest)) := by
    simp [Stamp.dateText, first]
  have long : (stamp.dateText ++ rest).length ≠ 7 := by
    rw [List.length_append, stamp.length_dateText]
    omega
  have hyphen : (stamp.dateText ++ rest)[4]? = some '-' := by
    rw [whole, List.getElem?_append_right (by simp [stamp.year.length_text]), stamp.year.length_text]
    rfl
  have month : (stamp.dateText ++ rest)[5]? = some c := by
    rw [whole, List.getElem?_append_right (by simp [stamp.year.length_text]), stamp.year.length_text]
    rfl
  rw [dateLength, if_neg long, if_pos hyphen, month, if_neg (by simpa using notWeek)]

theorem replaceAll_text (stamp : Stamp) :
    Text.replaceAll ['Z'] "+00:00".toList stamp.text =
      stamp.dateText ++ 'T' :: (stamp.timeText ++ "+00:00".toList) := by
  have date : 'Z' ∉ stamp.dateText := fun member => by
    rcases Stamp.mem_dateText member with digit | hyphen <;> contradiction
  have time : 'Z' ∉ stamp.timeText := fun member => by
    rcases Stamp.mem_timeText member with digit | colon <;> contradiction
  have front : 'Z' ∉ stamp.dateText ++ 'T' :: stamp.timeText := by simp [date, time]
  have whole : stamp.text = stamp.dateText ++ 'T' :: stamp.timeText ++ (['Z'] ++ []) := by
    simp [Stamp.text]
  rw [whole, Text.replaceAll_of_not_mem _ front, Text.replaceAll_append_self _ (List.cons_ne_nil 'Z' [])]
  simp [Text.replaceAll, Text.replaceFrom]

theorem readZulu?_text (stamp : Stamp) :
    readZulu? stamp.text = if stamp.date.isValid then some stamp.date else none := by
  let behind := 'T' :: (stamp.timeText ++ "+00:00".toList)
  have front : (stamp.dateText ++ behind).take 10 = stamp.dateText :=
    List.take_left' stamp.length_dateText
  have back : (stamp.dateText ++ behind).drop 10 = behind := List.drop_left' stamp.length_dateText
  have long : ¬ (stamp.dateText ++ behind).length < 7 := by
    rw [List.length_append, stamp.length_dateText]
    omega
  rw [readZulu?, replaceAll_text, read?, if_neg long]
  simp only [dateLength_dateText, behind, front, back, date?_dateText]
  cases stamp.date.isValid with
  | false => rfl
  | true => exact if_pos (isTime_timeText stamp)

theorem readZulu?_stamp (stamp : Stamp) :
    readZulu? stamp.text = if stamp.date.IsOfCalendar then some stamp.date else none := by
  have within : stamp.date.year ≤ 9999 := Nat.le_of_lt_succ stamp.year.value_lt
  rw [readZulu?_text]
  exact if_congr (Date.isValid_iff within) rfl rfl

end Timestamp

end DocMarkers
