import DocMarkers.Marker.Parameters
import DocMarkers.Proofs.Lookup.Topic
import Mathlib.Data.List.Forall2

set_option autoImplicit false

namespace DocMarkers

namespace Text

section Separator

variable {separator : Char} {part : Text}

theorem splitOn_of_not_mem (free : separator ∉ part) : splitOn separator part = [part] := by
  induction part with
  | nil => rfl
  | cons c rest ih =>
    obtain ⟨other, free⟩ := not_or.1 (mt List.mem_cons.2 free)
    simp [splitOn, Ne.symm other, ih free]

theorem splitOn_append (free : separator ∉ part) (rest : Text) :
    splitOn separator (part ++ separator :: rest) = part :: splitOn separator rest := by
  induction part with
  | nil => simp [splitOn]
  | cons c part ih =>
    obtain ⟨other, free⟩ := not_or.1 (mt List.mem_cons.2 free)
    simp [splitOn, Ne.symm other, ih free]

theorem splitOn_join {parts : List Text} (some : parts ≠ []) (free : ∀ part ∈ parts, separator ∉ part) :
    splitOn separator (join [separator] parts) = parts := by
  induction parts with
  | nil => contradiction
  | cons part rest ih =>
    obtain ⟨here, later⟩ := List.forall_mem_cons.1 free
    cases rest with
    | nil => exact splitOn_of_not_mem here
    | cons other rest =>
      have more := List.cons_ne_nil other rest
      rw [join_cons _ _ more, List.append_assoc, List.singleton_append, splitOn_append here,
        ih more later]

theorem cut_of_not_mem (free : separator ∉ part) : cut separator part = (part, none) := by
  induction part with
  | nil => rfl
  | cons c rest ih =>
    obtain ⟨other, free⟩ := not_or.1 (mt List.mem_cons.2 free)
    simp [cut, Ne.symm other, ih free]

theorem cut_append_separator (free : separator ∉ part) (rest : Text) :
    cut separator (part ++ separator :: rest) = (part, some rest) := by
  induction part with
  | nil => simp [cut]
  | cons c part ih =>
    obtain ⟨other, free⟩ := not_or.1 (mt List.mem_cons.2 free)
    simp [cut, Ne.symm other, ih free]

end Separator

structure IsTrimmed (text : Text) : Prop where
  first : ∀ c ∈ text.head?, isBlank c = false
  last : ∀ c ∈ text.getLast?, isBlank c = false

def IsPadded (text padded : Text) : Prop :=
  ∃ before after, padded = before ++ (text ++ after) ∧ ∀ c ∈ before ++ after, isBlank c = true

theorem isPadded_refl (text : Text) : IsPadded text text :=
  ⟨[], [], by simp, nofun⟩

theorem isTrimmed_trim (text : Text) : (trim text).IsTrimmed :=
  ⟨head?_trimBy, getLast?_trimBy⟩

theorem trim_of_isTrimmed {text : Text} (trimmed : text.IsTrimmed) : trim text = text :=
  trimBy_of_ends trimmed.first trimmed.last

theorem isTrimmed_iff {text : Text} : text.IsTrimmed ↔ trim text = text :=
  ⟨trim_of_isTrimmed, fun same => same ▸ isTrimmed_trim text⟩

theorem isPadded_trim (text : Text) : IsPadded (trim text) text :=
  exists_trimmed isBlank text

end Text

namespace SplitMode

def Admits : SplitMode → List Text → Prop
  | everyColon, parts => ∀ part ∈ parts, ':' ∉ part ∧ part.IsTrimmed
  | firstColon, [part] => ':' ∉ part ∧ part.IsTrimmed
  | firstColon, [head, tail] => (':' ∉ head ∧ head.IsTrimmed) ∧ tail.IsTrimmed
  | whole, [_] => True
  | _, _ => False

def IsJoined (parts : List Text) (raw : Text) : Prop :=
  ∃ padded, List.Forall₂ Text.IsPadded parts padded ∧ Text.join [':'] padded = raw

theorem split_of_ne_nil (mode : SplitMode) {raw : Text} (filled : raw ≠ []) :
    mode.split (some raw) = mode.arguments raw := by
  cases raw with
  | nil => contradiction
  | cons c rest => rfl

theorem firstColon_cases (raw : Text) :
    (':' ∉ raw ∧ firstColon.arguments raw = [Text.trim raw]) ∨
      ∃ head tail, ':' ∉ head ∧ raw = head ++ ':' :: tail ∧
        firstColon.arguments raw = [Text.trim head, Text.trim tail] := by
  have whole := Text.cut_append ':' raw
  have free := Text.not_mem_cut ':' raw
  rcases cut : Text.cut ':' raw with ⟨head, _ | tail⟩ <;> rw [cut] at whole free
  · obtain rfl : head = raw := by simpa using whole
    exact .inl ⟨free, by simp [arguments, cut]⟩
  · exact .inr ⟨head, tail, free, whole.symm, by simp [arguments, cut]⟩

theorem isJoined_arguments (mode : SplitMode) (raw : Text) : IsJoined (mode.arguments raw) raw := by
  cases mode with
  | everyColon =>
    refine ⟨Text.splitOn ':' raw, ?_, Text.join_splitOn ':' raw⟩
    exact List.forall₂_map_left_iff.2 (List.forall₂_same.2 fun part _ => Text.isPadded_trim part)
  | firstColon =>
    rcases firstColon_cases raw with ⟨-, one⟩ | ⟨head, tail, -, rfl, two⟩
    · rw [one]
      exact ⟨[raw], .cons (Text.isPadded_trim raw) .nil, rfl⟩
    · rw [two]
      exact ⟨[head, tail], .cons (Text.isPadded_trim head) (.cons (Text.isPadded_trim tail) .nil),
        by simp [Text.join]⟩
  | whole => exact ⟨[raw], .cons (Text.isPadded_refl raw) .nil, rfl⟩

theorem not_mem_trim {c : Char} {text : Text} (free : c ∉ text) : c ∉ Text.trim text :=
  fun member => free (Text.mem_of_mem_trimBy member)

theorem admits_arguments (mode : SplitMode) (raw : Text) : mode.Admits (mode.arguments raw) := by
  cases mode with
  | everyColon =>
    refine List.forall_mem_map.2 fun part member => ⟨?_, Text.isTrimmed_trim part⟩
    exact not_mem_trim (Text.not_mem_of_mem_splitOn member)
  | firstColon =>
    rcases firstColon_cases raw with ⟨free, one⟩ | ⟨head, tail, free, -, two⟩
    · rw [one]
      exact ⟨not_mem_trim free, Text.isTrimmed_trim raw⟩
    · rw [two]
      exact ⟨⟨not_mem_trim free, Text.isTrimmed_trim head⟩, Text.isTrimmed_trim tail⟩
  | whole => trivial

theorem arguments_join {mode : SplitMode} {parts : List Text} (admitted : mode.Admits parts)
    (filled : Text.join [':'] parts ≠ []) : mode.arguments (Text.join [':'] parts) = parts := by
  cases mode with
  | everyColon =>
    have some : parts ≠ [] := by
      rintro rfl
      exact filled rfl
    have kept : ∀ part ∈ parts, Text.trim part = part := fun part member =>
      Text.trim_of_isTrimmed (admitted part member).2
    rw [arguments, Text.splitOn_join some fun part member => (admitted part member).1,
      List.map_congr_left kept, List.map_id']
  | firstColon =>
    rcases parts with _ | ⟨head, _ | ⟨tail, _ | _⟩⟩
    · exact admitted.elim
    · obtain ⟨free, trimmed⟩ := admitted
      simp [arguments, Text.join, Text.cut_of_not_mem free, Text.trim_of_isTrimmed trimmed]
    · obtain ⟨⟨free, trimmed⟩, trimmed'⟩ := admitted
      simp [arguments, Text.join, Text.cut_append_separator free, Text.trim_of_isTrimmed trimmed,
        Text.trim_of_isTrimmed trimmed']
    · exact admitted.elim
  | whole =>
    rcases parts with _ | ⟨part, _ | _⟩
    · exact admitted.elim
    · rfl
    · exact admitted.elim

/-- Of parameters that are not empty, splitting loses nothing but blanks at the ends of arguments. The
text of the arguments is split into the same arguments again, and so is the text of all others that a mode
can give. -/
theorem splitting_recoverable {raw : Text} (filled : raw ≠ []) :
    (∀ mode : SplitMode,
      let parts := mode.split (some raw)
      mode.Admits parts ∧ IsJoined parts raw ∧
        (Text.join [':'] parts ≠ [] → mode.split (some (Text.join [':'] parts)) = parts)) ∧
    (everyColon.split (some raw)).length = raw.count ':' + 1 ∧
    (':' ∉ raw → firstColon.split (some raw) = [Text.trim raw]) ∧
    (':' ∈ raw → ∃ head tail, firstColon.split (some raw) = [head, tail]) ∧
    whole.split (some raw) = [raw] ∧
    ∀ (mode : SplitMode) (parts : List Text), mode.Admits parts → Text.join [':'] parts ≠ [] →
      mode.split (some (Text.join [':'] parts)) = parts := by
  have recovered (mode : SplitMode) (parts : List Text) (admitted : mode.Admits parts)
      (more : Text.join [':'] parts ≠ []) : mode.split (some (Text.join [':'] parts)) = parts := by
    rw [split_of_ne_nil mode more, arguments_join admitted more]
  have split (mode : SplitMode) : mode.split (some raw) = mode.arguments raw :=
    split_of_ne_nil mode filled
  refine ⟨fun mode => ?_, ?_, fun free => ?_, fun present => ?_, ?_, recovered⟩
  · rw [split]
    have admitted := admits_arguments mode raw
    exact ⟨admitted, isJoined_arguments mode raw, recovered mode _ admitted⟩
  · rw [split, arguments, List.length_map, Text.length_splitOn]
  · rw [split]
    rcases firstColon_cases raw with ⟨-, one⟩ | ⟨head, tail, -, rfl, -⟩
    · exact one
    · exact absurd (List.mem_append_right head List.mem_cons_self) free
  · rw [split]
    rcases firstColon_cases raw with ⟨free, -⟩ | ⟨head, tail, -, -, two⟩
    · exact absurd present free
    · exact ⟨_, _, two⟩
  · rw [split, arguments]

-- The second argument is a blank of its own, and the last one is empty.
theorem splitting_recoverable_of_blanks :
    let raw := " a b:\u00a0:".toList
    let parts := ["a b".toList, [], []]
    raw ≠ [] ∧ everyColon.Admits parts ∧ Text.join [':'] parts = "a b::".toList ∧
      everyColon.split (some raw) = parts ∧ everyColon.split (some "a b::".toList) = parts ∧
      (∃ head tail, firstColon.split (some raw) = [head, tail]) ∧
      firstColon.split (some " a b".toList) = ["a b".toList] ∧
      whole.split (some raw) = [raw] ∧ firstColon.Admits ["a".toList, "b: c".toList] ∧
      firstColon.split (some "a:b: c".toList) = ["a".toList, "b: c".toList] := by
  intro raw parts
  have filled : raw ≠ [] := by decide
  have filled' : " a b".toList ≠ [] := by decide
  have split : everyColon.split (some raw) = parts := by decide
  obtain ⟨each, -, -, two, all, recovered⟩ := splitting_recoverable filled
  obtain ⟨admitted, -, again⟩ := each everyColon
  obtain ⟨-, -, one, -⟩ := splitting_recoverable filled'
  rw [split] at admitted again
  have free : firstColon.Admits ["a".toList, "b: c".toList] :=
    ⟨⟨by decide, Text.isTrimmed_iff.2 (by decide)⟩, Text.isTrimmed_iff.2 (by decide)⟩
  exact ⟨filled, admitted, by decide, split, again (by decide), two (by decide),
    (one (by decide)).trans (by decide), all, free, recovered firstColon _ free (by decide)⟩

end SplitMode

end DocMarkers
