import DocMarkers.Reference.Topic
import Mathlib.Data.List.DropRight

set_option autoImplicit false

namespace DocMarkers

namespace Text

variable {drops : Char → Bool} {before after text : Text}

theorem mem_of_mem_trimBy {c : Char} (member : c ∈ trimBy drops text) : c ∈ text := by
  have within : c ∈ (text.dropWhile drops).rdropWhile drops := member
  exact (List.dropWhile_suffix _).subset ((List.rdropWhile_prefix drops _).subset within)

theorem head?_trimBy : ∀ c ∈ (trimBy drops text).head?, drops c = false := by
  intro c first
  have begins : trimBy drops text <+: text.dropWhile drops := List.rdropWhile_prefix drops _
  obtain ⟨behind, whole⟩ := begins
  obtain ⟨rest, same⟩ := List.head?_eq_some_iff.1 first
  have stops := List.head?_dropWhile_not drops text
  rwa [← whole, same] at stops

theorem getLast?_trimBy : ∀ c ∈ (trimBy drops text).getLast?, drops c = false := by
  intro c last
  have inhabited : trimBy drops text ≠ [] := List.ne_nil_of_mem (List.mem_of_getLast? last)
  have stops : ¬ drops ((trimBy drops text).getLast inhabited) = true :=
    List.rdropWhile_last_not drops _ inhabited
  rw [List.getLast_of_mem_getLast? last] at stops
  exact Bool.eq_false_iff.2 stops

theorem trimBy_of_ends (first : ∀ c ∈ text.head?, drops c = false)
    (last : ∀ c ∈ text.getLast?, drops c = false) : trimBy drops text = text := by
  have front : text.dropWhile drops = text := by
    cases text with
    | nil => rfl
    | cons c rest => simp [first c rfl]
  have back : text.rdropWhile drops = text := by
    refine List.rdropWhile_eq_self_iff.2 fun some => ?_
    simp [last _ (List.getLast?_eq_getLast_of_ne_nil some)]
  exact (congrArg (List.rdropWhile drops) front).trans back

theorem trimBy_eq_self (kept : ∀ c ∈ text, drops c = false) : trimBy drops text = text :=
  trimBy_of_ends (fun c first => kept c (List.mem_of_mem_head? first))
    (fun c last => kept c (List.mem_of_getLast? last))

theorem trimBy_trimBy (drops : Char → Bool) (text : Text) :
    trimBy drops (trimBy drops text) = trimBy drops text :=
  trimBy_of_ends head?_trimBy getLast?_trimBy

theorem exists_trimmed (drops : Char → Bool) (text : Text) :
    ∃ before after, text = before ++ (trimBy drops text ++ after) ∧
      ∀ c ∈ before ++ after, drops c = true := by
  refine ⟨text.takeWhile drops, (text.dropWhile drops).rtakeWhile drops, ?_, ?_⟩
  · have back : trimBy drops text ++ (text.dropWhile drops).rtakeWhile drops = text.dropWhile drops :=
      List.rdropWhile_append_rtakeWhile
    rw [back, List.takeWhile_append_dropWhile]
  · exact List.forall_mem_append.2
      ⟨fun c => List.mem_takeWhile_imp, fun c => List.mem_rtakeWhile_imp⟩

theorem trimBy_eq_nil (dropped : ∀ c ∈ text, drops c = true) : trimBy drops text = [] := by
  rw [trimBy, List.dropWhile_eq_nil_iff.2 dropped]
  rfl

theorem trimBy_append (dropped : ∀ c ∈ before ++ after, drops c = true) (middle : Text) :
    trimBy drops (before ++ (middle ++ after)) = trimBy drops middle := by
  obtain ⟨front, back⟩ := List.forall_mem_append.1 dropped
  have behind : after.dropWhile drops = [] := List.dropWhile_eq_nil_iff.2 back
  rw [trimBy, trimBy, List.dropWhile_append_of_pos front, List.dropWhile_append]
  cases kept : middle.dropWhile drops with
  | nil => simp [behind]
  | cons c rest =>
    have reversed : ∀ c ∈ after.reverse, drops c = true := fun c member =>
      back c (List.mem_reverse.1 member)
    simp only [List.isEmpty_cons, Bool.false_eq_true, if_false]
    rw [List.reverse_append, List.dropWhile_append_of_pos reversed]

end Text

namespace Topic

section JoinWords

variable {c : Char} {front rest text : Text}

theorem joinWords_of_plain (plain : isBlank c = false) : joinWords (c :: text) = c :: joinWords text := by
  simp [joinWords, plain]

-- Of a run of blanks the last one becomes the underscore.
theorem joinWords_of_blank (blank : isBlank c = true) :
    joinWords (c :: text) = if text.head?.any isBlank then joinWords text else '_' :: joinWords text := by
  rw [joinWords.eq_def]
  simp only [if_pos blank]
  cases text <;> rfl

-- Where two texts meet, no run of blanks may go on from one to the other.
theorem joinWords_append
    (seam : ∀ c ∈ front.getLast?, isBlank c = true → ∀ d ∈ rest.head?, isBlank d = false) :
    joinWords (front ++ rest) = joinWords front ++ joinWords rest := by
  induction front with
  | nil => rfl
  | cons c front ih =>
    have next : joinWords (front ++ rest) = joinWords front ++ joinWords rest := by
      apply ih
      intro d last
      cases front with
      | nil => contradiction
      | cons e front => exact seam d (by simpa using last)
    cases blank : isBlank c with
    | false => simp [joinWords_of_plain blank, next]
    | true =>
      have goesOn : (front ++ rest).head?.any isBlank = front.head?.any isBlank := by
        cases front with
        | nil =>
          have stops := seam c rfl blank
          cases rest with
          | nil => rfl
          | cons d rest => simpa using stops d rfl
        | cons => rfl
      rw [List.cons_append, joinWords_of_blank blank, joinWords_of_blank blank, goesOn, next]
      split <;> rfl

theorem joinWords_append_of_last (last : ∀ c ∈ front.getLast?, isBlank c = false) :
    joinWords (front ++ rest) = joinWords front ++ joinWords rest := by
  apply joinWords_append
  intro c atEnd blank
  rw [last c atEnd] at blank
  contradiction

theorem joinWords_append_of_first (first : ∀ d ∈ rest.head?, isBlank d = false) :
    joinWords (front ++ rest) = joinWords front ++ joinWords rest :=
  joinWords_append fun _ _ _ => first

theorem mem_of_mem_joinWords (member : c ∈ joinWords text) : c = '_' ∨ (c ∈ text ∧ isBlank c = false) := by
  induction text with
  | nil => contradiction
  | cons d rest ih =>
    have later (within : c ∈ joinWords rest) : c = '_' ∨ (c ∈ d :: rest ∧ isBlank c = false) :=
      (ih within).imp_right (And.imp_left (List.mem_cons_of_mem d))
    cases blank : isBlank d with
    | false =>
      rw [joinWords_of_plain blank] at member
      rcases List.mem_cons.1 member with rfl | within
      · exact .inr ⟨List.mem_cons_self, blank⟩
      · exact later within
    | true =>
      rw [joinWords_of_blank blank] at member
      split at member
      next => exact later member
      next =>
        rcases List.mem_cons.1 member with same | within
        · exact .inl same
        · exact later within

theorem not_blank_of_mem_joinWords (member : c ∈ joinWords text) : isBlank c = false := by
  rcases mem_of_mem_joinWords member with rfl | ⟨-, plain⟩
  · decide
  · exact plain

theorem joinWords_eq_self (plain : ∀ c ∈ text, isBlank c = false) : joinWords text = text := by
  induction text with
  | nil => rfl
  | cons c rest ih =>
    obtain ⟨first, later⟩ := List.forall_mem_cons.1 plain
    rw [joinWords_of_plain first, ih later]

end JoinWords

theorem not_blank_of_mem_normalize {topic : Text} {c : Char} (member : c ∈ normalize topic) :
    isBlank c = false :=
  not_blank_of_mem_joinWords (Text.mem_of_mem_trimBy member)

theorem normalize_normalize (topic : Text) : normalize (normalize topic) = normalize topic := by
  have plain : ∀ c ∈ normalize topic, isBlank c = false := fun _ => not_blank_of_mem_normalize
  have trimmed : Text.trim (normalize topic) = normalize topic := Text.trimBy_eq_self plain
  rw [normalize, trimmed, joinWords_eq_self plain]
  exact Text.trimBy_trimBy _ _

end Topic

end DocMarkers
