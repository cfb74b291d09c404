import DocMarkers.Pattern

set_option autoImplicit false

namespace DocMarkers

namespace Pattern

def runs (test : Char → Bool) : Text → List Text
  | [] => [[]]
  | c :: rest => if test c then runs test rest ++ [c :: rest] else [c :: rest]

/-- What is left of a text behind each word that starts it, in the order in which they are tried. -/
def ways : Pattern → Text → List Text
  | never, _ => []
  | empty, text => [text]
  | one _, [] => []
  | one test, c :: rest => if test c then [rest] else []
  | seq p q, text => (p.ways text).flatMap q.ways
  | either p q, text => p.ways text ++ q.ways text
  | many test, text => runs test text

theorem findSome?_flatMap {α β γ : Type} (items : List α) (f : α → List β) (g : β → Option γ) :
    (items.flatMap f).findSome? g = items.findSome? fun item => (f item).findSome? g := by
  induction items with
  | nil => rfl
  | cons item rest ih =>
    rw [List.flatMap_cons, List.findSome?_append, ih, List.findSome?_cons]
    cases (f item).findSome? g <;> rfl

theorem attemptMany_eq {α : Type} (test : Char → Bool) (next : Text → Option α) (text : Text) :
    attemptMany test next text = (runs test text).findSome? next := by
  induction text with
  | nil => simp [attemptMany, runs]
  | cons c rest ih =>
    by_cases holds : test c = true
    next => simp [attemptMany, runs, holds, ih, List.findSome?_append]
    next => simp [attemptMany, runs, holds]

theorem attempt_eq {α : Type} (p : Pattern) (next : Text → Option α) (text : Text) :
    p.attempt next text = (p.ways text).findSome? next := by
  induction p generalizing next text with
  | never => rfl
  | empty => simp [attempt, ways]
  | one test =>
    cases text with
    | nil => rfl
    | cons c rest => by_cases holds : test c = true <;> simp [attempt, ways, holds]
  | seq p q first second =>
    have later : q.attempt next = fun rest => (q.ways rest).findSome? next := funext (second next)
    rw [attempt, first, later, ways, findSome?_flatMap]
  | either p q first second =>
    rw [attempt, first, second, ways, List.findSome?_append, Option.orElse_eq_or]
  | many test => exact attemptMany_eq test next text

theorem first?_eq (p : Pattern) (text : Text) :
    p.first? text = (p.ways text).head?.map fun rest => text.take (text.length - rest.length) := by
  rw [first?, attempt_eq]
  cases p.ways text <;> rfl

theorem mem_runs {test : Char → Bool} {text rest : Text} :
    rest ∈ runs test text ↔ ∃ word, text = word ++ rest ∧ Matches (.many test) word := by
  induction text with
  | nil =>
    simp only [runs, List.mem_singleton]
    constructor
    · rintro rfl
      exact ⟨[], rfl, .stop⟩
    · rintro ⟨word, split, -⟩
      exact (List.append_eq_nil_iff.1 split.symm).2
  | cons c text ih =>
    have here : rest = c :: text → ∃ word, c :: text = word ++ rest ∧ Matches (.many test) word := by
      rintro rfl
      exact ⟨[], rfl, .stop⟩
    by_cases holds : test c = true
    next =>
      simp only [runs, holds, if_true, List.mem_append, List.mem_singleton, ih]
      constructor
      · rintro (⟨word, rfl, run⟩ | same)
        · exact ⟨c :: word, rfl, .more holds run⟩
        · exact here same
      · rintro ⟨word, split, run⟩
        cases run with
        | stop => exact .inr split.symm
        | more _ run =>
          cases split
          exact .inl ⟨_, rfl, run⟩
    next =>
      simp only [runs, holds, Bool.false_eq_true, if_false, List.mem_singleton]
      refine ⟨here, ?_⟩
      rintro ⟨word, split, run⟩
      cases run with
      | stop => exact split.symm
      | more passes _ =>
        cases split
        exact absurd passes holds

theorem mem_ways {p : Pattern} {text rest : Text} :
    rest ∈ p.ways text ↔ ∃ word, text = word ++ rest ∧ Matches p word := by
  induction p generalizing text rest with
  | never => exact ⟨nofun, fun ⟨_, _, word⟩ => nomatch word⟩
  | empty =>
    simp only [ways, List.mem_singleton]
    constructor
    · rintro rfl
      exact ⟨[], rfl, .empty⟩
    · rintro ⟨_, rfl, ⟨⟩⟩
      rfl
  | one test =>
    constructor
    · intro tried
      cases text with
      | nil => nomatch tried
      | cons c text =>
        by_cases holds : test c = true
        next =>
          simp only [ways, holds, if_true, List.mem_singleton] at tried
          exact ⟨[c], by rw [tried, List.singleton_append], .one holds⟩
        next => simp [ways, holds] at tried
    · rintro ⟨word, rfl, whole⟩
      cases whole with
      | one holds => simp [ways, holds]
  | seq p q first second =>
    simp only [ways, List.mem_flatMap, first, second]
    constructor
    · rintro ⟨middle, ⟨front, rfl, start⟩, back, rfl, goesOn⟩
      exact ⟨front ++ back, by rw [List.append_assoc], .seq start goesOn⟩
    · rintro ⟨word, rfl, whole⟩
      cases whole with
      | seq start goesOn => exact ⟨_, ⟨_, List.append_assoc .., start⟩, _, rfl, goesOn⟩
  | either p q first second =>
    simp only [ways, List.mem_append, first, second]
    constructor
    · rintro (⟨word, split, front⟩ | ⟨word, split, back⟩)
      · exact ⟨word, split, .left front⟩
      · exact ⟨word, split, .right back⟩
    · rintro ⟨word, split, whole⟩
      cases whole with
      | left front => exact .inl ⟨word, split, front⟩
      | right back => exact .inr ⟨word, split, back⟩
  | many test => exact mem_runs

theorem length_le_of_mem_ways {p : Pattern} {text rest : Text} (tried : rest ∈ p.ways text) :
    rest.length ≤ text.length := by
  obtain ⟨word, rfl, -⟩ := mem_ways.1 tried
  simp

def IsGreedy (p : Pattern) : Prop :=
  ∀ text, (p.ways text).Pairwise fun rest other => rest.length ≤ other.length

def Occurs (p : Pattern) (text : Text) : Prop :=
  ∃ before word after, text = before ++ (word ++ after) ∧ Matches p word

structure IsLeftmostLongest (p : Pattern) (text before word : Text) : Prop where
  within : ∃ after, text = before ++ (word ++ after)
  isWord : Matches p word
  leftmost : ∀ front other after, text = front ++ (other ++ after) → Matches p other →
    before.length ≤ front.length
  longest : ∀ other after, text = before ++ (other ++ after) → Matches p other →
    other.length ≤ word.length

theorem first?_eq_none {p : Pattern} {text : Text} (missing : p.first? text = none) :
    ∀ word after, text = word ++ after → ¬ Matches p word := by
  intro word after split whole
  rw [first?_eq, Option.map_eq_none_iff, List.head?_eq_none_iff] at missing
  have tried : after ∈ p.ways text := mem_ways.2 ⟨word, split, whole⟩
  rw [missing] at tried
  contradiction

theorem IsGreedy.first?_eq_some {p : Pattern} (greedy : p.IsGreedy) {text word : Text}
    (found : p.first? text = some word) : p.IsLeftmostLongest text [] word := by
  have order := greedy text
  rw [first?_eq] at found
  cases tried : p.ways text with
  | nil =>
    rw [tried] at found
    contradiction
  | cons rest others =>
    rw [tried] at order found
    obtain ⟨first, rfl, whole⟩ := mem_ways.1 (tried ▸ List.mem_cons_self : rest ∈ p.ways text)
    have same : first = word := by simpa using found
    subst same
    refine ⟨⟨rest, rfl⟩, whole, fun _ _ _ _ _ => Nat.zero_le _, fun other after split another => ?_⟩
    rw [List.nil_append] at split
    have behind : rest.length ≤ after.length := by
      have among : after ∈ rest :: others := tried ▸ mem_ways.2 ⟨other, split, another⟩
      rcases List.mem_cons.1 among with rfl | later
      · exact Nat.le_refl _
      · exact (List.pairwise_cons.1 order).1 after later
    have lengths := congrArg List.length split
    simp only [List.length_append] at lengths
    omega

-- The search does not look for a longer word than the one that is tried first.
example : (either (one (· == 'a')) (seq (one (· == 'a')) (one (· == 'b')))).first? ['a', 'b'] =
    some ['a'] := by decide

theorem IsLeftmostLongest.occurs {p : Pattern} {text before word : Text}
    (found : p.IsLeftmostLongest text before word) : p.Occurs text :=
  let ⟨after, split⟩ := found.within
  ⟨before, word, after, split, found.isWord⟩

theorem IsLeftmostLongest.cons {p : Pattern} {c : Char} {text before word : Text}
    (missing : ∀ word after, c :: text = word ++ after → ¬ Matches p word)
    (found : p.IsLeftmostLongest text before word) :
    p.IsLeftmostLongest (c :: text) (c :: before) word := by
  obtain ⟨⟨after, split⟩, whole, leftmost, longest⟩ := found
  refine ⟨⟨after, by rw [split, List.cons_append]⟩, whole, fun front other behind found another => ?_,
    fun other behind found another => longest other behind (List.cons_inj_right c |>.1 found) another⟩
  cases front with
  | nil => exact absurd another (missing other behind found)
  | cons d front => exact Nat.succ_le_succ (leftmost front other behind (List.cons.inj found).2 another)

theorem search?_eq_none {p : Pattern} {text : Text} (missing : p.search? text = none) :
    ¬ p.Occurs text := by
  rintro ⟨before, word, after, rfl, whole⟩
  induction before with
  | nil =>
    have start : p.first? (word ++ after) = none := by
      cases other : word ++ after with
      | nil =>
        rw [List.nil_append, other] at missing
        exact missing
      | cons c rest =>
        rw [List.nil_append, other, search?, Option.orElse_eq_or, Option.or_eq_none_iff] at missing
        exact missing.1
    exact first?_eq_none start word after rfl whole
  | cons c before ih =>
    rw [List.cons_append, search?, Option.orElse_eq_or, Option.or_eq_none_iff] at missing
    exact ih missing.2

theorem IsGreedy.search?_eq_some {p : Pattern} (greedy : p.IsGreedy) {text word : Text}
    (found : p.search? text = some word) : ∃ before, p.IsLeftmostLongest text before word := by
  induction text with
  | nil => exact ⟨[], greedy.first?_eq_some found⟩
  | cons c rest ih =>
    rw [search?] at found
    cases start : p.first? (c :: rest) with
    | none =>
      rw [start] at found
      obtain ⟨before, later⟩ := ih found
      exact ⟨c :: before, later.cons (first?_eq_none start)⟩
    | some first =>
      rw [start] at found
      cases found
      exact ⟨[], greedy.first?_eq_some start⟩

theorem IsGreedy.search?_eq_none_iff {p : Pattern} (greedy : p.IsGreedy) {text : Text} :
    p.search? text = none ↔ ¬ p.Occurs text := by
  refine ⟨search?_eq_none, fun missing => ?_⟩
  cases found : p.search? text with
  | none => rfl
  | some word =>
    obtain ⟨before, first⟩ := greedy.search?_eq_some found
    exact absurd first.occurs missing

end Pattern

end DocMarkers
