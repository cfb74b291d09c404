import DocMarkers.Sorting.Search

set_option autoImplicit false

namespace DocMarkers

namespace Sorting

variable {α : Type} {passes : α → Bool} {items : List α} {place : Nat}

theorem Middle.place_within (middle : Middle) {low high : Nat} (between : low < high) :
    low ≤ middle.place low high ∧ middle.place low high < high := by
  cases middle <;> simp only [Middle.place] <;> omega

structure SplitsAt (passes : α → Bool) (items : List α) (place : Nat) : Prop where
  within : place ≤ items.length
  front : ∀ item ∈ items.take place, passes item = true
  back : ∀ item ∈ items.drop place, passes item = false

theorem splitsAt_takeWhile
    (ordered : items.Pairwise fun first second => passes second = true → passes first = true) :
    SplitsAt passes items (items.takeWhile passes).length := by
  induction items with
  | nil => exact ⟨Nat.le_refl _, nofun, nofun⟩
  | cons item rest ih =>
    obtain ⟨first, ordered⟩ := List.pairwise_cons.1 ordered
    by_cases here : passes item = true
    next =>
      obtain ⟨within, front, back⟩ := ih ordered
      rw [List.takeWhile_cons_of_pos here, List.length_cons]
      exact ⟨Nat.succ_le_succ within, List.forall_mem_cons.2 ⟨here, front⟩, back⟩
    next =>
      rw [List.takeWhile_cons_of_neg here]
      refine ⟨Nat.zero_le _, nofun, List.forall_mem_cons.2 ⟨by simpa using here, fun other member => ?_⟩⟩
      by_cases later : passes other = true
      next => exact absurd (first other member later) here
      next => simpa using later

namespace SplitsAt

theorem any_getElem? (splits : SplitsAt passes items place) {index : Nat}
    (inside : index < items.length) : (items.toArray[index]?).any passes = decide (index < place) := by
  have found : items.toArray[index]? = some items[index] := by simp [inside]
  rw [found, Option.any_some]
  by_cases before : index < place
  next =>
    have member : items[index] ∈ items.take place :=
      List.mem_take_iff_getElem.2 ⟨index, by omega, rfl⟩
    simp [before, splits.front _ member]
  next =>
    have member : items[index] ∈ items.drop place := by
      refine List.mem_drop_iff_getElem.2 ⟨index - place, by omega, ?_⟩
      congr 1
      omega
    simp [before, splits.back _ member]

theorem countBetween (splits : SplitsAt passes items place) (middle : Middle) {low high : Nat}
    (above : low ≤ place) (below : place ≤ high) (inside : high ≤ items.length) :
    countBetween middle passes items.toArray low high = place := by
  fun_induction Sorting.countBetween middle passes items.toArray low high with
  | case1 low high between mid passed ih =>
    have bounds : low ≤ mid ∧ mid < high := middle.place_within between
    rw [splits.any_getElem? (by omega), decide_eq_true_iff] at passed
    exact ih (by omega) below inside
  | case2 low high between mid failed ih =>
    have bounds : low ≤ mid ∧ mid < high := middle.place_within between
    rw [splits.any_getElem? (by omega), decide_eq_true_iff] at failed
    exact ih above (by omega) (by omega)
  | case3 low high apart => omega

theorem countFrom (splits : SplitsAt passes items place) (middle : Middle) {last next : Nat}
    (above : last < place) : countFrom middle passes items.toArray last next = place := by
  have within := splits.within
  fun_induction Sorting.countFrom middle passes items.toArray last next with
  | case1 last next inside passed ih =>
    rw [List.size_toArray] at inside
    rw [splits.any_getElem? inside.2, decide_eq_true_iff] at passed
    exact ih passed
  | case2 last next inside failed =>
    rw [List.size_toArray] at inside
    rw [splits.any_getElem? inside.2, decide_eq_true_iff] at failed
    exact splits.countBetween middle above (by omega) (by omega)
  | case3 last next outside =>
    rw [List.size_toArray]
    exact splits.countBetween middle above within (Nat.le_refl _)

theorem count (splits : SplitsAt passes items place) (middle : Middle) :
    count middle passes items = place := by
  unfold Sorting.count
  cases items with
  | nil => exact (Nat.le_zero.1 splits.within).symm
  | cons item rest =>
    have first : passes item = decide (0 < place) := splits.any_getElem? (Nat.succ_pos rest.length)
    rw [List.head?_cons, Option.any_some, first]
    by_cases some : 0 < place
    next => simpa [some] using splits.countFrom middle some
    next =>
      have none : place = 0 := by omega
      simp [none]

end SplitsAt

theorem count_splitsAt (middle : Middle)
    (ordered : items.Pairwise fun first second => passes second = true → passes first = true) :
    SplitsAt passes items (count middle passes items) := by
  have splits := splitsAt_takeWhile ordered
  rwa [splits.count middle]

end Sorting

end DocMarkers
