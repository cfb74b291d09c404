import DocMarkers.Proofs.Sorting.Merge
import DocMarkers.Sorting

set_option autoImplicit false

namespace DocMarkers

namespace Sorting

variable {α : Type} {lt : α → α → Bool}

section Run

theorem IsSorted.cons {lt : α → α → Bool} (order : IsWeakOrder lt) {first second : α} {rest : List α}
    (sorted : IsSorted lt (second :: rest)) (apart : lt second first = false) :
    IsSorted lt (first :: second :: rest) := by
  refine List.pairwise_cons.2 ⟨fun other member => ?_, sorted⟩
  exact order.trans apart (sorted.head_le order other member)

-- A falling run stands in the order that is turned round.
theorem runFrom_sorted {lt' : α → α → Bool} (order : IsWeakOrder lt') {falling : Bool}
    (goesOn : ∀ {first second}, lt second first = falling → lt' second first = false)
    (last : α) (items : List α) : IsSorted lt' (last :: (runFrom lt falling last items).1) := by
  fun_induction runFrom lt falling last items with
  | case1 => exact List.pairwise_singleton _ _
  | case2 last item rest same run others split ih =>
    rw [split] at ih
    exact ih.cons order (goesOn (by simpa using same))
  | case3 => exact List.pairwise_singleton _ _

variable (order : IsWeakOrder lt)
include order

theorem frontRun_sorted (items : List α) : IsSorted lt (frontRun lt items).1 := by
  fun_cases frontRun lt items with
  | case1 first second rest falling run others split =>
    have found (lt' : α → α → Bool) (order : IsWeakOrder lt')
        (goesOn : ∀ {first second}, lt second first = falling → lt' second first = false) :
        IsSorted lt' (first :: second :: run) := by
      have sorted := runFrom_sorted order goesOn second rest
      rw [split] at sorted
      exact sorted.cons order (goesOn rfl)
    dsimp only
    cases falls : falling with
    | true =>
      have turned := found _ order.swap fun same => order.asymm (same.trans falls)
      exact isSorted_reverse.2 turned
    | false => exact found lt order fun same => same.trans falls
  | case2 items short =>
    cases items with
    | nil => exact .nil
    | cons first rest =>
      cases rest with
      | nil => exact List.pairwise_singleton _ _
      | cons second rest => exact absurd rfl (short first second rest)

theorem insert_sorted {sorted : List α} (isSorted : IsSorted lt sorted) (item : α) :
    IsSorted lt (insert lt sorted item) := by
  have splits := count_before order isSorted item
  have same := splits.countBetween .upper (Nat.zero_le _) splits.within (Nat.le_refl _)
  unfold insert
  rw [same]
  generalize count .upper (fun other => !lt item other) sorted = place at splits
  obtain ⟨front, back, across⟩ := isSorted.cut place
  refine List.pairwise_append.2 ⟨front, List.pairwise_cons.2 ⟨fun other member => ?_, back⟩, ?_⟩
  · exact order.asymm (by simpa using splits.back other member)
  · intro other member
    exact List.forall_mem_cons.2 ⟨by simpa using splits.front other member, across other member⟩

theorem foldl_insert_sorted {sorted : List α} (isSorted : IsSorted lt sorted) (others : List α) :
    IsSorted lt (others.foldl (insert lt) sorted) := by
  induction others generalizing sorted with
  | nil => exact isSorted
  | cons item others ih => exact ih (insert_sorted order isSorted item)

theorem longRun_sorted (least : Nat) (items : List α) : IsSorted lt (longRun lt least items).1 :=
  foldl_insert_sorted order (frontRun_sorted order items) _

end Run

theorem frontRun_ne_nil (lt : α → α → Bool) {items : List α} (some : items ≠ []) :
    (frontRun lt items).1 ≠ [] := by
  fun_cases frontRun lt items with
  | case1 first second rest falling run others split =>
    dsimp only
    split <;> simp
  | case2 => exact some

theorem length_longRun_lt (lt : α → α → Bool) (least : Nat) {items : List α} (some : items ≠ []) :
    (longRun lt least items).2.length < items.length := by
  have whole := (longRun_perm lt least items).length_eq
  have front := List.length_pos_iff.2 (frontRun_ne_nil lt some)
  have filled : (longRun lt least items).1.length =
      (frontRun lt items).1.length + _ := (foldl_insert_perm lt _ _).length_eq.trans List.length_append
  rw [List.length_append] at whole
  omega

namespace Progress

def AllSorted (lt : α → α → Bool) (p : Progress α) : Prop :=
  ∀ pending ∈ p.last :: p.earlier, IsSorted lt pending.items

variable (order : IsWeakOrder lt)
include order

theorem mergeDeeper_sorted (next patience : Nat) {last : Pending α} {earlier : List (Pending α)}
    (sorted : ∀ pending ∈ last :: earlier, IsSorted lt pending.items) :
    (mergeDeeper lt next patience last earlier).AllSorted lt := by
  fun_induction mergeDeeper lt next patience last earlier with
  | case1 => exact sorted
  | case2 patience last before earlier _ merged ih =>
    simp only [List.forall_mem_cons] at sorted ih
    obtain ⟨back, front, rest⟩ := sorted
    exact ih ⟨merge_sorted order patience front back, rest⟩
  | case3 => exact sorted

theorem push_sorted (size : Nat) {p : Progress α} (sorted : p.AllSorted lt) {run : List α}
    (isSorted : IsSorted lt run) : (p.push lt size run).AllSorted lt := by
  have merged := mergeDeeper_sorted order
    (depth size size (2 * p.last.start + p.last.items.length)
      (2 * p.last.start + p.last.items.length + p.last.items.length + run.length)) p.patience sorted
  obtain ⟨last, earlier⟩ := List.forall_mem_cons.1 merged
  exact List.forall_mem_cons.2 ⟨isSorted, List.forall_mem_cons.2 ⟨last, earlier⟩⟩

theorem collapse_sorted (patience : Nat) {last : Pending α} {earlier : List (Pending α)}
    (sorted : ∀ pending ∈ last :: earlier, IsSorted lt pending.items) :
    IsSorted lt (collapse lt patience last earlier) := by
  fun_induction collapse lt patience last earlier with
  | case1 => exact sorted _ List.mem_cons_self
  | case2 patience last before =>
    simp only [List.forall_mem_cons] at sorted
    exact merge_sorted order patience sorted.2.1 sorted.1
  | case3 patience last before first earlier _ merged ih =>
    simp only [List.forall_mem_cons] at sorted ih
    obtain ⟨back, middle, front, rest⟩ := sorted
    exact ih ⟨back, merge_sorted order patience front middle, rest⟩
  | case4 patience last before first earlier _ merged ih =>
    simp only [List.forall_mem_cons] at sorted ih
    obtain ⟨back, middle, rest⟩ := sorted
    exact ih ⟨merge_sorted order patience middle back, rest⟩

end Progress

variable (order : IsWeakOrder lt)
include order

-- Each run takes at least one item, so the fuel lasts.
theorem addRuns_sorted (size : Nat) {fuel : Nat} {p : Progress α} (sorted : p.AllSorted lt)
    {rest : List α} (enough : rest.length ≤ fuel) : (addRuns lt size fuel p rest).AllSorted lt := by
  fun_induction addRuns lt size fuel p rest with
  | case1 => exact sorted
  | case2 p rest some =>
    exact absurd (List.eq_nil_of_length_eq_zero (Nat.le_zero.1 enough)) some
  | case3 fuel p rest some run others split ih =>
    have found := longRun_sorted order (leastRun size) rest
    have fewer := length_longRun_lt lt (leastRun size) some
    rw [split] at found fewer
    exact ih (p.push_sorted order size sorted found)
      (Nat.le_of_lt_succ (Nat.lt_of_lt_of_le fewer enough))

theorem sort_sorted (items : List α) : IsSorted lt (sort lt items) := by
  have first := longRun_sorted order (leastRun items.length) items
  have whole := (longRun_perm lt (leastRun items.length) items).length_eq
  rw [List.length_append] at whole
  unfold sort
  dsimp only
  apply Progress.collapse_sorted order
  refine addRuns_sorted order _ (fun pending member => ?_) (by omega)
  rw [List.mem_singleton.1 member]
  exact first

end Sorting

end DocMarkers
