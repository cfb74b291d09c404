import DocMarkers.Sorting.Merge
import DocMarkers.Sorting.Run

set_option autoImplicit false

namespace DocMarkers

namespace Sorting

variable {α : Type} (lt : α → α → Bool)

def runLimit : Nat := 64

-- The least length of the runs of a list, but for the last: its length, halved until it is below
-- the limit and rounded up.
def leastRun (size : Nat) : Nat :=
  if size < runLimit then size
  else
    let unit := Nat.pow 2 (Nat.log2 size - 5)
    (size + unit - 1) / unit

/-- How deep in a balanced tree over `size` items the boundary of two runs lies, whose middles
are at `left / (2 * size)` and `right / (2 * size)`. -/
def depth (size : Nat) : Nat → Nat → Nat → Nat
  | 0, _, _ => 0
  | fuel + 1, left, right =>
    if size ≤ left then depth size fuel (2 * (left - size)) (2 * (right - size)) + 1
    else if size ≤ right then 1
    else depth size fuel (2 * left) (2 * right) + 1

structure Pending (α : Type) where
  start : Nat
  items : List α
  boundary : Nat := 0

structure Progress (α : Type) where
  last : Pending α
  earlier : List (Pending α) := []
  patience : Nat := firstPatience

namespace Progress

def items (p : Progress α) : List α := p.earlier.reverse.flatMap Pending.items ++ p.last.items

-- Merges the last two runs while their boundary lies deeper than the next one.
def mergeDeeper (next patience : Nat) (last : Pending α) : List (Pending α) → Progress α
  | [] => ⟨last, [], patience⟩
  | before :: earlier =>
    if next < before.boundary then
      let merged := merge lt patience before.items last.items
      mergeDeeper next merged.1 { before with items := merged.2 } earlier
    else ⟨last, before :: earlier, patience⟩

def push (size : Nat) (p : Progress α) (run : List α) : Progress α :=
  let left := 2 * p.last.start + p.last.items.length
  let boundary := depth size size left (left + p.last.items.length + run.length)
  let p := mergeDeeper lt boundary p.patience p.last p.earlier
  { p with
    last := ⟨p.last.start + p.last.items.length, run, 0⟩
    earlier := { p.last with boundary } :: p.earlier }

-- Merges all runs from the end on. Of three, the middle one goes with the shorter other.
def collapse (patience : Nat) (last : Pending α) : List (Pending α) → List α
  | [] => last.items
  | [before] => (merge lt patience before.items last.items).2
  | before :: first :: earlier =>
    if first.items.length < last.items.length then
      let merged := merge lt patience first.items before.items
      collapse merged.1 last ({ first with items := merged.2 } :: earlier)
    else
      let merged := merge lt patience before.items last.items
      collapse merged.1 { before with items := merged.2 } (first :: earlier)
termination_by earlier => earlier.length

end Progress

def addRuns (size : Nat) : Nat → Progress α → List α → Progress α
  | _, p, [] => p
  | 0, p, rest => p.push lt size rest
  | fuel + 1, p, rest =>
    let (run, others) := longRun lt (leastRun size) rest
    addRuns size fuel (p.push lt size run) others

def sort (items : List α) : List α :=
  let (run, others) := longRun lt (leastRun items.length) items
  let p := addRuns lt items.length items.length ⟨⟨0, run, 0⟩, [], firstPatience⟩ others
  Progress.collapse lt p.patience p.last p.earlier

namespace Progress

theorem mergeDeeper_perm (next patience : Nat) (last : Pending α) (earlier : List (Pending α)) :
    (mergeDeeper lt next patience last earlier).items.Perm
      (earlier.reverse.flatMap Pending.items ++ last.items) := by
  fun_induction mergeDeeper lt next patience last earlier with
  | case1 => exact .refl _
  | case2 patience last before earlier _ merged ih =>
    refine ih.trans ?_
    simpa using (merge_perm lt patience before.items last.items).append_left _
  | case3 => exact .refl _

theorem push_perm (size : Nat) (p : Progress α) (run : List α) :
    (p.push lt size run).items.Perm (p.items ++ run) := by
  have merged := (mergeDeeper_perm lt (depth size size (2 * p.last.start + p.last.items.length)
    (2 * p.last.start + p.last.items.length + p.last.items.length + run.length))
    p.patience p.last p.earlier).append_right run
  simpa [push, items] using merged

theorem collapse_perm (patience : Nat) (last : Pending α) (earlier : List (Pending α)) :
    (collapse lt patience last earlier).Perm
      (earlier.reverse.flatMap Pending.items ++ last.items) := by
  fun_induction collapse lt patience last earlier with
  | case1 => simp
  | case2 patience last before => simpa using merge_perm lt patience before.items last.items
  | case3 patience last before first earlier _ merged ih =>
    refine ih.trans ?_
    simpa using ((merge_perm lt patience first.items before.items).append_right _).append_left _
  | case4 patience last before first earlier _ merged ih =>
    refine ih.trans ?_
    simpa using ((merge_perm lt patience before.items last.items).append_left _).append_left _

end Progress

theorem addRuns_perm (size fuel : Nat) (p : Progress α) (rest : List α) :
    (addRuns lt size fuel p rest).items.Perm (p.items ++ rest) := by
  fun_induction addRuns lt size fuel p rest with
  | case1 => simp
  | case2 p rest => exact p.push_perm lt size rest
  | case3 fuel p rest _ run others split ih =>
    have found := longRun_perm lt (leastRun size) rest
    rw [split] at found
    refine ih.trans (((p.push_perm lt size run).append_right others).trans ?_)
    rw [List.append_assoc]
    exact found.append_left _

theorem sort_perm (items : List α) : (sort lt items).Perm items := by
  have found := longRun_perm lt (leastRun items.length) items
  unfold sort
  refine (Progress.collapse_perm lt _ _ _).trans ((addRuns_perm lt _ _ _ _).trans ?_)
  simp only [Progress.items, List.reverse_nil, List.flatMap_nil, List.nil_append]
  exact found

end Sorting

end DocMarkers
