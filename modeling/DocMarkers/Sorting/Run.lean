import DocMarkers.Sorting.Search

set_option autoImplicit false

namespace DocMarkers

namespace Sorting

variable {α : Type} (lt : α → α → Bool)

def runFrom (falling : Bool) (last : α) : List α → List α × List α
  | [] => ([], [])
  | item :: rest =>
    if lt item last == falling then
      let (run, others) := runFrom falling item rest
      (item :: run, others)
    else ([], item :: rest)

def frontRun : List α → List α × List α
  | first :: second :: rest =>
    let falling := lt second first
    let (run, others) := runFrom lt falling second rest
    (if falling then (first :: second :: run).reverse else first :: second :: run, others)
  | items => (items, [])

def insert (sorted : List α) (item : α) : List α :=
  let place := countBetween .upper (fun other => !lt item other) sorted.toArray 0 sorted.length
  sorted.take place ++ item :: sorted.drop place

def longRun (least : Nat) (items : List α) : List α × List α :=
  let (run, others) := frontRun lt items
  let missing := least - run.length
  ((others.take missing).foldl (insert lt) run, others.drop missing)

theorem runFrom_append (falling : Bool) (last : α) (items : List α) :
    (runFrom lt falling last items).1 ++ (runFrom lt falling last items).2 = items := by
  fun_induction runFrom lt falling last items <;> simp_all

theorem frontRun_perm (items : List α) :
    ((frontRun lt items).1 ++ (frontRun lt items).2).Perm items := by
  fun_cases frontRun lt items with
  | case1 first second rest falling run others split =>
    have whole := runFrom_append lt falling second rest
    rw [split] at whole
    simp only at whole ⊢
    rw [← whole]
    split
    next => exact (List.reverse_perm _).append_right others
    next => exact .refl _
  | case2 => simp

theorem insert_perm (sorted : List α) (item : α) :
    (insert lt sorted item).Perm (item :: sorted) := by
  unfold insert
  exact List.perm_middle.trans (by rw [List.take_append_drop])

theorem foldl_insert_perm (others sorted : List α) :
    (others.foldl (insert lt) sorted).Perm (sorted ++ others) := by
  induction others generalizing sorted with
  | nil => simp
  | cons item others ih =>
    have placed := (insert_perm lt sorted item).append_right others
    exact (ih _).trans (placed.trans List.perm_middle.symm)

theorem longRun_perm (least : Nat) (items : List α) :
    ((longRun lt least items).1 ++ (longRun lt least items).2).Perm items := by
  have front := frontRun_perm lt items
  unfold longRun
  refine ((foldl_insert_perm lt _ _).append_right _).trans ?_
  rw [List.append_assoc, List.take_append_drop]
  exact front

end Sorting

end DocMarkers
