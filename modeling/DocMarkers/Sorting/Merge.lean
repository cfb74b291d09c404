import DocMarkers.Sorting.Search

set_option autoImplicit false

namespace DocMarkers

namespace Sorting

variable {α : Type}

inductive Direction where
  | forwards
  | backwards
deriving DecidableEq, Repr

namespace Direction

def goesFirst (lt : α → α → Bool) : Direction → α → α → Bool
  | forwards, opening, closing => lt opening closing
  | backwards, opening, closing => lt closing opening

def middle : Direction → Middle
  | forwards => .upper
  | backwards => .lower

end Direction

/-- A merge under way. The first item of the opening run was placed first, and the last item of
the closing run will be placed last. -/
structure Merging (α : Type) where
  -- The items that were placed, the latest first.
  placed : List α := []
  opening : List α
  closing : List α
  patience : Nat

-- The patience at first, and the least length of a stride that is worth another one.
def firstPatience : Nat := 7

namespace Merging

def isOver (m : Merging α) : Bool := m.opening.isEmpty || m.closing.length ≤ 1

def result (m : Merging α) : List α := m.placed.reverse ++ (m.opening ++ m.closing)

def remaining (m : Merging α) : Nat := m.opening.length + m.closing.length

def takeOpening (n : Nat) (m : Merging α) : Merging α :=
  { m with placed := (m.opening.take n).reverse ++ m.placed, opening := m.opening.drop n }

def takeClosing (n : Nat) (m : Merging α) : Merging α :=
  { m with placed := (m.closing.take n).reverse ++ m.placed, closing := m.closing.drop n }

variable (lt : α → α → Bool) (direction : Direction)

def alternate : Nat → Nat → Nat → Merging α → Merging α
  | 0, _, _, m => m
  | fuel + 1, openingWins, closingWins, m =>
    match m.opening, m.closing with
    | first :: _, other :: _ :: _ =>
      if direction.goesFirst lt first other then
        if m.patience ≤ openingWins + 1 then m.takeOpening 1
        else alternate fuel (openingWins + 1) 0 (m.takeOpening 1)
      else if m.patience ≤ closingWins + 1 then m.takeClosing 1
      else alternate fuel 0 (closingWins + 1) (m.takeClosing 1)
    | _, _ => m

def strideOfClosing (m : Merging α) : Nat × Merging α :=
  match m.opening with
  | [] => (0, m)
  | first :: _ =>
    let n := count direction.middle (fun item => !direction.goesFirst lt first item) m.closing
    let m := m.takeClosing n
    (n, if m.isOver then m else m.takeOpening 1)

def strideOfOpening (m : Merging α) : Nat × Merging α :=
  match m.closing with
  | [] => (0, m)
  | first :: _ =>
    let n := count direction.middle (fun item => direction.goesFirst lt item first) m.opening
    let m := m.takeOpening n
    (n, if m.isOver then m else m.takeClosing 1)

def strides (m : Merging α) : Nat × Merging α :=
  let (first, second) := match direction with
    | .forwards => (strideOfClosing lt direction, strideOfOpening lt direction)
    | .backwards => (strideOfOpening lt direction, strideOfClosing lt direction)
  let (n, m) := first m
  if m.isOver then (n, m)
  else
    let (k, m) := second m
    (max n k, m)

def gallop : Nat → Merging α → Merging α
  | 0, m => m
  | fuel + 1, m =>
    let (longest, m) := strides lt direction m
    if m.isOver then m
    else if firstPatience ≤ longest then gallop fuel { m with patience := max 1 (m.patience - 1) }
    else { m with patience := m.patience + 1 }

def run : Nat → Merging α → Merging α
  | 0, m => m
  | fuel + 1, m =>
    if m.isOver then m
    else
      let m := alternate lt direction m.remaining 0 0 m
      if m.isOver then m else run fuel (gallop lt direction m.remaining m)

def finish (m : Merging α) : Merging α := run lt direction m.remaining (m.takeOpening 1)

structure Advances (later : Merging α → Merging α → Prop) : Prop where
  refl : ∀ m, later m m
  trans : ∀ {m m' m''}, later m m' → later m' m'' → later m m''
  takeOpening : ∀ n m, later m (m.takeOpening n)
  takeClosing : ∀ n m, later m (m.takeClosing n)
  patience : ∀ patience m, later m { m with patience }

namespace Advances

variable {later : Merging α → Merging α → Prop} (advances : Advances later)
include advances

theorem alternate (fuel openingWins closingWins : Nat) (m : Merging α) :
    later m (alternate lt direction fuel openingWins closingWins m) := by
  fun_induction Merging.alternate lt direction fuel openingWins closingWins m with
  | case1 => exact advances.refl _
  | case2 => exact advances.takeOpening 1 _
  | case3 _ _ _ _ _ _ _ _ _ _ _ _ _ ih => exact advances.trans (advances.takeOpening 1 _) ih
  | case4 => exact advances.takeClosing 1 _
  | case5 _ _ _ _ _ _ _ _ _ _ _ _ _ ih => exact advances.trans (advances.takeClosing 1 _) ih
  | case6 => exact advances.refl _

theorem strideOfClosing (m : Merging α) : later m (strideOfClosing lt direction m).2 := by
  fun_cases Merging.strideOfClosing lt direction m with
  | case1 => exact advances.refl _
  | case2 =>
    dsimp only
    split
    next => exact advances.takeClosing _ _
    next => exact advances.trans (advances.takeClosing _ _) (advances.takeOpening 1 _)

theorem strideOfOpening (m : Merging α) : later m (strideOfOpening lt direction m).2 := by
  fun_cases Merging.strideOfOpening lt direction m with
  | case1 => exact advances.refl _
  | case2 =>
    dsimp only
    split
    next => exact advances.takeOpening _ _
    next => exact advances.trans (advances.takeOpening _ _) (advances.takeClosing 1 _)

theorem strides (m : Merging α) : later m (strides lt direction m).2 := by
  have closing := advances.strideOfClosing lt direction
  have opening := advances.strideOfOpening lt direction
  unfold Merging.strides
  cases direction <;> dsimp only <;> split
  · exact closing m
  · exact advances.trans (closing m) (opening _)
  · exact opening m
  · exact advances.trans (opening m) (closing _)

theorem gallop (fuel : Nat) (m : Merging α) : later m (gallop lt direction fuel m) := by
  induction fuel generalizing m with
  | zero => exact advances.refl _
  | succ fuel ih =>
    have stride := advances.strides lt direction m
    rw [Merging.gallop]
    dsimp only
    split
    next => exact stride
    next =>
      have patient (patience : Nat) := advances.trans stride (advances.patience patience _)
      split
      next => exact advances.trans (patient _) (ih _)
      next => exact patient _

theorem run (fuel : Nat) (m : Merging α) : later m (run lt direction fuel m) := by
  induction fuel generalizing m with
  | zero => exact advances.refl _
  | succ fuel ih =>
    have single := advances.alternate lt direction m.remaining 0 0 m
    rw [Merging.run]
    dsimp only
    split
    next => exact advances.refl _
    next =>
      split
      next => exact single
      next => exact advances.trans single (advances.trans (advances.gallop lt direction _ _) (ih _))

theorem finish (m : Merging α) : later m (finish lt direction m) :=
  advances.trans (advances.takeOpening 1 m) (advances.run lt direction _ _)

end Advances

theorem advances_perm : Advances fun m m' : Merging α => m'.result.Perm m.result where
  refl _ := .refl _
  trans first second := second.trans first
  takeOpening n m := by
    simp only [takeOpening, result, List.reverse_append, List.reverse_reverse, List.append_assoc]
    refine .append_left _ ?_
    rw [← List.append_assoc, List.take_append_drop]
  takeClosing n m := by
    simp only [takeClosing, result, List.reverse_append, List.reverse_reverse, List.append_assoc]
    refine .append_left _ ?_
    rw [← List.append_assoc]
    refine (List.perm_append_comm.append_right _).trans ?_
    rw [List.append_assoc, List.take_append_drop]
  patience _ _ := .refl _

theorem advances_remaining : Advances fun m m' : Merging α => m'.remaining ≤ m.remaining where
  refl _ := Nat.le_refl _
  trans first second := Nat.le_trans second first
  takeOpening n m := by
    simp only [remaining, takeOpening, List.length_drop]
    omega
  takeClosing n m := by
    simp only [remaining, takeClosing, List.length_drop]
    omega
  patience _ _ := Nat.le_refl _

end Merging

variable (lt : α → α → Bool)

-- Merges two parts of adjacent runs that meet nowhere at their ends, the shorter one being put
-- aside, and tells the patience that is left.
def mergeInner (patience : Nat) (left right : List α) : Nat × List α :=
  if left.length ≤ right.length then
    let m := Merging.finish lt .forwards { opening := right, closing := left, patience }
    (m.patience, m.result)
  else
    let m := Merging.finish lt .backwards
      { opening := left.reverse, closing := right.reverse, patience }
    (m.patience, m.result.reverse)

def merge (patience : Nat) (left right : List α) : Nat × List α :=
  match right with
  | [] => (patience, left)
  | first :: _ =>
    let before := count .upper (fun item => !lt first item) left
    match (left.drop before).getLast? with
    | none => (patience, left ++ right)
    | some last =>
      let among := right.length - count .lower (fun item => !lt item last) right.reverse
      if among = 0 then (patience, left ++ right)
      else
        let (patience, inner) := mergeInner lt patience (left.drop before) (right.take among)
        (patience, left.take before ++ (inner ++ right.drop among))

theorem mergeInner_perm (patience : Nat) (left right : List α) :
    (mergeInner lt patience left right).2.Perm (left ++ right) := by
  unfold mergeInner
  split
  next =>
    refine (Merging.advances_perm.finish lt .forwards _).trans ?_
    simpa [Merging.result] using List.perm_append_comm
  next =>
    refine (List.reverse_perm _).trans ((Merging.advances_perm.finish lt .backwards _).trans ?_)
    simpa [Merging.result] using (List.reverse_perm left).append (List.reverse_perm right)

theorem merge_perm (patience : Nat) (left right : List α) :
    (merge lt patience left right).2.Perm (left ++ right) := by
  unfold merge
  split
  next => simp
  next first rest =>
    dsimp only
    split
    next => exact .refl _
    next last _ =>
      split
      next => exact .refl _
      next =>
        have inner := mergeInner_perm lt patience
          (left.drop (count .upper (fun item => !lt first item) left))
          ((first :: rest).take ((first :: rest).length -
            count .lower (fun item => !lt item last) (first :: rest).reverse))
        refine (List.Perm.append_left _ (inner.append_right _)).trans ?_
        rw [List.append_assoc, List.take_append_drop, ← List.append_assoc, List.take_append_drop]

end Sorting

end DocMarkers
