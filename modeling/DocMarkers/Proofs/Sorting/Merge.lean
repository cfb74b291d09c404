import DocMarkers.Proofs.Sorting.Search
import DocMarkers.Sorting.Merge

set_option autoImplicit false

namespace DocMarkers

namespace Sorting

variable {α : Type}

structure IsWeakOrder (lt : α → α → Bool) : Prop where
  asymm : ∀ {first second}, lt first second = true → lt second first = false
  trans : ∀ {first second third}, lt second first = false → lt third second = false →
    lt third first = false

def IsSorted (lt : α → α → Bool) (items : List α) : Prop :=
  items.Pairwise fun first second => lt second first = false

section WeakOrder

variable {lt : α → α → Bool} (order : IsWeakOrder lt)
include order

theorem IsWeakOrder.irrefl (item : α) : lt item item = false := by
  cases same : lt item item with
  | false => rfl
  | true => rw [← order.asymm same, same]

theorem IsWeakOrder.swap : IsWeakOrder fun first second => lt second first :=
  ⟨order.asymm, fun first second => order.trans second first⟩

theorem IsSorted.of_head {head item : α} {rest : List α} (sorted : IsSorted lt (head :: rest))
    (first : lt head item = false) : ∀ other ∈ head :: rest, lt other item = false := by
  refine List.forall_mem_cons.2 ⟨first, fun other member => ?_⟩
  exact order.trans first ((List.pairwise_cons.1 sorted).1 other member)

theorem IsSorted.head_le {head : α} {rest : List α} (sorted : IsSorted lt (head :: rest)) :
    ∀ other ∈ head :: rest, lt other head = false :=
  sorted.of_head order (order.irrefl head)

theorem IsSorted.le_last {items front : List α} {last : α} (sorted : IsSorted lt items)
    (ends : items = front ++ [last]) : ∀ item ∈ items, lt last item = false := by
  subst ends
  intro item member
  rcases List.mem_append.1 member with before | same
  · exact (List.pairwise_append.1 sorted).2.2 item before last (List.mem_singleton_self last)
  · rw [List.mem_singleton.1 same]
    exact order.irrefl last

end WeakOrder

section Cuts

variable {lt : α → α → Bool}

theorem IsSorted.cut {items : List α} (sorted : IsSorted lt items) (n : Nat) :
    IsSorted lt (items.take n) ∧ IsSorted lt (items.drop n) ∧
      ∀ item ∈ items.take n, ∀ other ∈ items.drop n, lt other item = false := by
  have parts : IsSorted lt (items.take n ++ items.drop n) := by rwa [List.take_append_drop]
  exact List.pairwise_append.1 parts

-- What stands between two lists may be put in order without a look at them.
theorem IsSorted.between {front middle inner back : List α} (sorted : IsSorted lt inner)
    (perm : inner.Perm middle) (before : IsSorted lt front) (behind : IsSorted lt back)
    (low : ∀ item ∈ front, ∀ other ∈ middle ++ back, lt other item = false)
    (high : ∀ item ∈ middle, ∀ other ∈ back, lt other item = false) :
    IsSorted lt (front ++ (inner ++ back)) := by
  refine List.pairwise_append.2 ⟨before, List.pairwise_append.2 ⟨sorted, behind, ?_⟩, ?_⟩
  · exact fun item member => high item (perm.mem_iff.1 member)
  · exact fun item member other later =>
      low item member other ((perm.append_right back).mem_iff.1 later)

end Cuts

theorem isSorted_reverse {lt : α → α → Bool} {items : List α} :
    IsSorted (fun first second => lt second first) items.reverse ↔ IsSorted lt items :=
  List.pairwise_reverse

namespace Merging

structure InOrder (lt : α → α → Bool) (m : Merging α) : Prop where
  opening : IsSorted lt (m.placed.reverse ++ m.opening)
  closing : IsSorted lt (m.placed.reverse ++ m.closing)
  last : ∃ front final, m.closing = front ++ [final] ∧ ∀ item ∈ m.opening, lt item final = true

namespace InOrder

section Taking

variable {lt : α → α → Bool} {m : Merging α}

theorem takeOpening (ordered : InOrder lt m) {n : Nat}
    (first : ∀ item ∈ m.opening.take n, ∀ other ∈ m.closing, lt other item = false) :
    InOrder lt (m.takeOpening n) := by
  obtain ⟨front, final, split, last⟩ := ordered.last
  have whole : (m.takeOpening n).placed.reverse = m.placed.reverse ++ m.opening.take n := by
    simp [Merging.takeOpening]
  have kept : IsSorted lt (m.placed.reverse ++ m.opening.take n) :=
    ordered.opening.sublist ((List.take_sublist n m.opening).append_left _)
  refine ⟨?_, ?_, front, final, split, fun item member => last item (List.mem_of_mem_drop member)⟩
  · rw [whole, List.append_assoc, Merging.takeOpening, List.take_append_drop]
    exact ordered.opening
  · rw [whole]
    have across := (List.pairwise_append.1 ordered.closing).2.2
    refine List.pairwise_append.2 ⟨kept, (List.pairwise_append.1 ordered.closing).2.1, ?_⟩
    intro item member other left
    rcases List.mem_append.1 member with placed | taken
    · exact across item placed other left
    · exact first item taken other left

theorem takeClosing (ordered : InOrder lt m) {n : Nat} (fewer : n < m.closing.length)
    (first : ∀ item ∈ m.closing.take n, ∀ other ∈ m.opening, lt other item = false) :
    InOrder lt (m.takeClosing n) := by
  obtain ⟨front, final, split, last⟩ := ordered.last
  have whole : (m.takeClosing n).placed.reverse = m.placed.reverse ++ m.closing.take n := by
    simp [Merging.takeClosing]
  have kept : IsSorted lt (m.placed.reverse ++ m.closing.take n) :=
    ordered.closing.sublist ((List.take_sublist n m.closing).append_left _)
  refine ⟨?_, ?_, front.drop n, final, ?_, last⟩
  · rw [whole]
    have across := (List.pairwise_append.1 ordered.opening).2.2
    refine List.pairwise_append.2 ⟨kept, (List.pairwise_append.1 ordered.opening).2.1, ?_⟩
    intro item member other left
    rcases List.mem_append.1 member with placed | taken
    · exact across item placed other left
    · exact first item taken other left
  · rw [whole, List.append_assoc, Merging.takeClosing, List.take_append_drop]
    exact ordered.closing
  · rw [split, List.length_append, List.length_singleton] at fewer
    rw [Merging.takeClosing, split, List.drop_append_of_le_length (by omega)]

theorem result (ordered : InOrder lt m) (asymm : ∀ {first second}, lt first second = true →
    lt second first = false) (ended : m.isOver = true) : IsSorted lt m.result := by
  obtain ⟨front, final, split, last⟩ := ordered.last
  rw [isOver, Bool.or_eq_true, List.isEmpty_iff, decide_eq_true_iff] at ended
  rcases ended with none | single
  · rw [Merging.result, none, List.nil_append]
    exact ordered.closing
  · rw [split, List.length_append, List.length_singleton] at single
    have alone : m.closing = [final] := by
      rw [split, List.eq_nil_of_length_eq_zero (by omega : front.length = 0), List.nil_append]
    rw [Merging.result, ← List.append_assoc, alone]
    refine List.pairwise_append.2 ⟨ordered.opening, List.pairwise_singleton _ _, ?_⟩
    intro item member other same
    rw [List.mem_singleton] at same
    subst same
    rcases List.mem_append.1 member with placed | left
    · exact (List.pairwise_append.1 ordered.closing).2.2 item placed other (by simp [alone])
    · exact asymm (last item left)

end Taking

section Steps

variable {lt : α → α → Bool} {direction : Direction} (order : IsWeakOrder (direction.goesFirst lt))
  {m : Merging α}
include order

theorem takeOpening_head (ordered : InOrder (direction.goesFirst lt) m) {first other : α}
    {later others : List α} (opening : m.opening = first :: later) (closing : m.closing = other :: others)
    (before : direction.goesFirst lt other first = false) :
    InOrder (direction.goesFirst lt) (m.takeOpening 1) := by
  have sorted : IsSorted (direction.goesFirst lt) m.closing :=
    (List.pairwise_append.1 ordered.closing).2.1
  apply ordered.takeOpening
  rw [closing] at sorted
  simpa [opening, closing] using sorted.of_head order before

theorem takeClosing_head (ordered : InOrder (direction.goesFirst lt) m) {first other : α}
    {later others : List α} (opening : m.opening = first :: later) (closing : m.closing = other :: others)
    (more : others ≠ []) (before : direction.goesFirst lt first other = false) :
    InOrder (direction.goesFirst lt) (m.takeClosing 1) := by
  have sorted : IsSorted (direction.goesFirst lt) m.opening :=
    (List.pairwise_append.1 ordered.opening).2.1
  have fewer : 1 < m.closing.length := by
    simpa [closing, List.length_pos_iff] using more
  apply ordered.takeClosing fewer
  rw [opening] at sorted
  simpa [opening, closing] using sorted.of_head order before

theorem alternate (ordered : InOrder (direction.goesFirst lt) m)
    (fuel openingWins closingWins : Nat) :
    InOrder (direction.goesFirst lt) (alternate lt direction fuel openingWins closingWins m) := by
  fun_induction Merging.alternate lt direction fuel openingWins closingWins m with
  | case1 => exact ordered
  | case2 _ _ _ m _ _ _ _ _ closing opening goes _ =>
    exact ordered.takeOpening_head order opening closing (order.asymm goes)
  | case3 _ _ _ m _ _ _ _ _ closing opening goes _ ih =>
    exact ih (ordered.takeOpening_head order opening closing (order.asymm goes))
  | case4 _ _ _ m _ _ _ _ _ closing opening stays _ =>
    exact ordered.takeClosing_head order opening closing (List.cons_ne_nil _ _) (by simpa using stays)
  | case5 _ _ _ m _ _ _ _ _ closing opening stays _ ih =>
    exact ih (ordered.takeClosing_head order opening closing (List.cons_ne_nil _ _) (by simpa using stays))
  | case6 => exact ordered

-- The last item of the closing run is no part of a stride.
theorem strideOfClosing (ordered : InOrder (direction.goesFirst lt) m) :
    InOrder (direction.goesFirst lt) (strideOfClosing lt direction m).2 := by
  fun_cases Merging.strideOfClosing lt direction m with
  | case1 => exact ordered
  | case2 first later opening n stride =>
    have sorted : IsSorted (direction.goesFirst lt) m.closing :=
      (List.pairwise_append.1 ordered.closing).2.1
    have others : IsSorted (direction.goesFirst lt) (first :: later) :=
      opening ▸ (List.pairwise_append.1 ordered.opening).2.1
    have splits : SplitsAt (fun item => !direction.goesFirst lt first item) m.closing n := by
      refine count_splitsAt _ (sorted.imp fun {item other} apart before => ?_)
      simp only [Bool.not_eq_true'] at before ⊢
      exact order.trans apart before
    have fewer : n < m.closing.length := by
      obtain ⟨front, final, split, last⟩ := ordered.last
      refine Nat.lt_of_not_le fun all => ?_
      have passed := splits.front final (by rw [List.take_of_length_le all, split]; simp)
      simp [last first (by simp [opening])] at passed
    have taken : InOrder (direction.goesFirst lt) stride := by
      refine ordered.takeClosing fewer fun item member => ?_
      rw [opening]
      exact others.of_head order (by simpa using splits.front item member)
    obtain ⟨next, rest, left⟩ := List.exists_cons_of_length_pos
      (by rw [List.length_drop]; omega : 0 < (m.closing.drop n).length)
    have failed := splits.back next (by simp [left])
    have before : direction.goesFirst lt next first = false :=
      order.asymm (by simpa using failed)
    dsimp only
    split
    next => exact taken
    next => exact taken.takeOpening_head order opening left before

theorem strideOfOpening (ordered : InOrder (direction.goesFirst lt) m) :
    InOrder (direction.goesFirst lt) (strideOfOpening lt direction m).2 := by
  fun_cases Merging.strideOfOpening lt direction m with
  | case1 => exact ordered
  | case2 first others closing n stride =>
    have sorted : IsSorted (direction.goesFirst lt) m.opening :=
      (List.pairwise_append.1 ordered.opening).2.1
    have later : IsSorted (direction.goesFirst lt) (first :: others) :=
      closing ▸ (List.pairwise_append.1 ordered.closing).2.1
    have splits : SplitsAt (fun item => direction.goesFirst lt item first) m.opening n := by
      refine count_splitsAt _ (sorted.imp fun {item other} apart before => ?_)
      cases behind : direction.goesFirst lt item first with
      | true => rfl
      | false => rwa [order.trans behind apart] at before
    have taken : InOrder (direction.goesFirst lt) stride := by
      refine ordered.takeOpening fun item member => ?_
      rw [closing]
      exact later.of_head order (order.asymm (splits.front item member))
    dsimp only
    split
    next => exact taken
    next more =>
      cases left : m.opening.drop n with
      | nil => simp [isOver, stride, Merging.takeOpening, left] at more
      | cons next rest =>
        have failed : direction.goesFirst lt next first = false := splits.back next (by simp [left])
        have some : others ≠ [] := by
          rintro rfl
          simp [isOver, stride, Merging.takeOpening, closing] at more
        exact taken.takeClosing_head order left closing some failed

theorem strides (ordered : InOrder (direction.goesFirst lt) m) :
    InOrder (direction.goesFirst lt) (strides lt direction m).2 := by
  have closing {m : Merging α} (ordered : InOrder (direction.goesFirst lt) m) :=
    ordered.strideOfClosing order
  have opening {m : Merging α} (ordered : InOrder (direction.goesFirst lt) m) :=
    ordered.strideOfOpening order
  unfold Merging.strides
  cases direction <;> dsimp only <;> split
  · exact closing ordered
  · exact opening (closing ordered)
  · exact opening ordered
  · exact closing (opening ordered)

theorem gallop (ordered : InOrder (direction.goesFirst lt) m) (fuel : Nat) :
    InOrder (direction.goesFirst lt) (gallop lt direction fuel m) := by
  induction fuel generalizing m with
  | zero => exact ordered
  | succ fuel ih =>
    have stride := ordered.strides order
    rw [Merging.gallop]
    dsimp only
    split
    next => exact stride
    next =>
      split
      next => exact ih ⟨stride.opening, stride.closing, stride.last⟩
      next => exact ⟨stride.opening, stride.closing, stride.last⟩

theorem run (ordered : InOrder (direction.goesFirst lt) m) (fuel : Nat) :
    InOrder (direction.goesFirst lt) (run lt direction fuel m) := by
  induction fuel generalizing m with
  | zero => exact ordered
  | succ fuel ih =>
    have single := ordered.alternate order m.remaining 0 0
    rw [Merging.run]
    dsimp only
    split
    next => exact ordered
    next =>
      split
      next => exact single
      next => exact ih (single.gallop order _)

end Steps

end InOrder

section Progress

variable (lt : α → α → Bool) (direction : Direction)

theorem remaining_alternate_lt {m : Merging α} (more : m.isOver = false) :
    (alternate lt direction m.remaining 0 0 m).remaining < m.remaining := by
  rw [isOver, Bool.or_eq_false_iff, List.isEmpty_eq_false_iff, decide_eq_false_iff_not] at more
  obtain ⟨placed, opening, closing, patience⟩ := m
  match opening, closing, more with
  | [], _, ⟨more, _⟩ => contradiction
  | _ :: _, [], ⟨_, more⟩ => simp at more
  | _ :: _, [_], ⟨_, more⟩ => simp at more
  | first :: later, other :: second :: others, _ =>
    let m : Merging α := ⟨placed, first :: later, other :: second :: others, patience⟩
    have opened : (m.takeOpening 1).remaining < m.remaining := by simp [m, remaining, takeOpening]
    have closed : (m.takeClosing 1).remaining < m.remaining := by simp [m, remaining, takeClosing]
    have onwards := advances_remaining.alternate lt direction (m.remaining - 1)
    have steps : m.remaining = m.remaining - 1 + 1 := by omega
    change (alternate lt direction m.remaining 0 0 m).remaining < m.remaining
    rw [steps, alternate, ← steps]
    dsimp only [m]
    split
    next =>
      split
      next => exact opened
      next => exact Nat.lt_of_le_of_lt (onwards _ _ _) opened
    next =>
      split
      next => exact closed
      next => exact Nat.lt_of_le_of_lt (onwards _ _ _) closed

theorem isOver_run {fuel : Nat} {m : Merging α} (enough : m.remaining ≤ fuel) :
    (run lt direction fuel m).isOver = true := by
  induction fuel generalizing m with
  | zero =>
    have none : m.opening = [] := List.eq_nil_of_length_eq_zero (by rw [remaining] at enough; omega)
    simp [run, isOver, none]
  | succ fuel ih =>
    rw [run]
    dsimp only
    split
    next ended => exact ended
    next more =>
      split
      next ended => exact ended
      next =>
        have fewer := remaining_alternate_lt lt direction (by simpa using more)
        have later := advances_remaining.gallop lt direction
          (alternate lt direction m.remaining 0 0 m).remaining
          (alternate lt direction m.remaining 0 0 m)
        exact ih (by omega)

end Progress

theorem finish_sorted {lt : α → α → Bool} {direction : Direction}
    (order : IsWeakOrder (direction.goesFirst lt)) {m : Merging α} {first final : α}
    {later front : List α} (opening : m.opening = first :: later) (closing : m.closing = front ++ [final])
    (fresh : m.placed = []) (sorted : IsSorted (direction.goesFirst lt) m.opening)
    (sorted' : IsSorted (direction.goesFirst lt) m.closing)
    (before : ∀ item ∈ m.closing, direction.goesFirst lt first item = true)
    (behind : ∀ item ∈ m.opening, direction.goesFirst lt item final = true) :
    IsSorted (direction.goesFirst lt) (finish lt direction m).result := by
  have start : InOrder (direction.goesFirst lt) m :=
    ⟨by simpa [fresh] using sorted, by simpa [fresh] using sorted', front, final, closing, behind⟩
  have placed : InOrder (direction.goesFirst lt) (m.takeOpening 1) := by
    apply start.takeOpening
    simpa [opening] using fun item member => order.asymm (before item member)
  exact (placed.run order m.remaining).result order.asymm
    (isOver_run lt direction (advances_remaining.takeOpening 1 m))

end Merging

section Merge

variable {lt : α → α → Bool} (order : IsWeakOrder lt)
include order

theorem mergeInner_sorted (patience : Nat) {first final : α} {later front left right : List α}
    (ends : left = front ++ [final]) (begins : right = first :: later)
    (sorted : IsSorted lt left) (sorted' : IsSorted lt right)
    (before : ∀ item ∈ left, lt first item = true) (behind : ∀ item ∈ right, lt item final = true) :
    IsSorted lt (mergeInner lt patience left right).2 := by
  unfold mergeInner
  split
  next =>
    have order' : IsWeakOrder (Direction.forwards.goesFirst lt) := order
    exact Merging.finish_sorted order' begins ends rfl sorted' sorted before behind
  next =>
    have order' : IsWeakOrder (Direction.backwards.goesFirst lt) := order.swap
    have ends' : left.reverse = final :: front.reverse := by simp [ends]
    have begins' : right.reverse = later.reverse ++ [first] := by simp [begins]
    have merged := Merging.finish_sorted order'
      (m := { opening := left.reverse, closing := right.reverse, patience }) ends' begins' rfl
      (isSorted_reverse.2 sorted) (isSorted_reverse.2 sorted')
      (fun item member => behind item (List.mem_reverse.1 member))
      (fun item member => before item (List.mem_reverse.1 member))
    exact isSorted_reverse.1 (by rw [List.reverse_reverse]; exact merged)

theorem count_before {left : List α} (sorted : IsSorted lt left) (first : α) :
    SplitsAt (fun item => !lt first item) left (count .upper (fun item => !lt first item) left) := by
  refine count_splitsAt _ (sorted.imp fun {item other} apart before => ?_)
  rw [Bool.not_eq_true'] at before ⊢
  exact order.trans apart before

theorem count_behind {right : List α} (sorted : IsSorted lt right) (last : α) :
    let among := right.length - count .lower (fun item => !lt item last) right.reverse
    (∀ item ∈ right.take among, lt item last = true) ∧
      ∀ item ∈ right.drop among, lt item last = false := by
  have splits : SplitsAt (fun item => !lt item last) right.reverse
      (count .lower (fun item => !lt item last) right.reverse) := by
    refine count_splitsAt _ ((isSorted_reverse.2 sorted).imp fun {item other} apart before => ?_)
    rw [Bool.not_eq_true'] at before ⊢
    exact order.trans before apart
  refine ⟨fun item member => ?_, fun item member => ?_⟩
  · have failed := splits.back item (by rw [List.drop_reverse, List.mem_reverse]; exact member)
    simpa using failed
  · have passed := splits.front item (by rw [List.take_reverse, List.mem_reverse]; exact member)
    simpa using passed

theorem merge_sorted (patience : Nat) {left right : List α} (sorted : IsSorted lt left)
    (sorted' : IsSorted lt right) : IsSorted lt (merge lt patience left right).2 := by
  unfold merge
  split
  next => exact sorted
  next first rest =>
    have splits := count_before order sorted first
    generalize count .upper (fun item => !lt first item) left = before at splits ⊢
    obtain ⟨front, back, across⟩ := sorted.cut before
    have early : ∀ item ∈ left.take before, ∀ other ∈ first :: rest, lt other item = false :=
      fun item member => sorted'.of_head order (by simpa using splits.front item member)
    dsimp only
    split
    next none =>
      rw [List.getLast?_eq_none_iff, List.drop_eq_nil_iff] at none
      rw [List.take_of_length_le none] at early
      exact List.pairwise_append.2 ⟨sorted, sorted', early⟩
    next last found =>
      obtain ⟨earlier, ends⟩ := List.getLast?_eq_some_iff.1 found
      have whole : left = left.take before ++ earlier ++ [last] := by
        rw [List.append_assoc, ← ends, List.take_append_drop]
      have atMost : ∀ item ∈ left, lt last item = false := sorted.le_last order whole
      obtain ⟨lower, upper⟩ := count_behind order sorted' last
      generalize (first :: rest).length -
        count .lower (fun item => !lt item last) (first :: rest).reverse = among at lower upper ⊢
      have behind : ∀ item ∈ left, ∀ other ∈ (first :: rest).drop among, lt other item = false :=
        fun item member other later => order.trans (atMost item member) (upper other later)
      split
      next none =>
        rw [none, List.drop_zero] at behind
        exact List.pairwise_append.2 ⟨sorted, sorted', behind⟩
      next some =>
        obtain ⟨front', back', across'⟩ := sorted'.cut among
        have begins : (first :: rest).take among = first :: rest.take (among - 1) := by
          rw [List.take_cons (by omega)]
        have inner := mergeInner_sorted order patience ends begins back front'
          (fun item member => by simpa using splits.back item member) lower
        refine inner.between (mergeInner_perm lt patience _ _) front back' ?_ ?_
        · rw [List.append_assoc, List.take_append_drop]
          intro item member
          exact List.forall_mem_append.2 ⟨across item member, early item member⟩
        · exact List.forall_mem_append.2
            ⟨fun item member => behind item (List.mem_of_mem_drop member), across'⟩

end Merge

end Sorting

end DocMarkers
