import DocMarkers.Proofs.Generation.Turn

set_option autoImplicit false

namespace DocMarkers

namespace Place

def isLoading : Place → Bool
  | loading _ _ => true
  | _ => false

def isCompleting : Place → Bool
  | completing _ => true
  | _ => false

def awaitsLoad : Place → Bool
  | waitingToExchange _ => true
  | waitingToLoad _ => true
  | _ => false

def awaitsCompletion : Place → Bool
  | waitingToComplete _ => true
  | _ => false

end Place

namespace Lock

theorem next?_eq_some {lock : Lock} {task : Nat} (first : lock.next? = some task) :
    lock.isHeld = false ∧ ∃ rest, lock.line = task :: rest := by
  unfold next? at first
  cases held : lock.isHeld with
  | true => simp [held] at first
  | false => exact ⟨rfl, List.head?_eq_some_iff.1 (by simpa [held] using first)⟩

theorem isFree_iff {lock : Lock} :
    lock.isFree = true ↔ lock.isHeld = false ∧ lock.line = [] := by
  simp [isFree]

theorem giveBack_of_open {lock : Lock} (open' : lock.isHeld = false) : lock.giveBack = lock := by
  simp [giveBack, ← open']

structure Guards (lock : Lock) (inside outside : Place → Bool) (tasks : List Place) : Prop where
  held : tasks.countP inside = lock.isHeld.toNat
  once : lock.line.Nodup
  inLine : ∀ task, task ∈ lock.line ↔ tasks[task]?.any outside = true

namespace Guards

variable {lock : Lock} {inside outside : Place → Bool} {tasks : List Place} {task : Nat}
  {old : Place}

theorem inside_le_one (guards : lock.Guards inside outside tasks) : tasks.countP inside ≤ 1 := by
  rw [guards.held]
  exact Bool.toNat_le lock.isHeld

theorem not_inside (guards : lock.Guards inside outside tasks) (open' : lock.isHeld = false)
    {place : Place} (member : place ∈ tasks) : inside place = false := by
  have none : tasks.countP inside = 0 := by simp [guards.held, open']
  simpa using List.countP_eq_zero.1 none place member

theorem any_set (here : tasks[task]? = some old) (test : Place → Bool) (new : Place)
    (other : Nat) :
    (tasks.set task new)[other]?.any test =
      if other = task then test new else tasks[other]?.any test := by
  have within : task < tasks.length := (List.getElem?_eq_some_iff.1 here).1
  by_cases same : other = task
  · simp [same, within]
  · simp [same, List.getElem?_set_ne (Ne.symm same)]

theorem countP_set (here : tasks[task]? = some old) (test : Place → Bool) (new : Place) :
    (tasks.set task new).countP test + (test old).toNat = tasks.countP test + (test new).toNat := by
  obtain ⟨within, rfl⟩ := List.getElem?_eq_some_iff.1 here
  have counted : (test tasks[task]).toNat ≤ tasks.countP test := by
    cases tested : test tasks[task] with
    | false => simp
    | true => exact List.countP_pos_iff.2 ⟨_, List.getElem_mem within, tested⟩
  rw [List.countP_set within]
  cases tested : test tasks[task] <;> cases test new <;>
    simp only [tested, Bool.toNat_true, Bool.toNat_false, Bool.false_eq_true, if_true,
      if_false] at counted ⊢ <;> omega

theorem move (guards : lock.Guards inside outside tasks) (here : tasks[task]? = some old)
    {new : Place} {next : Lock}
    (held : next.isHeld.toNat + (inside old).toNat = lock.isHeld.toNat + (inside new).toNat)
    (once : next.line.Nodup)
    (inLine : ∀ other, other ∈ next.line ↔
      if other = task then outside new = true else other ∈ lock.line) :
    next.Guards inside outside (tasks.set task new) where
  held := by
    have counted := countP_set here inside new
    have before := guards.held
    omega
  once := once
  inLine other := by
    rw [inLine other, any_set here]
    split
    · rfl
    · exact guards.inLine other

variable {new : Place}

theorem not_mem_line (guards : lock.Guards inside outside tasks) (here : tasks[task]? = some old)
    (notOutside : outside old = false) : task ∉ lock.line := by
  simp [guards.inLine, here, notOutside]

theorem stay (guards : lock.Guards inside outside tasks) (here : tasks[task]? = some old)
    (sameInside : inside new = inside old) (wasOutside : outside old = false)
    (isOutside : outside new = false) : lock.Guards inside outside (tasks.set task new) := by
  refine guards.move here (by simp [sameInside]) guards.once fun other => ?_
  split
  next same => simpa [same, isOutside] using guards.not_mem_line here wasOutside
  next => rfl

theorem take (guards : lock.Guards inside outside tasks) (here : tasks[task]? = some old)
    (free : lock.isFree = true) (wasInside : inside old = false) (isInside : inside new = true)
    (wasOutside : outside old = false) (isOutside : outside new = false) :
    lock.take.Guards inside outside (tasks.set task new) := by
  obtain ⟨open', -⟩ := isFree_iff.1 free
  refine guards.move here (by simp [Lock.take, open', wasInside, isInside]) guards.once
    fun other => ?_
  split
  next same => simpa [Lock.take, same, isOutside] using guards.not_mem_line here wasOutside
  next => rfl

theorem join (guards : lock.Guards inside outside tasks) (here : tasks[task]? = some old)
    (sameInside : inside new = inside old) (wasOutside : outside old = false)
    (isOutside : outside new = true) :
    (lock.join task).Guards inside outside (tasks.set task new) := by
  have newcomer := guards.not_mem_line here wasOutside
  refine guards.move here (by simp [Lock.join, sameInside]) ?_ fun other => ?_
  · have apart : ∀ other ∈ lock.line, other ≠ task := by
      rintro other member rfl
      exact newcomer member
    simpa [Lock.join, List.nodup_append, guards.once] using apart
  · split
    next same => simp [Lock.join, same, isOutside]
    next apart => simp [Lock.join, apart]

theorem mem_tail (guards : lock.Guards inside outside tasks) (first : lock.next? = some task)
    (other : Nat) : other ∈ lock.line.tail ↔ other ≠ task ∧ other ∈ lock.line := by
  obtain ⟨-, rest, line⟩ := next?_eq_some first
  have once := guards.once
  rw [line] at once ⊢
  have absent := (List.nodup_cons.1 once).1
  constructor
  · intro member
    exact ⟨fun same => absent (same ▸ member), List.mem_cons_of_mem _ member⟩
  · rintro ⟨apart, member⟩
    exact (List.mem_cons.1 member).resolve_left apart

theorem letIn (guards : lock.Guards inside outside tasks) (here : tasks[task]? = some old)
    (first : lock.next? = some task) (wasInside : inside old = false)
    (isInside : inside new = true) (isOutside : outside new = false) :
    lock.letIn.Guards inside outside (tasks.set task new) := by
  obtain ⟨open', -⟩ := next?_eq_some first
  refine guards.move here (by simp [Lock.letIn, open', wasInside, isInside])
    (guards.once.sublist (List.tail_sublist _)) fun other => ?_
  rw [Lock.letIn, guards.mem_tail first]
  split
  next same => simp [same, isOutside]
  next apart => simp [apart]

-- Whoever is let in may give the lock back in the same turn.
theorem pass (guards : lock.Guards inside outside tasks) (here : tasks[task]? = some old)
    (first : lock.next? = some task) (sameInside : inside new = inside old)
    (isOutside : outside new = false) :
    lock.letIn.giveBack.Guards inside outside (tasks.set task new) := by
  obtain ⟨open', -⟩ := next?_eq_some first
  refine guards.move here (by simp [giveBack, open', sameInside])
    (guards.once.sublist (List.tail_sublist _)) fun other => ?_
  rw [giveBack, Lock.letIn, guards.mem_tail first]
  split
  next same => simp [same, isOutside]
  next apart => simp [apart]

theorem leave (guards : lock.Guards inside outside tasks) (here : tasks[task]? = some old)
    (wasInside : inside old = true) (isInside : inside new = false)
    (wasOutside : outside old = false) (isOutside : outside new = false) :
    lock.giveBack.Guards inside outside (tasks.set task new) := by
  have held : lock.isHeld.toNat = 1 := by
    have counted := countP_set here inside new
    have atMost := Bool.toNat_le lock.isHeld
    rw [guards.held, wasInside, isInside] at counted
    simp only [Bool.toNat_true, Bool.toNat_false] at counted
    omega
  refine guards.move here (by simp [giveBack, held, wasInside, isInside]) guards.once
    fun other => ?_
  split
  next same => simpa [giveBack, same, isOutside] using guards.not_mem_line here wasOutside
  next => rfl

end Guards

end Lock

end DocMarkers
