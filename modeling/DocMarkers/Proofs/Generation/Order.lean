import DocMarkers.Proofs.Generation.Progress
import DocMarkers.Proofs.Generation.Sequence

set_option autoImplicit false

namespace DocMarkers

namespace Place

variable {place : Place}

def stage : Place → Nat
  | fresh _ => 0
  | waitingToExchange _ => 1
  | waitingToLoad _ => 1
  | loading _ _ => 2
  | waitingToComplete _ => 3
  | completing _ => 4
  | ended _ => 5

@[simp] theorem stage_fresh (job : Job) : (fresh job).stage = 0 := rfl

@[simp] theorem stage_waitingToExchange (name : Text) : (waitingToExchange name).stage = 1 := rfl

@[simp] theorem stage_waitingToLoad (aim : Aim) : (waitingToLoad aim).stage = 1 := rfl

@[simp] theorem stage_loading (model : Text) (aim : Aim) : (loading model aim).stage = 2 := rfl

@[simp] theorem stage_waitingToComplete (call : Call) : (waitingToComplete call).stage = 3 := rfl

@[simp] theorem stage_completing (call : Call) : (completing call).stage = 4 := rfl

@[simp] theorem stage_ended (result : Except Failure (Option Text)) : (ended result).stage = 5 :=
  rfl

theorem stage_awaitsLoad (awaits : place.awaitsLoad = false) : place.stage ≠ 1 := by
  cases place <;> simp_all [stage, awaitsLoad]

theorem stage_isLoading (outside : place.isLoading = false) : place.stage ≠ 2 := by
  cases place <;> simp_all [stage, isLoading]

theorem stage_awaitsCompletion (awaits : place.awaitsCompletion = false) : place.stage ≠ 3 := by
  cases place <;> simp_all [stage, awaitsCompletion]

theorem stage_isCompleting (outside : place.isCompleting = false) : place.stage ≠ 4 := by
  cases place <;> simp_all [stage, isCompleting]

theorem stage_le (place : Place) : place.stage ≤ 5 := by
  cases place <;> simp [stage]

theorem ended_of_stage (last : place.stage = 5) : ∃ result, place = .ended result := by
  cases place with
  | ended result => exact ⟨result, rfl⟩
  | _ => simp [stage] at last

/-- Unless it ended, a task is not farther than one that came before it, and it loads or completes
only once that one ended. -/
def Precedes (earlier later : Place) : Prop :=
  later.stage = 5 ∨
    later.stage ≤ earlier.stage ∧ (later.stage = 2 ∨ later.stage = 4 → earlier.stage = 5)

theorem precedes_of_ended {earlier : Place} (ended : earlier.stage = 5) (later : Place) :
    earlier.Precedes later :=
  .inr ⟨ended ▸ later.stage_le, fun _ => ended⟩

end Place

namespace Lock.Guards

variable {lock : Lock} {inside outside : Place → Bool} {tasks : List Place} {task earlier : Nat}
  {place : Place}

theorem clear_of_free (guards : lock.Guards inside outside tasks) (free : lock.isFree = true)
    (there : tasks[earlier]? = some place) : outside place = false ∧ inside place = false := by
  obtain ⟨open', line⟩ := isFree_iff.1 free
  refine ⟨?_, guards.not_inside open' (List.mem_of_getElem? there)⟩
  simpa [line, there] using guards.inLine earlier

theorem clear_of_first (guards : lock.Guards inside outside tasks)
    (sorted : lock.line.Pairwise (· < ·)) (first : lock.next? = some task) (less : earlier < task)
    (there : tasks[earlier]? = some place) : outside place = false ∧ inside place = false := by
  obtain ⟨open', rest, line⟩ := next?_eq_some first
  refine ⟨?_, guards.not_inside open' (List.mem_of_getElem? there)⟩
  have absent : earlier ∉ lock.line := by
    rw [line] at sorted ⊢
    intro member
    rcases List.mem_cons.1 member with rfl | member
    · omega
    · have more := (List.pairwise_cons.1 sorted).1 earlier member
      omega
  simpa [guards.inLine, there] using absent

-- One that comes after all that wait stands behind them.
theorem sorted_join (guards : lock.Guards inside outside tasks)
    (sorted : lock.line.Pairwise (· < ·))
    (last : ∀ later ≥ task, tasks[later]?.any outside = false) :
    (lock.join task).line.Pairwise (· < ·) := by
  refine List.pairwise_append.2 ⟨sorted, List.pairwise_singleton _ _, ?_⟩
  rintro other member _ same
  rw [List.mem_singleton.1 same]
  refine Nat.lt_of_not_le fun later => ?_
  have waits := (guards.inLine other).1 member
  simp [last other later] at waits

end Lock.Guards

namespace SharedGenerator

variable {τ : Type} {s next : SharedGenerator τ} {task earlier : Nat} {aim : Aim}
  {old new place : Place}

structure InOrder (s : SharedGenerator τ) : Prop where
  coherent : s.Coherent
  stays : ∀ place ∈ s.tasks, place.isExchanging = false
  precedes : ∀ earlier later : Nat, earlier < later → ∀ place other : Place,
    s.tasks[earlier]? = some place → s.tasks[later]? = some other → place.Precedes other
  loadLine : s.loadLock.line.Pairwise (· < ·)
  completionLine : s.completionLock.line.Pairwise (· < ·)
  provided : s.generator.isReady = false → ∀ place ∈ s.tasks, place.stage ≠ 3 ∧ place.stage ≠ 4

def Clear (s : SharedGenerator τ) (task : Nat) : Prop :=
  s.isFresh task = true → ∀ earlier < task, ∀ place, s.tasks[earlier]? = some place →
    1 ≤ place.stage ∧ (s.generator.isReady = true → 3 ≤ place.stage)

namespace InOrder

variable (inOrder : s.InOrder)
include inOrder

theorem ended_before_lock (here : s.tasks[task]? = some old)
    (underWay : old.stage = 2 ∨ old.stage = 4) (less : earlier < task)
    (there : s.tasks[earlier]? = some place) : place.stage = 5 := by
  rcases inOrder.precedes earlier task less place old there here with ended | ⟨-, ended⟩
  · omega
  · exact ended underWay

theorem past_load (here : s.tasks[task]? = some (.waitingToLoad aim))
    (first : s.loadLock.next? = some task) (less : earlier < task)
    (there : s.tasks[earlier]? = some place) : 3 ≤ place.stage := by
  obtain ⟨notWaiting, notLoading⟩ :=
    inOrder.coherent.loadLock.clear_of_first inOrder.loadLine first less there
  have waiting := Place.stage_awaitsLoad notWaiting
  have loading := Place.stage_isLoading notLoading
  rcases inOrder.precedes earlier task less place _ there here with ended | ⟨atLeast, -⟩
  · simp at ended
  · simp at atLeast
    omega

theorem past_completion {call : Call} (here : s.tasks[task]? = some (.waitingToComplete call))
    (first : s.completionLock.next? = some task) (less : earlier < task)
    (there : s.tasks[earlier]? = some place) : place.stage = 5 := by
  obtain ⟨notWaiting, notCompleting⟩ :=
    inOrder.coherent.completionLock.clear_of_first inOrder.completionLine first less there
  have waiting := Place.stage_awaitsCompletion notWaiting
  have completing := Place.stage_isCompleting notCompleting
  have atMost := place.stage_le
  rcases inOrder.precedes earlier task less place _ there here with ended | ⟨atLeast, -⟩
  · simp at ended
  · simp at atLeast
    omega

theorem ended_of_missing (missing : s.generator.isReady = false)
    (there : s.tasks[earlier]? = some place) (past : 3 ≤ place.stage) : place.stage = 5 := by
  have apart := inOrder.provided missing place (List.mem_of_getElem? there)
  have atMost := place.stage_le
  omega

theorem ended_of_missing_of_free (missing : s.generator.isReady = false)
    (free : s.loadLock.isFree = true) (there : s.tasks[earlier]? = some place)
    (gone : 1 ≤ place.stage) : place.stage = 5 := by
  obtain ⟨notWaiting, notLoading⟩ := inOrder.coherent.loadLock.clear_of_free free there
  have waiting := Place.stage_awaitsLoad notWaiting
  have loading := Place.stage_isLoading notLoading
  exact inOrder.ended_of_missing missing there (by omega)

theorem ended_of_free (free : s.completionLock.isFree = true)
    (there : s.tasks[earlier]? = some place) (past : 3 ≤ place.stage) : place.stage = 5 := by
  obtain ⟨notWaiting, notCompleting⟩ := inOrder.coherent.completionLock.clear_of_free free there
  have waiting := Place.stage_awaitsCompletion notWaiting
  have completing := Place.stage_isCompleting notCompleting
  have atMost := place.stage_le
  omega

theorem not_loading (ready : s.generator.isReady = true) (member : place ∈ s.tasks) :
    place.isLoading = false := by
  cases place with
  | loading model aim =>
    have missing := (inOrder.coherent.loading model aim member).1
    simp [ready] at missing
  | _ => rfl

theorem moved (here : s.tasks[task]? = some old) (tasks : next.tasks = s.tasks.set task new)
    (coherent : next.Coherent) (stays : new.isExchanging = false)
    (onward : old.stage ≤ new.stage) (open' : old.stage ≠ 5)
    (behind : ∀ earlier < task, ∀ place, s.tasks[earlier]? = some place → place.Precedes new)
    (loadLine : next.loadLock.line.Pairwise (· < ·))
    (completionLine : next.completionLock.line.Pairwise (· < ·))
    (provided : next.generator.isReady = false →
      s.generator.isReady = false ∧ new.stage ≠ 3 ∧ new.stage ≠ 4) : next.InOrder := by
  refine ⟨coherent, ?_, ?_, loadLine, completionLine, ?_⟩
  · intro place member
    rw [tasks] at member
    rcases List.mem_or_eq_of_mem_set member with member | rfl
    · exact inOrder.stays place member
    · exact stays
  · intro earlier later less place other there here'
    rw [tasks] at there here'
    by_cases last : later = task
    · subst last
      rw [List.getElem?_set_ne (by omega)] at there
      rw [List.getElem?_set_self (List.getElem?_eq_some_iff.1 here).1] at here'
      exact Option.some.inj here' ▸ behind earlier less place there
    · rw [List.getElem?_set_ne (Ne.symm last)] at here'
      by_cases same : earlier = task
      · subst same
        rw [List.getElem?_set_self (List.getElem?_eq_some_iff.1 here).1] at there
        obtain rfl := Option.some.inj there
        have before := inOrder.precedes earlier later less old other here here'
        unfold Place.Precedes at before ⊢
        omega
      · rw [List.getElem?_set_ne (Ne.symm same)] at there
        exact inOrder.precedes earlier later less place other there here'
  · intro missing place member
    obtain ⟨missing, apart⟩ := provided missing
    rw [tasks] at member
    rcases List.mem_or_eq_of_mem_set member with member | rfl
    · exact inOrder.provided missing place member
    · exact apart

theorem none_waits_after (here : s.tasks[task]? = some old) {outside : Place → Bool}
    (stage : ∀ place : Place, outside place = true → old.stage < place.stage ∧ place.stage ≠ 5)
    (later : Nat) (after : later ≥ task) : s.tasks[later]?.any outside = false := by
  cases there : s.tasks[later]? with
  | none => rfl
  | some place =>
    cases waits : outside place with
    | false => simpa using waits
    | true =>
      obtain ⟨farther, notEnded⟩ := stage place waits
      by_cases same : later = task
      · subst same
        obtain rfl : old = place := Option.some.inj (here.symm.trans there)
        omega
      · rcases inOrder.precedes task later (by omega) old place here there with ended | ⟨atMost, -⟩
        · exact absurd ended notEnded
        · omega

theorem ensured_of_ready (here : s.tasks[task]? = some old) (early : old.stage < 3)
    (ahead : ∀ earlier < task, ∀ place, s.tasks[earlier]? = some place → 3 ≤ place.stage)
    {generator : Generator} {world : World τ} {loadLock : Lock} (ready : generator.isReady = true)
    (sorted : loadLock.line.Pairwise (· < ·))
    (ensured : Ensured { s with generator, world, loadLock } task aim next)
    (coherent : next.Coherent) : next.InOrder := by
  cases ensured with
  | finishes =>
    exact inOrder.moved here rfl coherent rfl (by simp; omega) (by omega)
      (fun _ _ _ _ => .inl rfl) sorted inOrder.completionLine (by simp [put, ready])
  | completes _ free =>
    refine inOrder.moved here rfl coherent rfl (by simp; omega) (by omega)
      (fun earlier less place there => ?_) sorted inOrder.completionLine (by simp [put, ready])
    have past := ahead earlier less place there
    exact Place.precedes_of_ended (inOrder.ended_of_free free there past) _
  | queues =>
    refine inOrder.moved here rfl coherent rfl (by simp; omega) (by omega)
      (fun earlier less place there => ?_) sorted ?_ (by simp [put, ready])
    · simpa [Place.Precedes] using ahead earlier less place there
    · refine inOrder.coherent.completionLock.sorted_join inOrder.completionLine
        (inOrder.none_waits_after here fun place waits => ?_)
      cases place <;> simp [Place.awaitsCompletion] at waits ⊢
      omega
  | loads missing => simp [ready] at missing
  | waits missing => simp [ready] at missing

end InOrder

variable [Quantity τ] {event : Option ModelEvent}

theorem Turned.inOrder (turned : Turned s task event next) (inOrder : s.InOrder)
    (clear : s.Clear task) : next.InOrder := by
  have coherent := inOrder.coherent.turned turned
  cases turned with
  | rests => exact inOrder
  | @enters aim _ here ensured =>
    have ahead := clear (by simp [isFresh, here])
    cases ready : s.generator.isReady with
    | true =>
      exact inOrder.ensured_of_ready here (by simp)
        (fun earlier less place there => (ahead earlier less place there).2 ready) ready
        inOrder.loadLine ensured coherent
    | false =>
      cases ensured with
      | loads missing free =>
        refine inOrder.moved here rfl coherent rfl (by simp) (by simp)
          (fun earlier less place there => ?_) inOrder.loadLine inOrder.completionLine
          (fun _ => ⟨missing, by simp⟩)
        exact Place.precedes_of_ended (inOrder.ended_of_missing_of_free missing free there
          (ahead earlier less place there).1) _
      | waits missing =>
        refine inOrder.moved here rfl coherent rfl (by simp) (by simp)
          (fun earlier less place there => ?_) ?_ inOrder.completionLine
          (fun _ => ⟨missing, by simp⟩)
        · have gone := (ahead earlier less place there).1
          simpa [Place.Precedes] using gone
        · refine inOrder.coherent.loadLock.sorted_join inOrder.loadLine
            (inOrder.none_waits_after here fun place waits => ?_)
          cases place <;> simp [Place.awaitsLoad] at waits ⊢
      | finishes there => simp [ready] at there
      | completes there => simp [ready] at there
      | queues there => simp [ready] at there
  | waitsToExchange here =>
    have stays := inOrder.stays _ (List.mem_of_getElem? here)
    simp [Place.isExchanging] at stays
  | exchanges here =>
    have stays := inOrder.stays _ (List.mem_of_getElem? here)
    simp [Place.isExchanging] at stays
  | exchangesInTurn here =>
    have stays := inOrder.stays _ (List.mem_of_getElem? here)
    simp [Place.isExchanging] at stays
  | passes here first ready ensured =>
    exact inOrder.ensured_of_ready here (by simp)
      (fun earlier less place there => inOrder.past_load here first less there) ready
      (inOrder.loadLine.sublist (List.tail_sublist _)) ensured coherent
  | loadsInTurn here first missing =>
    refine inOrder.moved here rfl coherent rfl (by simp) (by simp)
      (fun earlier less place there => ?_) (inOrder.loadLine.sublist (List.tail_sublist _))
      inOrder.completionLine (fun _ => ⟨missing, by simp⟩)
    have past := inOrder.past_load here first less there
    exact Place.precedes_of_ended (inOrder.ended_of_missing missing there past) _
  | loaded here success ensured =>
    have sorted : s.loadLock.giveBack.line.Pairwise (· < ·) := inOrder.loadLine
    refine inOrder.ensured_of_ready here (by simp) (fun earlier less place there => ?_) rfl sorted
      ensured coherent
    have ended := inOrder.ended_before_lock here (.inl rfl) less there
    omega
  | refused here =>
    exact inOrder.moved here rfl coherent rfl (by simp) (by simp)
      (fun _ _ _ _ => .inl rfl) inOrder.loadLine inOrder.completionLine
      (fun missing => ⟨missing, by simp⟩)
  | completesInTurn here first ready =>
    refine inOrder.moved here rfl coherent rfl (by simp) (by simp)
      (fun earlier less place there => ?_) inOrder.loadLine
      (inOrder.completionLine.sublist (List.tail_sublist _)) (by simp [put, ready])
    exact Place.precedes_of_ended (inOrder.past_completion here first less there) _
  | findsNoModel here first missing =>
    have provided := inOrder.provided missing _ (List.mem_of_getElem? here)
    simp at provided
  | completed here =>
    exact inOrder.moved here rfl coherent rfl (by simp) (by simp)
      (fun _ _ _ _ => .inl rfl) inOrder.loadLine inOrder.completionLine
      (fun missing => ⟨missing, by simp⟩)

end SharedGenerator

end DocMarkers
