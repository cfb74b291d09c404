import DocMarkers.Proofs.Generation.Coherence

set_option autoImplicit false

namespace DocMarkers

theorem Place.ended_of_turnsLeft {place : Place} (none : place.turnsLeft = 0) :
    ∃ result, place = .ended result := by
  cases place with
  | ended result => exact ⟨result, rfl⟩
  | _ => simp [Place.turnsLeft] at none

theorem Place.sum_set_lt {tasks : List Place} {task : Nat} {old new : Place}
    (here : tasks[task]? = some old) (fewer : new.turnsLeft < old.turnsLeft) :
    ((tasks.set task new).map turnsLeft).foldl (· + ·) 0 <
      (tasks.map turnsLeft).foldl (· + ·) 0 := by
  rw [← List.sum_eq_foldl_nat, ← List.sum_eq_foldl_nat]
  induction tasks generalizing task with
  | nil => simp at here
  | cons first rest ih =>
    cases task with
    | zero =>
      obtain rfl : first = old := by simpa using here
      simpa using fewer
    | succ task => simpa using ih (by simpa using here)

namespace Lock

variable {lock next : Lock} {task other : Nat}

def Keeps (other : Nat) (lock next : Lock) : Prop :=
  lock.next? = some other → next.next? = some other

theorem keeps_take (free : lock.isFree = true) (other : Nat) : lock.Keeps other lock.take := by
  intro first
  obtain ⟨-, rest, line⟩ := next?_eq_some first
  simp [isFree, line] at free

theorem keeps_join (lock : Lock) (task other : Nat) : lock.Keeps other (lock.join task) := by
  intro first
  obtain ⟨open', rest, line⟩ := next?_eq_some first
  simp [join, next?, open', line]

theorem keeps_giveBack (lock : Lock) (other : Nat) : lock.Keeps other lock.giveBack := by
  intro first
  rwa [giveBack_of_open (next?_eq_some first).1]

theorem keeps_of_first (first : lock.next? = some task) (apart : other ≠ task) (next : Lock) :
    lock.Keeps other next := by
  intro second
  rw [first] at second
  exact absurd (Option.some.inj second).symm apart

end Lock

namespace SharedGenerator

variable {τ : Type} {s next : SharedGenerator τ} {task other : Nat} {aim : Aim}
  {ready : List Nat}

def isFresh (s : SharedGenerator τ) (task : Nat) : Bool :=
  match s.tasks[task]? with
  | some (.fresh _) => true
  | _ => false

theorem Coherent.awaits_load (coherent : s.Coherent) (first : s.loadLock.next? = some task) :
    s.tasks[task]?.any Place.awaitsLoad = true := by
  obtain ⟨-, rest, line⟩ := Lock.next?_eq_some first
  exact (coherent.loadLock.inLine task).1 (by simp [line])

theorem Coherent.awaits_completion (coherent : s.Coherent)
    (first : s.completionLock.next? = some task) :
    s.tasks[task]?.any Place.awaitsCompletion = true := by
  obtain ⟨-, rest, line⟩ := Lock.next?_eq_some first
  exact (coherent.completionLock.inLine task).1 (by simp [line])

theorem Coherent.canGo_iff (coherent : s.Coherent) (task : Nat) :
    s.canGo task = true ↔ s.isFresh task = true ∨ s.isUnderWay task = true ∨
      s.loadLock.next? = some task ∨ s.completionLock.next? = some task := by
  have load := @coherent.awaits_load _ _ task
  have completion := @coherent.awaits_completion _ _ task
  unfold canGo isFresh isUnderWay
  cases here : s.tasks[task]? with
  | none => simp_all
  | some place => cases place <;> simp_all [Place.awaitsLoad, Place.awaitsCompletion]

-- Where nobody is inside and nobody may be let in, nobody waits either.
theorem nobody_waits {lock : Lock} {inside outside : Place → Bool}
    (guards : lock.Guards inside outside s.tasks)
    (notInside : ∀ place ∈ s.tasks, inside place = false)
    (closed : ∀ task, lock.next? ≠ some task) (task : Nat) :
    s.tasks[task]?.any outside = false := by
  have open' : lock.isHeld = false := by
    have held := guards.held
    rw [List.countP_eq_zero.2 (by simpa using notInside)] at held
    simpa using held.symm
  have noLine : lock.line = [] := by
    cases line : lock.line with
    | nil => rfl
    | cons first rest => exact absurd (by simp [Lock.next?, open', line]) (closed first)
  have absent : ¬ s.tasks[task]?.any outside = true := by simp [← guards.inLine, noLine]
  simpa using absent

theorem Coherent.ended_of_still (coherent : s.Coherent)
    (still : ∀ task, s.canGo task = false) {place : Place} (member : place ∈ s.tasks) :
    ∃ result, place = .ended result := by
  have rests (task : Nat) := mt (coherent.canGo_iff task).2 (by simp [still])
  simp only [not_or] at rests
  have notUnderWay {place : Place} (member : place ∈ s.tasks) :
      place.isLoading = false ∧ place.isCompleting = false := by
    obtain ⟨task, here⟩ := List.getElem?_of_mem member
    have underWay := (rests task).2.1
    cases place <;> simp [isUnderWay, here, Place.isLoading, Place.isCompleting] at underWay ⊢
  obtain ⟨task, here⟩ := List.getElem?_of_mem member
  have fresh := (rests task).1
  have load := nobody_waits coherent.loadLock (fun _ member => (notUnderWay member).1)
    (fun task => (rests task).2.2.1) task
  have completion := nobody_waits coherent.completionLock (fun _ member => (notUnderWay member).2)
    (fun task => (rests task).2.2.2) task
  have underWay := notUnderWay member
  cases place with
  | fresh job => simp [isFresh, here] at fresh
  | waitingToExchange name => simp [here, Place.awaitsLoad] at load
  | waitingToLoad aim => simp [here, Place.awaitsLoad] at load
  | loading model aim => simp [Place.isLoading] at underWay
  | waitingToComplete call => simp [here, Place.awaitsCompletion] at completion
  | completing call => simp [Place.isCompleting] at underWay
  | ended result => exact ⟨result, rfl⟩

theorem Ensured.tasks_eq (ensured : Ensured s task aim next) :
    ∃ place, next.tasks = s.tasks.set task place ∧ place.turnsLeft ≤ 4 ∧
      (s.generator.isReady = true → place.turnsLeft ≤ 2) := by
  cases ensured with
  | finishes => exact ⟨_, rfl, by simp [Place.turnsLeft]⟩
  | completes => exact ⟨_, rfl, by simp [Place.turnsLeft]⟩
  | queues => exact ⟨_, rfl, by simp [Place.turnsLeft]⟩
  | loads missing => exact ⟨_, rfl, by simp [Place.turnsLeft], by simp [missing]⟩
  | waits missing => exact ⟨_, rfl, by simp [Place.turnsLeft], by simp [missing]⟩

theorem Ensured.keeps (ensured : Ensured s task aim next) (other : Nat) :
    s.loadLock.Keeps other next.loadLock ∧ s.completionLock.Keeps other next.completionLock := by
  cases ensured with
  | finishes => exact ⟨id, id⟩
  | completes ready free => exact ⟨id, Lock.keeps_take free other⟩
  | queues => exact ⟨id, Lock.keeps_join _ _ _⟩
  | loads missing free => exact ⟨Lock.keeps_take free other, id⟩
  | waits => exact ⟨Lock.keeps_join _ _ _, id⟩

variable [Quantity τ] {event : Option ModelEvent}

theorem Turned.tasks_eq (turned : Turned s task event next) (goes : s.canGo task = true) :
    ∃ old place, s.tasks[task]? = some old ∧ next.tasks = s.tasks.set task place ∧
      place.turnsLeft < old.turnsLeft := by
  cases turned with
  | rests still => simp [still] at goes
  | enters here ensured =>
    obtain ⟨place, tasks, bound, -⟩ := ensured.tasks_eq
    exact ⟨_, place, here, tasks, Nat.lt_of_le_of_lt bound (by simp [Place.turnsLeft])⟩
  | waitsToExchange here => exact ⟨_, _, here, rfl, by simp [Place.turnsLeft]⟩
  | exchanges here free ensured =>
    obtain ⟨place, tasks, bound, -⟩ := ensured.tasks_eq
    exact ⟨_, place, here, tasks, Nat.lt_of_le_of_lt bound (by simp [Place.turnsLeft])⟩
  | exchangesInTurn here first ensured =>
    obtain ⟨place, tasks, bound, -⟩ := ensured.tasks_eq
    exact ⟨_, place, here, tasks, Nat.lt_of_le_of_lt bound (by simp [Place.turnsLeft])⟩
  | passes here first ready ensured =>
    obtain ⟨place, tasks, -, bound⟩ := ensured.tasks_eq
    exact ⟨_, place, here, tasks, Nat.lt_of_le_of_lt (bound ready) (by simp [Place.turnsLeft])⟩
  | loadsInTurn here => exact ⟨_, _, here, rfl, by simp [Place.turnsLeft]⟩
  | loaded here success ensured =>
    obtain ⟨place, tasks, -, bound⟩ := ensured.tasks_eq
    exact ⟨_, place, here, tasks, Nat.lt_of_le_of_lt (bound rfl) (by simp [Place.turnsLeft])⟩
  | refused here => exact ⟨_, _, here, rfl, by simp [Place.turnsLeft]⟩
  | completesInTurn here => exact ⟨_, _, here, rfl, by simp [Place.turnsLeft]⟩
  | findsNoModel here => exact ⟨_, _, here, rfl, by simp [Place.turnsLeft]⟩
  | completed here => exact ⟨_, _, here, rfl, by simp [Place.turnsLeft]⟩

theorem Turned.keeps (turned : Turned s task event next) (apart : other ≠ task) :
    s.loadLock.Keeps other next.loadLock ∧ s.completionLock.Keeps other next.completionLock := by
  cases turned with
  | rests => exact ⟨id, id⟩
  | enters here ensured => exact ensured.keeps other
  | waitsToExchange => exact ⟨Lock.keeps_join _ _ _, id⟩
  | exchanges here free ensured =>
    obtain ⟨load, completion⟩ := ensured.keeps other
    exact ⟨fun first => load (Lock.keeps_giveBack _ _ first), completion⟩
  | exchangesInTurn here first ensured =>
    exact ⟨Lock.keeps_of_first first apart _, (ensured.keeps other).2⟩
  | passes here first ready ensured =>
    exact ⟨Lock.keeps_of_first first apart _, (ensured.keeps other).2⟩
  | loadsInTurn here first => exact ⟨Lock.keeps_of_first first apart _, id⟩
  | loaded here success ensured =>
    obtain ⟨load, completion⟩ := ensured.keeps other
    exact ⟨fun first => load (Lock.keeps_giveBack _ _ first), completion⟩
  | refused => exact ⟨Lock.keeps_giveBack _ _, id⟩
  | completesInTurn here first => exact ⟨id, Lock.keeps_of_first first apart _⟩
  | findsNoModel here first => exact ⟨id, Lock.keeps_of_first first apart _⟩
  | completed => exact ⟨id, Lock.keeps_giveBack _ _⟩

theorem Turned.turnsLeft_lt (turned : Turned s task event next) (goes : s.canGo task = true) :
    next.turnsLeft < s.turnsLeft := by
  obtain ⟨old, place, here, tasks, fewer⟩ := turned.tasks_eq goes
  rw [turnsLeft, turnsLeft, tasks]
  exact Place.sum_set_lt here fewer

theorem Turned.not_fresh (turned : Turned s task event next) (goes : s.canGo task = true) :
    next.isFresh task = false := by
  obtain ⟨old, place, here, tasks, fewer⟩ := turned.tasks_eq goes
  have within := (List.getElem?_eq_some_iff.1 here).1
  cases place with
  | fresh job => cases old <;> simp [Place.turnsLeft] at fewer
  | _ => simp [isFresh, tasks, within]

theorem Turned.eq_of_still (turned : Turned s task event next) (still : s.canGo task = false) :
    next = s := by
  cases turned <;> simp_all [canGo]

theorem Turned.others (turned : Turned s task event next) {other : Nat} (apart : other ≠ task) :
    next.tasks[other]? = s.tasks[other]? := by
  cases goes : s.canGo task with
  | false => rw [turned.eq_of_still goes]
  | true =>
    obtain ⟨_, place, -, tasks, -⟩ := turned.tasks_eq goes
    rw [tasks, List.getElem?_set_ne (Ne.symm apart)]

theorem Turned.gone (turned : Turned s task event next) : next.isFresh task = false := by
  cases goes : s.canGo task with
  | true => exact turned.not_fresh goes
  | false =>
    rw [turned.eq_of_still goes]
    unfold canGo at goes
    unfold isFresh
    split <;> simp_all

/-- The line of those that are ready holds whoever can go on, once. -/
structure Queued (s : SharedGenerator τ) (ready : List Nat) : Prop where
  once : ready.Nodup
  mem : ∀ task, task ∈ ready ↔ s.canGo task = true

omit [Quantity τ] in
theorem mem_readied (s : SharedGenerator τ) (task other : Nat) (ready : List Nat) :
    other ∈ s.readied task ready ↔
      ((s.loadLock.next? = some other ∨ s.completionLock.next? = some other) ∧ other ∉ ready) ∨
        (other = task ∧ s.isUnderWay task = true) := by
  unfold readied
  split <;> simp [*, or_and_right, or_assoc]

omit [Quantity τ] in
theorem Coherent.nodup_readied (coherent : s.Coherent) (task : Nat) (ready : List Nat) :
    (s.readied task ready).Nodup := by
  have apart (other : Nat) (load : s.loadLock.next? = some other) :
      s.completionLock.next? ≠ some other := by
    intro completion
    have waits := coherent.awaits_load load
    have awaits := coherent.awaits_completion completion
    cases here : s.tasks[other]? with
    | none => simp [here] at waits
    | some place =>
      cases place <;> simp [here, Place.awaitsLoad, Place.awaitsCompletion] at waits awaits
  have letIn : (s.loadLock.next?.toList ++ s.completionLock.next?.toList).Nodup := by
    cases load : s.loadLock.next? with
    | none => cases completion : s.completionLock.next? <;> simp
    | some first =>
      cases completion : s.completionLock.next? with
      | none => simp
      | some second => simpa [completion, eq_comm] using apart first load
  have notLetIn (underWay : s.isUnderWay task = true) :
      s.loadLock.next? ≠ some task ∧ s.completionLock.next? ≠ some task := by
    have load := @coherent.awaits_load _ _ task
    have completion := @coherent.awaits_completion _ _ task
    unfold isUnderWay at underWay
    split at underWay <;> simp_all [Place.awaitsLoad, Place.awaitsCompletion]
  unfold readied
  split
  next underWay =>
    obtain ⟨load, completion⟩ := notLetIn underWay
    refine List.nodup_append.2 ⟨letIn.sublist List.filter_sublist, by simp, ?_⟩
    rintro other member _ last rfl
    obtain rfl := List.mem_singleton.1 last
    simp [load, completion] at member
  next => simpa only [List.append_nil] using letIn.sublist List.filter_sublist

theorem Turned.canGo_other (turned : Turned s task event next) (coherent : s.Coherent)
    (apart : other ≠ task) :
    next.canGo other = true ↔ s.canGo other = true ∨
      next.loadLock.next? = some other ∨ next.completionLock.next? = some other := by
  obtain ⟨load, completion⟩ := turned.keeps apart
  have stays : next.isFresh other = s.isFresh other ∧
      next.isUnderWay other = s.isUnderWay other := by
    simp [isFresh, isUnderWay, turned.others apart]
  rw [(coherent.turned turned).canGo_iff, coherent.canGo_iff, stays.1, stays.2]
  constructor
  · rintro (fresh | underWay | first)
    · exact .inl (.inl fresh)
    · exact .inl (.inr (.inl underWay))
    · exact .inr first
  · rintro ((fresh | underWay | first | first) | first)
    · exact .inl fresh
    · exact .inr (.inl underWay)
    · exact .inr (.inr (.inl (load first)))
    · exact .inr (.inr (.inr (completion first)))
    · exact .inr (.inr first)

theorem Queued.turn (coherent : s.Coherent) (queued : s.Queued (task :: ready)) :
    (s.turn task).Queued (ready ++ (s.turn task).readied task ready) := by
  have turned := turned s task
  have after := coherent.turned turned
  obtain ⟨absent, once⟩ := List.nodup_cons.1 queued.once
  refine ⟨?_, fun other => ?_⟩
  · have new (other : Nat) (member : other ∈ (s.turn task).readied task ready) :
        other ∉ ready := by
      rcases (mem_readied _ _ _ _).1 member with ⟨-, new⟩ | ⟨rfl, -⟩
      · exact new
      · exact absent
    refine List.nodup_append.2 ⟨once, after.nodup_readied task ready, ?_⟩
    rintro other old _ member rfl
    exact new other member old
  · rw [List.mem_append, mem_readied]
    by_cases same : other = task
    · subst same
      simp [after.canGo_iff, absent, turned.gone, or_comm, or_assoc]
    · have known : other ∈ ready ↔ s.canGo other = true := by simp [← queued.mem, same]
      rw [turned.canGo_other coherent same, ← known]
      by_cases member : other ∈ ready <;> simp [member, same]

theorem Queued.all_ended {left : Nat} (coherent : s.Coherent) (queued : s.Queued ready)
    (enough : s.turnsLeft ≤ left) {place : Place}
    (member : place ∈ (inOrderOfReadiness left ready s).tasks) :
    ∃ result, place = .ended result := by
  induction left generalizing s ready with
  | zero =>
    rw [turnsLeft, ← List.sum_eq_foldl_nat] at enough
    exact Place.ended_of_turnsLeft
      (List.sum_eq_zero_iff_forall_eq_nat.1 (Nat.le_zero.1 enough) _ (List.mem_map_of_mem member))
  | succ left ih =>
    cases ready with
    | nil =>
      refine coherent.ended_of_still (fun task => ?_) member
      simpa using mt (queued.mem task).2
    | cons task ready =>
      have turned := turned s task
      have fewer := turned.turnsLeft_lt ((queued.mem task).1 List.mem_cons_self)
      exact ih (coherent.turned turned) (queued.turn coherent) (by omega) member

omit [Quantity τ] in
theorem queued_start (g : Generator) (world : World τ) (jobs : List Job) :
    (start g world jobs).Queued (List.range jobs.length) := by
  refine ⟨List.nodup_range, fun task => ?_⟩
  by_cases within : task < jobs.length <;> simp [canGo, start, within]

theorem length_turns (s : SharedGenerator τ) (order : List Nat) :
    (s.turns order).tasks.length = s.tasks.length := by
  induction order generalizing s with
  | nil => rfl
  | cons task order ih =>
    refine (ih (s.turn task)).trans ?_
    have turned := turned s task
    cases goes : s.canGo task with
    | false => rw [turned.eq_of_still goes]
    | true =>
      obtain ⟨_, place, -, tasks, -⟩ := turned.tasks_eq goes
      rw [tasks, List.length_set]

theorem inOrderOfReadiness_eq_turns (left : Nat) (ready : List Nat) (s : SharedGenerator τ) :
    ∃ rest, inOrderOfReadiness left ready s = s.turns (ready.take left ++ rest) := by
  induction left generalizing ready s with
  | zero => exact ⟨[], rfl⟩
  | succ left ih =>
    cases ready with
    | nil => exact ⟨[], rfl⟩
    | cons task ready =>
      obtain ⟨rest, turns⟩ := ih (ready ++ (s.turn task).readied task ready) (s.turn task)
      rw [List.take_append, List.append_assoc] at turns
      exact ⟨_, turns⟩

theorem gather_ends (g : Generator) (world : World τ) (jobs : List Job) {place : Place}
    (member : place ∈ (gather g world jobs).tasks) : ∃ result, place = .ended result :=
  (queued_start g world jobs).all_ended (.start g world jobs) (Nat.le_refl _) member

end SharedGenerator

end DocMarkers
