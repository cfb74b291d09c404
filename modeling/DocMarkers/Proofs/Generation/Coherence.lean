import DocMarkers.Proofs.Generation.Guard

set_option autoImplicit false

namespace DocMarkers

theorem Generator.announce_eq {τ : Type} (g : Generator) (event : Progress) (world : World τ) :
    g.announce event world =
      { world with progress := world.progress ++ if g.announces then [event] else [] } := by
  unfold Generator.announce
  split <;> simp [World.announce]

theorem Generator.complete_snd {τ : Type} [Quantity τ] (g : Generator) (call : Call)
    (world : World τ) : (g.complete call world).2 = (world.complete call).2 := by
  unfold Generator.complete
  split <;> simp [*]

namespace SharedGenerator

variable {τ : Type}

structure Coherent (s : SharedGenerator τ) : Prop where
  loadLock : s.loadLock.Guards Place.isLoading Place.awaitsLoad s.tasks
  completionLock : s.completionLock.Guards Place.isCompleting Place.awaitsCompletion s.tasks
  loading : ∀ model aim, Place.loading model aim ∈ s.tasks →
    s.generator.isReady = false ∧ s.generator.modelId = model

@[simp] theorem put_put (s : SharedGenerator τ) (task : Nat) (first second : Place) :
    (s.put task first).put task second = s.put task second := by
  simp [put]

-- Where the task was does not matter for how it goes on.
theorem Ensured.of_put {s next : SharedGenerator τ} {task : Nat} {aim : Aim}
    (ensured : Ensured s task aim next) (place : Place) :
    Ensured (s.put task place) task aim next := by
  cases ensured with
  | finishes ready => simpa using @Ensured.finishes _ (s.put task place) task ready
  | @completes prompt options ready free =>
    simpa [put] using @Ensured.completes _ (s.put task place) task prompt options ready free
  | @queues prompt options ready busy =>
    simpa [put] using @Ensured.queues _ (s.put task place) task prompt options ready busy
  | loads missing free =>
    simpa [put, beginLoad] using @Ensured.loads _ (s.put task place) task aim missing free
  | waits missing busy =>
    simpa [put] using @Ensured.waits _ (s.put task place) task aim missing busy

namespace Coherent

variable {s next : SharedGenerator τ} {task : Nat} {old new : Place} {aim : Aim} {model : Text}
  {job : Job}

theorem loading_set (coherent : s.Coherent) (harmless : new.isLoading = false) (model : Text)
    (aim : Aim) (member : Place.loading model aim ∈ s.tasks.set task new) :
    s.generator.isReady = false ∧ s.generator.modelId = model := by
  rcases List.mem_or_eq_of_mem_set member with member | rfl
  · exact coherent.loading model aim member
  · contradiction

theorem loading_beginLoad (coherent : s.Coherent) (missing : s.generator.isReady = false)
    (model : Text) (aim other : Aim)
    (member : Place.loading model aim ∈
      s.tasks.set task (.loading s.generator.modelId other)) :
    s.generator.isReady = false ∧ s.generator.modelId = model := by
  rcases List.mem_or_eq_of_mem_set member with member | same
  · exact coherent.loading model aim member
  · cases same
    exact ⟨missing, rfl⟩

theorem not_loading {lock : Lock} {tasks : List Place}
    (guards : lock.Guards Place.isLoading Place.awaitsLoad tasks) (open' : lock.isHeld = false)
    (model : Text) (aim : Aim) : Place.loading model aim ∉ tasks := by
  intro member
  have outside := guards.not_inside open' member
  contradiction

theorem ensured (coherent : s.Coherent) (here : s.tasks[task]? = some (.fresh job))
    (ensured : Ensured s task aim next) : next.Coherent := by
  cases ensured with
  | finishes ready =>
    exact ⟨coherent.loadLock.stay here rfl rfl rfl, coherent.completionLock.stay here rfl rfl rfl,
      coherent.loading_set rfl⟩
  | completes ready free =>
    exact ⟨coherent.loadLock.stay here rfl rfl rfl,
      coherent.completionLock.take here free rfl rfl rfl rfl, coherent.loading_set rfl⟩
  | queues ready busy =>
    exact ⟨coherent.loadLock.stay here rfl rfl rfl, coherent.completionLock.join here rfl rfl rfl,
      coherent.loading_set rfl⟩
  | loads missing free =>
    exact ⟨coherent.loadLock.take here free rfl rfl rfl rfl,
      coherent.completionLock.stay here rfl rfl rfl,
      fun _ _ => coherent.loading_beginLoad missing _ _ _⟩
  | waits missing busy =>
    exact ⟨coherent.loadLock.join here rfl rfl rfl, coherent.completionLock.stay here rfl rfl rfl,
      coherent.loading_set rfl⟩

-- A task that goes on after it gave a lock back does so as a fresh one would.
theorem resumed (ensured : Ensured s task aim next) (within : task < s.tasks.length) (job : Job)
    (coherent : (s.put task (.fresh job)).Coherent) : next.Coherent := by
  have here : (s.put task (.fresh job)).tasks[task]? = some (.fresh job) := by simp [put, within]
  exact coherent.ensured here (ensured.of_put _)

theorem exchanged (coherent : s.Coherent) (here : s.tasks[task]? = some old) {lock : Lock}
    (guards : lock.Guards Place.isLoading Place.awaitsLoad (s.tasks.set task (.fresh .load)))
    (open' : lock.isHeld = false) (name : Text) (wasCompleting : old.isCompleting = false)
    (wasWaiting : old.awaitsCompletion = false)
    (ensured : Ensured { s with generator := s.generator.exchange name, loadLock := lock } task
      .nothing next) : next.Coherent :=
  resumed ensured (List.getElem?_eq_some_iff.1 here).1 .load
    ⟨guards, coherent.completionLock.stay here (by rw [wasCompleting]; rfl) wasWaiting rfl,
      fun model aim member => absurd member (not_loading guards open' model aim)⟩

theorem start (g : Generator) (world : World τ) (jobs : List Job) :
    (start g world jobs).Coherent := by
  have guards {inside outside : Place → Bool} (notInside : ∀ job, inside (.fresh job) = false)
      (notOutside : ∀ job, outside (.fresh job) = false) :
      Lock.Guards {} inside outside (jobs.map .fresh) := by
    refine ⟨?_, List.nodup_nil, fun task => ?_⟩
    · simp [List.countP_map, Function.comp_def, notInside]
    · cases here : jobs[task]? <;> simp [here, notOutside]
  have loadLock := @guards Place.isLoading Place.awaitsLoad (fun _ => rfl) (fun _ => rfl)
  exact ⟨loadLock, guards (fun _ => rfl) (fun _ => rfl),
    fun model aim member => absurd member (not_loading loadLock rfl model aim)⟩

variable [Quantity τ]

theorem turned {event : Option ModelEvent} (coherent : s.Coherent)
    (turned : Turned s task event next) : next.Coherent := by
  cases turned with
  | rests still => exact coherent
  | enters here ensured => exact coherent.ensured here ensured
  | waitsToExchange here busy =>
    exact ⟨coherent.loadLock.join here rfl rfl rfl, coherent.completionLock.stay here rfl rfl rfl,
      coherent.loading_set rfl⟩
  | exchanges here free ensured =>
    obtain ⟨open', -⟩ := Lock.isFree_iff.1 free
    rw [Lock.giveBack_of_open open'] at ensured
    exact coherent.exchanged here (coherent.loadLock.stay here rfl rfl rfl) open' _ rfl rfl ensured
  | exchangesInTurn here first ensured =>
    exact coherent.exchanged here (coherent.loadLock.pass here first rfl rfl) rfl _ rfl rfl ensured
  | @passes aim _ here first ready ensured =>
    exact resumed ensured (List.getElem?_eq_some_iff.1 here).1 aim.job
      ⟨coherent.loadLock.pass here first rfl rfl, coherent.completionLock.stay here rfl rfl rfl,
        coherent.loading_set rfl⟩
  | loadsInTurn here first missing =>
    exact ⟨coherent.loadLock.letIn here first rfl rfl rfl,
      coherent.completionLock.stay here rfl rfl rfl,
      fun _ _ => coherent.loading_beginLoad missing _ _ _⟩
  | @loaded model aim _ here success ensured =>
    have guards := coherent.loadLock.leave here rfl (rfl : (Place.fresh aim.job).isLoading = false)
      rfl rfl
    exact resumed ensured (List.getElem?_eq_some_iff.1 here).1 aim.job
      ⟨guards, coherent.completionLock.stay here rfl rfl rfl,
        fun other aim member => absurd member (not_loading guards rfl other aim)⟩
  | refused here refusal =>
    exact ⟨coherent.loadLock.leave here rfl rfl rfl rfl,
      coherent.completionLock.stay here rfl rfl rfl, coherent.loading_set rfl⟩
  | completesInTurn here first ready =>
    exact ⟨coherent.loadLock.stay here rfl rfl rfl,
      coherent.completionLock.letIn here first rfl rfl rfl, coherent.loading_set rfl⟩
  | findsNoModel here first missing =>
    exact ⟨coherent.loadLock.stay here rfl rfl rfl, coherent.completionLock.pass here first rfl rfl,
      coherent.loading_set rfl⟩
  | completed here =>
    exact ⟨coherent.loadLock.stay here rfl rfl rfl,
      coherent.completionLock.leave here rfl rfl rfl rfl, coherent.loading_set rfl⟩

theorem turns (coherent : s.Coherent) (order : List Nat) : (s.turns order).Coherent := by
  induction order generalizing s with
  | nil => exact coherent
  | cons task order ih => exact ih (coherent.turned (SharedGenerator.turned s task))

end Coherent

end SharedGenerator

end DocMarkers
