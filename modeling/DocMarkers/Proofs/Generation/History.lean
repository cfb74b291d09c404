import DocMarkers.Proofs.Generation.Coherence

set_option autoImplicit false

namespace DocMarkers

def World.HasLoaded {τ : Type} (world : World τ) (model : Text) : Prop :=
  ∃ earlier later, world.loads = earlier ++ model :: later ∧ world.loader earlier model = none

namespace ModelEvent

def isExchange : ModelEvent → Bool
  | exchanged _ => true
  | _ => false

def isSuccess : ModelEvent → Bool
  | loaded _ => true
  | _ => false

def request? : ModelEvent → Option Text
  | exchanged _ => none
  | loaded model => some model
  | refused model _ => some model

def follow (g : Generator) : ModelEvent → Generator
  | exchanged name => g.exchange name
  | loaded model => { g with loaded := some model }
  | refused _ _ => g

end ModelEvent

namespace SharedGenerator

variable {τ : Type} {s next : SharedGenerator τ} {task : Nat} {aim : Aim}

theorem Ensured.generator_eq (ensured : Ensured s task aim next) :
    next.generator = s.generator := by
  cases ensured <;> rfl

-- Nothing but announcements changes on the way to an aim.
theorem Ensured.world_eq (ensured : Ensured s task aim next) :
    ∃ progress, next.world = { s.world with progress } := by
  cases ensured with
  | loads => exact ⟨_, by rw [beginLoad, put, Generator.announce_eq]⟩
  | _ => exact ⟨s.world.progress, rfl⟩

variable [Quantity τ]

theorem Turned.generator_eq {event : Option ModelEvent} (turned : Turned s task event next) :
    next.generator = event.toList.foldl ModelEvent.follow s.generator := by
  cases turned with
  | enters here ensured => exact ensured.generator_eq
  | exchanges here free ensured => exact ensured.generator_eq
  | exchangesInTurn here first ensured => exact ensured.generator_eq
  | passes here first ready ensured => exact ensured.generator_eq
  | loaded here success ensured => exact ensured.generator_eq
  | _ => rfl

theorem Turned.world_eq {event : Option ModelEvent} (turned : Turned s task event next) :
    next.world.loads = s.world.loads ++ event.toList.filterMap ModelEvent.request? ∧
      next.world.loader = s.world.loader ∧ next.world.model = s.world.model ∧
      next.world.writeDepth = s.world.writeDepth := by
  cases turned with
  | enters here ensured =>
    obtain ⟨progress, world⟩ := ensured.world_eq
    simp [world]
  | exchanges here free ensured =>
    obtain ⟨progress, world⟩ := ensured.world_eq
    simp [world, List.filterMap_cons, ModelEvent.request?]
  | exchangesInTurn here first ensured =>
    obtain ⟨progress, world⟩ := ensured.world_eq
    simp [world, List.filterMap_cons, ModelEvent.request?]
  | passes here first ready ensured =>
    obtain ⟨progress, world⟩ := ensured.world_eq
    simp [world]
  | loaded here success ensured =>
    obtain ⟨progress, world⟩ := ensured.world_eq
    simp [world, Generator.announce_eq, World.load, ModelEvent.request?]
  | refused => simp [put, World.load, ModelEvent.request?]
  | completed => simp [put, Generator.complete_snd, World.complete, World.wait]
  | _ => simp [put, beginLoad, Generator.announce_eq]

def history (s : SharedGenerator τ) : List Nat → List ModelEvent
  | [] => []
  | task :: order => (s.event? task).toList ++ (s.turn task).history order

theorem history_correct (s : SharedGenerator τ) (order : List Nat) :
    (s.turns order).generator = (s.history order).foldl ModelEvent.follow s.generator ∧
      (s.turns order).world.loads =
        s.world.loads ++ (s.history order).filterMap ModelEvent.request? := by
  induction order generalizing s with
  | nil => simp [turns, history]
  | cons task order ih =>
    obtain ⟨generator, loads⟩ := ih (s.turn task)
    refine ⟨?_, ?_⟩
    · rw [history, List.foldl_append, ← (turned s task).generator_eq]
      exact generator
    · rw [history, List.filterMap_append, ← List.append_assoc, ← (turned s task).world_eq.1]
      exact loads

def HoldsChoice (s : SharedGenerator τ) : Prop :=
  ∀ model, s.generator.loaded = some model →
    s.generator.modelId = model ∧ s.world.HasLoaded model

theorem Turned.hasLoaded {event : Option ModelEvent} (turned : Turned s task event next)
    {model : Text} (known : s.world.HasLoaded model) : next.world.HasLoaded model := by
  obtain ⟨earlier, later, loads, success⟩ := known
  obtain ⟨more, loader, -⟩ := turned.world_eq
  exact ⟨earlier, later ++ event.toList.filterMap ModelEvent.request?, by simp [more, loads],
    by rw [loader, success]⟩

theorem Turned.holdsChoice {event : Option ModelEvent} (turned : Turned s task event next)
    (coherent : s.Coherent) (holds : s.HoldsChoice) : next.HoldsChoice := by
  have generator := turned.generator_eq
  cases event with
  | none =>
    intro model loaded
    rw [generator] at loaded ⊢
    exact ⟨(holds model loaded).1, turned.hasLoaded (holds model loaded).2⟩
  | some event =>
    have world := turned.world_eq
    cases turned with
    | exchanges =>
      intro model loaded
      simp [generator, ModelEvent.follow, Generator.exchange] at loaded
    | exchangesInTurn =>
      intro model loaded
      simp [generator, ModelEvent.follow, Generator.exchange] at loaded
    | @loaded model _ _ here success =>
      obtain ⟨-, chosen⟩ := coherent.loading _ _ (List.mem_of_getElem? here)
      intro other loaded
      simp only [generator, ModelEvent.follow, Option.toList_some, List.foldl_cons,
        List.foldl_nil, Option.some.injEq] at loaded ⊢
      subst loaded
      exact ⟨chosen, s.world.loads, [], world.1, by rw [world.2.1]; exact success⟩
    | refused here =>
      obtain ⟨missing, -⟩ := coherent.loading _ _ (List.mem_of_getElem? here)
      intro model loaded
      simp [generator, ModelEvent.follow] at loaded
      simp [Generator.isReady, loaded] at missing

theorem HoldsChoice.turns (holds : s.HoldsChoice) (coherent : s.Coherent) (order : List Nat) :
    (s.turns order).HoldsChoice := by
  induction order generalizing s with
  | nil => exact holds
  | cons task order ih =>
    have turned := turned s task
    exact ih (turned.holdsChoice coherent holds) (coherent.turned turned)

theorem Coherent.not_ready_of_event (coherent : s.Coherent) {event : ModelEvent}
    (turned : Turned s task (some event) next) (isLoad : event.isExchange = false) :
    s.generator.isReady = false := by
  cases turned with
  | exchanges => contradiction
  | exchangesInTurn => contradiction
  | loaded here => exact (coherent.loading _ _ (List.mem_of_getElem? here)).1
  | refused here => exact (coherent.loading _ _ (List.mem_of_getElem? here)).1

-- No load succeeds while a model is there, and the first one that does brings a model.
theorem Coherent.history_successes (coherent : s.Coherent) (order : List Nat) :
    ∃ first rest, (s.history order).splitOnP ModelEvent.isExchange = first :: rest ∧
      first.countP ModelEvent.isSuccess + s.generator.isReady.toNat ≤ 1 ∧
      ∀ period ∈ rest, period.countP ModelEvent.isSuccess ≤ 1 := by
  induction order generalizing s with
  | nil => exact ⟨[], [], rfl, by simpa using Bool.toNat_le _, by simp⟩
  | cons task order ih =>
    have turned := SharedGenerator.turned s task
    obtain ⟨first, rest, split, bound, bounds⟩ := ih (coherent.turned turned)
    have generator := turned.generator_eq
    rw [history]
    cases happened : s.event? task with
    | none =>
      rw [happened] at generator
      exact ⟨first, rest, by simpa using split, by simpa [generator] using bound, bounds⟩
    | some event =>
      rw [happened] at turned generator
      simp only [Option.toList_some, List.cons_append, List.nil_append, List.foldl_cons,
        List.foldl_nil, List.splitOnP_cons_eq_if_modifyHead, split] at generator ⊢
      cases event with
      | exchanged name =>
        refine ⟨[], first :: rest, rfl, by simpa using Bool.toNat_le _, ?_⟩
        intro period member
        rcases List.mem_cons.1 member with rfl | member
        · omega
        · exact bounds period member
      | loaded model =>
        have missing := coherent.not_ready_of_event turned rfl
        refine ⟨.loaded model :: first, rest, rfl, ?_, bounds⟩
        simp only [generator, ModelEvent.follow, Generator.isReady, Option.isSome_some,
          Bool.toNat_true] at bound
        simp only [missing, List.countP_cons, ModelEvent.isSuccess, if_true, Bool.toNat_false]
        omega
      | refused model failure =>
        have missing := coherent.not_ready_of_event turned rfl
        refine ⟨.refused model failure :: first, rest, rfl, ?_, bounds⟩
        simp only [missing, List.countP_cons, ModelEvent.isSuccess, Bool.false_eq_true, if_false,
          Bool.toNat_false]
        omega

/-- From the start and between one choice of a model and the next, whatever answers come and
whoever's turn it is, tasks share one load, one completion and one model. -/
theorem turns_coherent (g : Generator) (world : World τ) (jobs : List Job) (order : List Nat) :
    let first := start { g with loaded := none } world jobs
    let s := first.turns order
    (s.tasks.countP Place.isLoading ≤ 1 ∧ s.tasks.countP Place.isCompleting ≤ 1) ∧
      (∀ model, s.generator.loaded = some model →
        s.generator.modelId = model ∧ s.world.HasLoaded model) ∧
      (s.generator = (first.history order).foldl ModelEvent.follow first.generator ∧
        s.world.loads = world.loads ++ (first.history order).filterMap ModelEvent.request?) ∧
      ∀ period ∈ (first.history order).splitOnP ModelEvent.isExchange,
        period.countP ModelEvent.isSuccess ≤ 1 := by
  intro first s
  have coherent : first.Coherent := Coherent.start _ world jobs
  have after : s.Coherent := coherent.turns order
  have holds : first.HoldsChoice := by
    intro model loaded
    contradiction
  refine ⟨⟨after.loadLock.inside_le_one, after.completionLock.inside_le_one⟩,
    holds.turns coherent order, history_correct first order, ?_⟩
  obtain ⟨period, rest, split, bound, bounds⟩ := coherent.history_successes order
  rw [split]
  intro other member
  rcases List.mem_cons.1 member with rfl | member
  · omega
  · exact bounds other member

end SharedGenerator

end DocMarkers
