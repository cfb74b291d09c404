import DocMarkers.Number
import DocMarkers.Proofs.Generation.History
import DocMarkers.Proofs.Generation.Progress

set_option autoImplicit false

namespace DocMarkers

structure World.AnswersAll {τ : Type} (world : World τ) : Prop where
  loads : ∀ earlier model, world.loader earlier model = none
  completes : ∀ earlier call, ∃ value, (world.model earlier call).outcome = .ok value

/-- The model may give a reply that cannot be written as a text. -/
def World.Garbles {τ : Type} (world : World τ) (failure : Failure) : Prop :=
  ∃ earlier call value, (world.model earlier call).outcome = .ok value ∧
    Generator.messageText world.writeDepth value = .error failure

inductive Place.Generates (mayFail : Prop) (garbled : Failure → Prop) : Place → Prop
  | fresh (prompt : Text) (options : Generator.Options) :
    Generates mayFail garbled (.fresh (.generate prompt options))
  | waitingToLoad (prompt : Text) (options : Generator.Options) :
    Generates mayFail garbled (.waitingToLoad (.reply prompt options))
  | loading (model prompt : Text) (options : Generator.Options) :
    Generates mayFail garbled (.loading model (.reply prompt options))
  | waitingToComplete (call : Call) : Generates mayFail garbled (.waitingToComplete call)
  | completing (call : Call) : Generates mayFail garbled (.completing call)
  | answered (text : Text) : Generates mayFail garbled (.ended (.ok (some text)))
  | garbled {failure : Failure} (possible : garbled failure) :
    Generates mayFail garbled (.ended (.error failure))
  | stranded (possible : mayFail) (model : Text) :
    Generates mayFail garbled (.ended (.error (.generationFailed model Failure.modelGone.message)))

def Place.Tracked (chosen : Nat → Prop) (mayFail : Prop) (garbled : Failure → Prop)
    (tasks : List Place) : Prop :=
  ∀ task, chosen task → ∀ place, tasks[task]? = some place → place.Generates mayFail garbled

theorem Place.Tracked.set {chosen : Nat → Prop} {mayFail : Prop} {garbled : Failure → Prop}
    {tasks : List Place} {task : Nat} {place : Place} (all : Tracked chosen mayFail garbled tasks)
    (generates : chosen task → place.Generates mayFail garbled) :
    Tracked chosen mayFail garbled (tasks.set task place) := by
  intro other known found here
  by_cases same : task = other
  · subst same
    rw [List.getElem?_set_self'] at here
    obtain ⟨old, -, rfl⟩ := Option.map_eq_some_iff.1 here
    exact generates known
  · rw [List.getElem?_set_ne same] at here
    exact all other known found here

namespace SharedGenerator

open Place (Tracked)

variable {τ : Type} {s next : SharedGenerator τ} {task : Nat} {aim : Aim} {mayFail : Prop}
  {garbled : Failure → Prop} {chosen : Nat → Prop}

theorem Ensured.tracked (ensured : Ensured s task aim next)
    (all : Tracked chosen mayFail garbled s.tasks)
    (replies : chosen task → ∃ prompt options, aim = .reply prompt options) :
    Tracked chosen mayFail garbled next.tasks := by
  cases ensured with
  | finishes =>
    refine all.set fun known => ?_
    obtain ⟨prompt, options, same⟩ := replies known
    contradiction
  | completes => exact all.set fun _ => .completing _
  | queues => exact all.set fun _ => .waitingToComplete _
  | loads =>
    refine all.set fun known => ?_
    obtain ⟨prompt, options, rfl⟩ := replies known
    exact .loading _ _ _
  | waits =>
    refine all.set fun known => ?_
    obtain ⟨prompt, options, rfl⟩ := replies known
    exact .waitingToLoad _ _

variable [Quantity τ]

theorem Turned.tracked {event : Option ModelEvent} (turned : Turned s task event next)
    (answers : s.world.AnswersAll) (garbles : ∀ failure, s.world.Garbles failure → garbled failure)
    (all : Tracked chosen mayFail garbled s.tasks)
    (strands : s.completionLock.line ≠ [] → s.generator.isReady = false → mayFail) :
    Tracked chosen mayFail garbled next.tasks := by
  have generates {place : Place} (here : s.tasks[task]? = some place) (known : chosen task) :
      place.Generates mayFail garbled := all task known place here
  cases turned with
  | rests => exact all
  | @enters aim _ here ensured =>
    refine ensured.tracked all fun known => ?_
    cases aim with
    | nothing => cases generates here known
    | reply prompt options => exact ⟨prompt, options, rfl⟩
  | waitsToExchange here =>
    refine all.set fun known => ?_
    cases generates here known
  | exchanges here free ensured =>
    refine ensured.tracked all fun known => ?_
    cases generates here known
  | exchangesInTurn here first ensured =>
    refine ensured.tracked all fun known => ?_
    cases generates here known
  | passes here first ready ensured =>
    refine ensured.tracked all fun known => ?_
    cases generates here known
    exact ⟨_, _, rfl⟩
  | loadsInTurn here first missing =>
    refine all.set fun known => ?_
    cases generates here known
    exact .loading _ _ _
  | loaded here success ensured =>
    refine ensured.tracked all fun known => ?_
    cases generates here known
    exact ⟨_, _, rfl⟩
  | refused here refusal => simp [World.load, answers.loads] at refusal
  | completesInTurn here first ready => exact all.set fun _ => .completing _
  | findsNoModel here first missing =>
    obtain ⟨-, rest, line⟩ := Lock.next?_eq_some first
    exact all.set fun _ => .stranded (strands (by simp [line]) missing) _
  | @completed call here =>
    refine all.set fun known => ?_
    obtain ⟨value, answer⟩ := answers.completes s.world.calls call
    cases written : Generator.messageText s.world.writeDepth value with
    | ok text =>
      simpa [Generator.complete, World.complete, World.wait, answer, written, Except.map] using
        Place.Generates.answered _
    | error failure =>
      simpa [Generator.complete, World.complete, World.wait, answer, written, Except.map] using
        Place.Generates.garbled (garbles failure ⟨_, _, value, answer, written⟩)

theorem Turned.answersAll {event : Option ModelEvent} (turned : Turned s task event next)
    (answers : s.world.AnswersAll) : next.world.AnswersAll := by
  obtain ⟨-, loader, model, -⟩ := turned.world_eq
  exact ⟨by simpa [loader] using answers.loads, by simpa [model] using answers.completes⟩

theorem Turned.garbles {event : Option ModelEvent} (turned : Turned s task event next)
    {failure : Failure} (garbles : next.world.Garbles failure) : s.world.Garbles failure := by
  obtain ⟨-, -, model, depth⟩ := turned.world_eq
  rwa [World.Garbles, model, depth] at garbles

def Provided (s : SharedGenerator τ) : Prop :=
  s.completionLock.line ≠ [] → s.generator.isReady = true

omit [Quantity τ] in
theorem Ensured.provided (ensured : Ensured s task aim next) (provided : s.Provided) :
    next.Provided := by
  cases ensured with
  | queues ready => exact fun _ => ready
  | _ => exact provided

theorem Turned.provided {event : Option ModelEvent} (turned : Turned s task event next)
    (provided : s.Provided)
    (quiet : event.any ModelEvent.isExchange = true → s.completionLock.line = []) :
    next.Provided := by
  cases turned with
  | enters here ensured => exact ensured.provided provided
  | exchanges here free ensured =>
    exact ensured.provided fun waiting => absurd (quiet rfl) waiting
  | exchangesInTurn here first ensured =>
    exact ensured.provided fun waiting => absurd (quiet rfl) waiting
  | passes here first ready ensured => exact ensured.provided provided
  | loaded here success ensured => exact ensured.provided fun _ => rfl
  | completesInTurn here first ready => exact fun _ => ready
  | findsNoModel here first missing =>
    obtain ⟨-, rest, line⟩ := Lock.next?_eq_some first
    have ready := provided (by simp [line])
    simp [missing] at ready
  | _ => exact provided

/-- No exchange takes place in a run while a generation waits for the model. -/
def isUndisturbed (s : SharedGenerator τ) : List Nat → Bool
  | [] => true
  | task :: order =>
    (!(s.event? task).any ModelEvent.isExchange || s.completionLock.line.isEmpty) &&
      (s.turn task).isUndisturbed order

theorem tracked_turns (answers : s.world.AnswersAll)
    (garbles : ∀ failure, s.world.Garbles failure → garbled failure)
    (all : Tracked chosen True garbled s.tasks) (order : List Nat) :
    Tracked chosen True garbled (s.turns order).tasks := by
  induction order generalizing s with
  | nil => exact all
  | cons task order ih =>
    have turned := turned s task
    exact ih (turned.answersAll answers) (fun failure garbled => garbles failure (turned.garbles garbled))
      (turned.tracked answers garbles all fun _ _ => trivial)

theorem tracked_turns_of_undisturbed (answers : s.world.AnswersAll)
    (garbles : ∀ failure, s.world.Garbles failure → garbled failure)
    (all : Tracked chosen False garbled s.tasks) (provided : s.Provided) {order : List Nat}
    (undisturbed : s.isUndisturbed order = true) :
    Tracked chosen False garbled (s.turns order).tasks := by
  induction order generalizing s with
  | nil => exact all
  | cons task order ih =>
    have turned := turned s task
    simp only [isUndisturbed, Bool.and_eq_true, Bool.or_eq_true, Bool.not_eq_true',
      List.isEmpty_iff] at undisturbed
    obtain ⟨quiet, undisturbed⟩ := undisturbed
    refine ih (turned.answersAll answers)
      (fun failure garbled => garbles failure (turned.garbles garbled))
      (turned.tracked answers garbles all fun waiting missing => ?_)
      (turned.provided provided fun exchange => ?_) undisturbed
    · simp [provided waiting] at missing
    · simpa [exchange] using quiet

omit [Quantity τ] in
theorem tracked_start (g : Generator) (world : World τ) (jobs : List Job) :
    Tracked (fun task => ∃ prompt options, jobs[task]? = some (.generate prompt options)) mayFail
      garbled (start g world jobs).tasks := by
  rintro task ⟨prompt, options, job⟩ place here
  simp only [start, List.getElem?_map, job, Option.map_some, Option.some.injEq] at here
  exact here ▸ .fresh prompt options

/-- Where all loads succeed and all completions give replies, a generation ends with a text, unless its
reply cannot be written or the model was exchanged while one waited for it. Generations that are gathered
do end. -/
theorem generation_answered {g : Generator} {world : World τ} (answers : world.AnswersAll)
    {jobs : List Job} {task : Nat} {prompt : Text} {options : Generator.Options}
    (job : jobs[task]? = some (.generate prompt options)) :
    (∀ (order : List Nat) (result : Except Failure (Option Text)),
      ((start g world jobs).turns order).tasks[task]? = some (.ended result) →
        (∃ text, result = .ok (some text)) ∨
          (∃ failure, world.Garbles failure ∧ result = .error failure) ∨
          (∃ model, result = .error (.generationFailed model Failure.modelGone.message)) ∧
            (start g world jobs).isUndisturbed order = false) ∧
    ∃ order result, gather g world jobs = (start g world jobs).turns order ∧
      (gather g world jobs).tasks[task]? = some (.ended result) := by
  have chosen : ∃ prompt options, jobs[task]? = some (.generate prompt options) :=
    ⟨prompt, options, job⟩
  refine ⟨fun order result ended => ?_, ?_⟩
  · cases undisturbed : (start g world jobs).isUndisturbed order with
    | true =>
      have all := tracked_turns_of_undisturbed answers (fun _ garbled => garbled)
        (tracked_start g world jobs) (fun waiting => absurd rfl waiting) undisturbed
      cases all task chosen _ ended with
      | answered text => exact .inl ⟨text, rfl⟩
      | garbled possible => exact .inr (.inl ⟨_, possible, rfl⟩)
      | stranded possible => exact possible.elim
    | false =>
      have all := tracked_turns answers (fun _ garbled => garbled) (tracked_start g world jobs) order
      cases all task chosen _ ended with
      | answered text => exact .inl ⟨text, rfl⟩
      | garbled possible => exact .inr (.inl ⟨_, possible, rfl⟩)
      | stranded possible model => exact .inr (.inr ⟨⟨model, rfl⟩, rfl⟩)
  · obtain ⟨rest, turns⟩ := inOrderOfReadiness_eq_turns (start g world jobs).turnsLeft
      (List.range jobs.length) (start g world jobs)
    have within : task < (gather g world jobs).tasks.length := by
      rw [gather, turns, length_turns]
      simpa [start] using (List.getElem?_eq_some_iff.1 job).1
    obtain ⟨result, ended⟩ := gather_ends g world jobs (List.getElem_mem within)
    exact ⟨_, result, turns, (List.getElem?_eq_getElem within).trans (congrArg some ended)⟩

def agreeable : World Number where
  clock := .int 0
  today := []
  server _ _ := ⟨.error .closedClient, .int 0⟩
  loader _ _ := none
  model _ _ := ⟨.ok (.text "yes".toList), .int 0⟩

theorem answersAll_agreeable : agreeable.AnswersAll := ⟨fun _ _ => rfl, fun _ _ => ⟨_, rfl⟩⟩

def twoAndExchange : List Job :=
  [.generate "first".toList {}, .generate "second".toList {}, .exchange "large".toList]

theorem generation_answered_before_exchange :
    agreeable.AnswersAll ∧ twoAndExchange[1]? = some (.generate "second".toList {}) ∧
      ∃ result, ((start (.ofSettings .defaults) agreeable twoAndExchange).turns
        [0, 0, 1, 0, 1, 2, 1]).tasks[1]? = some (.ended result) ∧
          ∃ text, result = .ok (some text) := by
  have job : twoAndExchange[1]? = some (.generate "second".toList {}) := rfl
  have ended : ((start (.ofSettings .defaults) agreeable twoAndExchange).turns
      [0, 0, 1, 0, 1, 2, 1]).tasks[1]? = some (.ended (.ok (some "yes".toList))) := rfl
  refine ⟨answersAll_agreeable, job, _, ended, ?_⟩
  rcases (generation_answered answersAll_agreeable job).1 _ _ ended with
    answered | ⟨_, ⟨_, _, _, reply, garbled⟩, _⟩ | ⟨-, disturbed⟩
  · exact answered
  · cases reply
    simp [Generator.messageText] at garbled
  · exact absurd disturbed (by decide)

theorem second_stranded_by_exchange :
    agreeable.AnswersAll ∧
      (gather (.ofSettings .defaults) agreeable twoAndExchange).results =
        [.ok (some "yes".toList),
          .error (.generationFailed "gpt-4o".toList Failure.modelGone.message),
          .ok none] :=
  ⟨answersAll_agreeable, rfl⟩

end SharedGenerator

end DocMarkers
