import DocMarkers.Generation.Shared

set_option autoImplicit false

namespace DocMarkers

namespace Aim

def job : Aim → Job
  | nothing => .load
  | reply prompt options => .generate prompt options

def refusal (g : Generator) (failure : Failure) : Aim → Failure
  | nothing => failure
  | reply _ _ => g.unavailable failure

end Aim

inductive ModelEvent where
  | exchanged (name : Text)
  | loaded (model : Text)
  | refused (model : Text) (failure : Failure)

namespace SharedGenerator

variable {τ : Type} [Quantity τ]

def canGo (s : SharedGenerator τ) (task : Nat) : Bool :=
  match s.tasks[task]? with
  | some (.fresh _) => true
  | some (.waitingToExchange _) => s.loadLock.next? == some task
  | some (.waitingToLoad _) => s.loadLock.next? == some task
  | some (.loading _ _) => true
  | some (.waitingToComplete _) => s.completionLock.next? == some task
  | some (.completing _) => true
  | some (.ended _) => false
  | none => false

def event? (s : SharedGenerator τ) (task : Nat) : Option ModelEvent :=
  match s.tasks[task]? with
  | some (.fresh (.exchange name)) => if s.loadLock.isFree then some (.exchanged name) else none
  | some (.waitingToExchange name) =>
    if s.loadLock.next? = some task then some (.exchanged name) else none
  | some (.loading model _) => some ((s.world.load model).1.elim (.loaded model) (.refused model))
  | _ => none

inductive Ensured (s : SharedGenerator τ) (task : Nat) : Aim → SharedGenerator τ → Prop
  | finishes (ready : s.generator.isReady = true) :
    Ensured s task .nothing (s.put task (.ended (.ok none)))
  | completes {prompt : Text} {options : Generator.Options} (ready : s.generator.isReady = true)
      (free : s.completionLock.isFree = true) :
    Ensured s task (.reply prompt options)
      ({ s with completionLock := s.completionLock.take }.put task
        (.completing (s.generator.callFor prompt options)))
  | queues {prompt : Text} {options : Generator.Options} (ready : s.generator.isReady = true)
      (busy : s.completionLock.isFree = false) :
    Ensured s task (.reply prompt options)
      ({ s with completionLock := s.completionLock.join task }.put task
        (.waitingToComplete (s.generator.callFor prompt options)))
  | loads {aim : Aim} (missing : s.generator.isReady = false) (free : s.loadLock.isFree = true) :
    Ensured s task aim ({ s with loadLock := s.loadLock.take }.beginLoad task aim)
  | waits {aim : Aim} (missing : s.generator.isReady = false) (busy : s.loadLock.isFree = false) :
    Ensured s task aim ({ s with loadLock := s.loadLock.join task }.put task (.waitingToLoad aim))

inductive Turned (s : SharedGenerator τ) (task : Nat) :
    Option ModelEvent → SharedGenerator τ → Prop
  | rests (still : s.canGo task = false) : Turned s task none s
  | enters {aim : Aim} {next : SharedGenerator τ} (here : s.tasks[task]? = some (.fresh aim.job))
      (ensured : Ensured s task aim next) :
    Turned s task none next
  | waitsToExchange {name : Text} (here : s.tasks[task]? = some (.fresh (.exchange name)))
      (busy : s.loadLock.isFree = false) :
    Turned s task none
      ({ s with loadLock := s.loadLock.join task }.put task (.waitingToExchange name))
  | exchanges {name : Text} {next : SharedGenerator τ}
      (here : s.tasks[task]? = some (.fresh (.exchange name))) (free : s.loadLock.isFree = true)
      (ensured : Ensured
        { s with generator := s.generator.exchange name, loadLock := s.loadLock.giveBack } task
        .nothing next) :
    Turned s task (some (.exchanged name)) next
  | exchangesInTurn {name : Text} {next : SharedGenerator τ}
      (here : s.tasks[task]? = some (.waitingToExchange name))
      (first : s.loadLock.next? = some task)
      (ensured : Ensured
        { s with generator := s.generator.exchange name, loadLock := s.loadLock.letIn.giveBack }
        task .nothing next) :
    Turned s task (some (.exchanged name)) next
  | passes {aim : Aim} {next : SharedGenerator τ}
      (here : s.tasks[task]? = some (.waitingToLoad aim)) (first : s.loadLock.next? = some task)
      (ready : s.generator.isReady = true)
      (ensured : Ensured { s with loadLock := s.loadLock.letIn.giveBack } task aim next) :
    Turned s task none next
  | loadsInTurn {aim : Aim} (here : s.tasks[task]? = some (.waitingToLoad aim))
      (first : s.loadLock.next? = some task) (missing : s.generator.isReady = false) :
    Turned s task none ({ s with loadLock := s.loadLock.letIn }.beginLoad task aim)
  | loaded {model : Text} {aim : Aim} {next : SharedGenerator τ}
      (here : s.tasks[task]? = some (.loading model aim))
      (success : (s.world.load model).1 = none)
      (ensured : Ensured
        { s with
          generator := { s.generator with loaded := some model }
          world := s.generator.announce (.ready model) (s.world.load model).2
          loadLock := s.loadLock.giveBack } task aim next) :
    Turned s task (some (.loaded model)) next
  | refused {model : Text} {aim : Aim} {failure : Failure}
      (here : s.tasks[task]? = some (.loading model aim))
      (refusal : (s.world.load model).1 = some failure) :
    Turned s task (some (.refused model failure))
      ({ s with world := (s.world.load model).2, loadLock := s.loadLock.giveBack }.put task
        (.ended (.error (aim.refusal s.generator failure))))
  | completesInTurn {call : Call} (here : s.tasks[task]? = some (.waitingToComplete call))
      (first : s.completionLock.next? = some task) (ready : s.generator.isReady = true) :
    Turned s task none
      ({ s with completionLock := s.completionLock.letIn }.put task (.completing call))
  | findsNoModel {call : Call} (here : s.tasks[task]? = some (.waitingToComplete call))
      (first : s.completionLock.next? = some task) (missing : s.generator.isReady = false) :
    Turned s task none
      ({ s with completionLock := s.completionLock.letIn.giveBack }.put task
        (.ended (.error
          (.generationFailed s.generator.modelId Failure.modelGone.message))))
  | completed {call : Call} (here : s.tasks[task]? = some (.completing call)) :
    Turned s task none
      ({ s with
        world := (s.generator.complete call s.world).2
        completionLock := s.completionLock.giveBack }.put task
        (.ended ((s.generator.complete call s.world).1.map some)))

omit [Quantity τ] in
theorem ensured_proceed {s : SharedGenerator τ} (ready : s.generator.isReady = true) (task : Nat)
    (aim : Aim) : Ensured s task aim (s.proceed task aim) := by
  cases aim with
  | nothing => exact .finishes ready
  | reply prompt options =>
    cases free : s.completionLock.isFree with
    | true => simpa [proceed, free, beginCompletion, ready] using Ensured.completes ready free
    | false => simpa [proceed, free] using Ensured.queues ready free

omit [Quantity τ] in
theorem ensured_ensure (s : SharedGenerator τ) (task : Nat) (aim : Aim) :
    Ensured s task aim (s.ensure task aim) := by
  cases ready : s.generator.isReady with
  | true => simpa [ensure, ready] using ensured_proceed ready task aim
  | false =>
    cases free : s.loadLock.isFree with
    | true => simpa [ensure, ready, free] using Ensured.loads ready free
    | false => simpa [ensure, ready, free] using Ensured.waits ready free

theorem turned_endLoad {s : SharedGenerator τ} {task : Nat} {model : Text} {aim : Aim}
    (here : s.tasks[task]? = some (.loading model aim)) :
    Turned s task (s.event? task) (s.endLoad task model aim) := by
  rcases answer : s.world.load model with ⟨_ | failure, world⟩
  · have event : s.event? task = some (.loaded model) := by simp [event?, here, answer]
    rw [event]
    refine .loaded here (by rw [answer]) ?_
    simpa [endLoad, Generator.endLoad, answer] using
      ensured_proceed (by simp [Generator.isReady]) task aim
  · have event : s.event? task = some (.refused model failure) := by simp [event?, here, answer]
    rw [event]
    have turned := Turned.refused here (by rw [answer])
    cases aim <;> simpa [endLoad, Generator.endLoad, answer, Aim.refusal] using turned

theorem turned (s : SharedGenerator τ) (task : Nat) :
    Turned s task (s.event? task) (s.turn task) := by
  cases here : s.tasks[task]? with
  | none => simpa [turn, event?, here] using Turned.rests (by simp [canGo, here])
  | some place =>
    cases place with
    | fresh job =>
      cases job with
      | load =>
        simpa [turn, event?, here] using
          @Turned.enters _ _ s task .nothing _ here (ensured_ensure s task .nothing)
      | generate prompt options =>
        simpa [turn, event?, here] using
          @Turned.enters _ _ s task (.reply prompt options) _ here (ensured_ensure s task _)
      | exchange name =>
        cases free : s.loadLock.isFree with
        | true =>
          simpa [turn, event?, here, free, exchange] using
            Turned.exchanges here free (ensured_ensure _ task .nothing)
        | false =>
          simpa [turn, event?, here, free] using Turned.waitsToExchange here free
    | waitingToExchange name =>
      by_cases first : s.loadLock.next? = some task
      · simpa [turn, event?, here, first, exchange] using
          Turned.exchangesInTurn here first (ensured_ensure _ task .nothing)
      · simpa [turn, event?, here, first] using Turned.rests (by simp [canGo, here, first])
    | waitingToLoad aim =>
      by_cases first : s.loadLock.next? = some task
      · cases ready : s.generator.isReady with
        | true =>
          simpa [turn, event?, here, first, enterLoad, ready] using
            Turned.passes here first ready
              (@ensured_proceed _ { s with loadLock := s.loadLock.letIn.giveBack } ready task aim)
        | false =>
          simpa [turn, event?, here, first, enterLoad, ready] using
            Turned.loadsInTurn here first ready
      · simpa [turn, event?, here, first] using Turned.rests (by simp [canGo, here, first])
    | loading model aim => simpa [turn, here] using turned_endLoad here
    | waitingToComplete call =>
      by_cases first : s.completionLock.next? = some task
      · cases ready : s.generator.isReady with
        | true =>
          simpa [turn, event?, here, first, beginCompletion, ready] using
            Turned.completesInTurn here first ready
        | false =>
          simpa [turn, event?, here, first, beginCompletion, ready] using
            Turned.findsNoModel here first ready
      · simpa [turn, event?, here, first] using Turned.rests (by simp [canGo, here, first])
    | completing call => simpa [turn, event?, here, endCompletion] using Turned.completed here
    | ended result => simpa [turn, event?, here] using Turned.rests (by simp [canGo, here])

end SharedGenerator

end DocMarkers
