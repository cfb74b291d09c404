import DocMarkers.Generation.Generator
import DocMarkers.Generation.Lock

set_option autoImplicit false

namespace DocMarkers

inductive Job where
  | load
  | generate (prompt : Text) (options : Generator.Options)
  | exchange (name : Text)

inductive Aim where
  | nothing
  | reply (prompt : Text) (options : Generator.Options)

inductive Place where
  | fresh (job : Job)
  | waitingToExchange (name : Text)
  | waitingToLoad (aim : Aim)
  | loading (model : Text) (aim : Aim)
  | waitingToComplete (call : Call)
  | completing (call : Call)
  | ended (result : Except Failure (Option Text))

namespace Place

def result? : Place → Option (Except Failure (Option Text))
  | ended result => some result
  | _ => none

def turnsLeft : Place → Nat
  | fresh _ => 6
  | waitingToExchange _ => 5
  | waitingToLoad _ => 4
  | loading _ _ => 3
  | waitingToComplete _ => 2
  | completing _ => 1
  | ended _ => 0

end Place

structure SharedGenerator (τ : Type) where
  generator : Generator
  world : World τ
  loadLock : Lock := {}
  completionLock : Lock := {}
  tasks : List Place

namespace SharedGenerator

variable {τ : Type} [Quantity τ]

def start (generator : Generator) (world : World τ) (jobs : List Job) : SharedGenerator τ :=
  { generator, world, tasks := jobs.map .fresh }

def put (s : SharedGenerator τ) (task : Nat) (place : Place) : SharedGenerator τ :=
  { s with tasks := s.tasks.set task place }

def beginCompletion (s : SharedGenerator τ) (task : Nat) (call : Call) : SharedGenerator τ :=
  if s.generator.isReady then s.put task (.completing call)
  else { s with completionLock := s.completionLock.giveBack }.put task
    (.ended (.error (.generationFailed s.generator.modelId Failure.modelGone.message)))

def proceed (s : SharedGenerator τ) (task : Nat) : Aim → SharedGenerator τ
  | .nothing => s.put task (.ended (.ok none))
  | .reply prompt options =>
    let call := s.generator.callFor prompt options
    if s.completionLock.isFree then
      { s with completionLock := s.completionLock.take }.beginCompletion task call
    else { s with completionLock := s.completionLock.join task }.put task (.waitingToComplete call)

def beginLoad (s : SharedGenerator τ) (task : Nat) (aim : Aim) : SharedGenerator τ :=
  let model := s.generator.modelId
  { s with world := s.generator.announce (.initiate model) s.world }.put task (.loading model aim)

def ensure (s : SharedGenerator τ) (task : Nat) (aim : Aim) : SharedGenerator τ :=
  if s.generator.isReady then s.proceed task aim
  else if s.loadLock.isFree then { s with loadLock := s.loadLock.take }.beginLoad task aim
  else { s with loadLock := s.loadLock.join task }.put task (.waitingToLoad aim)

def exchange (s : SharedGenerator τ) (task : Nat) (name : Text) : SharedGenerator τ :=
  { s with generator := s.generator.exchange name, loadLock := s.loadLock.giveBack }.ensure task
    .nothing

def enterLoad (s : SharedGenerator τ) (task : Nat) (aim : Aim) : SharedGenerator τ :=
  if s.generator.isReady then
    { s with loadLock := s.loadLock.giveBack }.proceed task aim
  else s.beginLoad task aim

def endLoad (s : SharedGenerator τ) (task : Nat) (model : Text) (aim : Aim) :
    SharedGenerator τ :=
  let (result, generator, world) := s.generator.endLoad model s.world
  let s := { s with generator, world, loadLock := s.loadLock.giveBack }
  match result, aim with
  | .ok (), aim => s.proceed task aim
  | .error failure, .nothing => s.put task (.ended (.error failure))
  | .error failure, .reply _ _ => s.put task (.ended (.error (s.generator.unavailable failure)))

def endCompletion (s : SharedGenerator τ) (task : Nat) (call : Call) : SharedGenerator τ :=
  let (result, world) := s.generator.complete call s.world
  { s with world, completionLock := s.completionLock.giveBack }.put task
    (.ended (result.map some))

/-- The turn of a task. One that has to wait stays where it is. -/
def turn (s : SharedGenerator τ) (task : Nat) : SharedGenerator τ :=
  match s.tasks[task]? with
  | some (.fresh .load) => s.ensure task .nothing
  | some (.fresh (.generate prompt options)) => s.ensure task (.reply prompt options)
  | some (.fresh (.exchange name)) =>
    if s.loadLock.isFree then s.exchange task name
    else { s with loadLock := s.loadLock.join task }.put task (.waitingToExchange name)
  | some (.waitingToExchange name) =>
    if s.loadLock.next? = some task then
      { s with loadLock := s.loadLock.letIn }.exchange task name
    else s
  | some (.waitingToLoad aim) =>
    if s.loadLock.next? = some task then
      { s with loadLock := s.loadLock.letIn }.enterLoad task aim
    else s
  | some (.loading model aim) => s.endLoad task model aim
  | some (.waitingToComplete call) =>
    if s.completionLock.next? = some task then
      { s with completionLock := s.completionLock.letIn }.beginCompletion task call
    else s
  | some (.completing call) => s.endCompletion task call
  | some (.ended _) => s
  | none => s

def turns (s : SharedGenerator τ) (order : List Nat) : SharedGenerator τ :=
  order.foldl turn s

def isUnderWay (s : SharedGenerator τ) (task : Nat) : Bool :=
  match s.tasks[task]? with
  | some (.loading _ _) => true
  | some (.completing _) => true
  | _ => false

-- The tasks that can go on after the turn of one: who is let in, and then the task itself. Those
-- that are known to be ready are left out.
def readied (s : SharedGenerator τ) (task : Nat) (ready : List Nat) : List Nat :=
  ((s.loadLock.next?.toList ++ s.completionLock.next?.toList).filter fun other =>
    !ready.contains other) ++
    if s.isUnderWay task then [task] else []

def turnsLeft (s : SharedGenerator τ) : Nat :=
  (s.tasks.map Place.turnsLeft).foldl (· + ·) 0

def inOrderOfReadiness : Nat → List Nat → SharedGenerator τ → SharedGenerator τ
  | left + 1, task :: ready, s =>
    let s := s.turn task
    inOrderOfReadiness left (ready ++ s.readied task ready) s
  | _, _, s => s

/-- Starts jobs together and lets them go on in the order in which they get ready. -/
def gather (generator : Generator) (world : World τ) (jobs : List Job) : SharedGenerator τ :=
  let s := start generator world jobs
  inOrderOfReadiness s.turnsLeft (List.range jobs.length) s

def results (s : SharedGenerator τ) : List (Except Failure (Option Text)) :=
  s.tasks.filterMap Place.result?

end SharedGenerator

end DocMarkers
