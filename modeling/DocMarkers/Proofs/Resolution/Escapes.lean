import DocMarkers.Number
import DocMarkers.Proofs.Resolution.Run
import Mathlib.Control.Monad.Basic

set_option autoImplicit false

namespace DocMarkers

variable {σ ω τ : Type}

/-- A way to `plain` that is left at the first of the faults on it. -/
inductive Heeds {α : Type} (plain : α) : List Failure → Except (Escape σ ω) α → Prop
  | returned : Heeds plain [] (.ok plain)
  | escaped (fault : Failure) (later : List Failure) (state : σ) (watch : ω) :
    Heeds plain (fault :: later) (.error { fault, state, watch })

namespace Heeds

variable {α β : Type} {plain : α} {faults more : List Failure} {tried : Except (Escape σ ω) α}

theorem bind (heeds : Heeds plain faults tried) {next : α → Except (Escape σ ω) β} {last : β}
    (goesOn : Heeds last more (next plain)) : Heeds last (faults ++ more) (tried >>= next) := by
  cases heeds with
  | returned => exact goesOn
  | escaped fault later state watch => exact .escaped fault (later ++ more) state watch

theorem map (heeds : Heeds plain faults tried) (change : α → β) :
    Heeds (change plain) faults (tried >>= fun result => pure (change result)) := by
  cases heeds with
  | returned => exact .returned
  | escaped fault later state watch => exact .escaped fault later state watch

end Heeds

section RunBy

def faultsBy (round : Nat → Text → σ → ω → Round σ ω τ)
    (faults : Nat → Text → σ → ω → List Failure) : Nat → Text → σ → ω → List Failure
  | 0, _, _, _ => []
  | left + 1, text, state, watch =>
    if (Document.markers text).isEmpty then []
    else
      let first := round left text state watch
      faults left text state watch ++
        faultsBy round faults left (first.apply text) first.state first.watch

variable {round : Nat → Text → σ → ω → Round σ ω τ}
  {tryRound : Nat → Text → σ → ω → Except (Escape σ ω) (Round σ ω τ)}
  {faults : Nat → Text → σ → ω → List Failure}

theorem tryRunBy_heeds
    (heeds : ∀ left text state watch, Heeds (round left text state watch)
      (faults left text state watch) (tryRound left text state watch))
    (limit : Nat) (text : Text) (state : σ) (watch : ω) :
    Heeds (runBy round limit text state watch) (faultsBy round faults limit text state watch)
      (tryRunBy tryRound limit text state watch) := by
  induction limit generalizing text state watch with
  | zero => exact .returned
  | succ left ih =>
    unfold runBy faultsBy tryRunBy
    split
    next => exact .returned
    next =>
      exact (heeds left text state watch).bind <| (ih _ _ _).map fun rest =>
        { rest with
          iterations := rest.iterations + 1
          traces := (round left text state watch).traces ++ rest.traces }

theorem forall_faultsBy {P : Failure → Prop}
    (each : ∀ left text state watch, ∀ fault ∈ faults left text state watch, P fault) (limit : Nat)
    (text : Text) (state : σ) (watch : ω) :
    ∀ fault ∈ faultsBy round faults limit text state watch, P fault := by
  induction limit generalizing text state watch with
  | zero => exact nofun
  | succ left ih =>
    unfold faultsBy
    split
    next => exact nofun
    next => exact List.forall_mem_append.2 ⟨each left text state watch, ih _ _ _⟩

end RunBy

/-- A result that a course ends with if it goes on in the right states. -/
inductive Course.MayEnd (result : Except Raised Value) : Course σ → Prop
  | ended : MayEnd result (.ended result)
  | waits {goOn : σ → Course σ} {change : σ → σ} (state : σ) (later : MayEnd result (goOn state)) :
    MayEnd result (.waits goOn change)

namespace Course

def Narrows (far : Course σ → σ → Course σ × σ) : Prop :=
  ∀ {course : Course σ} {state result}, (far course state).1.MayEnd result → course.MayEnd result

theorem mayEnd_finish (course : Course σ) (state : σ) :
    course.MayEnd (course.finish state).1 := by
  induction course generalizing state with
  | ended result => exact .ended
  | waits goOn change ih => exact .waits state (ih state (change state))

theorem narrows_turn : Narrows (@turn σ) := by
  intro course state result later
  cases course with
  | ended outcome => exact later
  | waits goOn change => exact .waits state later

theorem narrows_whole : Narrows (@whole σ) := by
  intro course state result later
  cases later
  exact mayEnd_finish course state

end Course

theorem MarkerSpec.invoke_eq_untold {spec : MarkerSpec σ} {arguments : List Text} {state : σ}
    {fault : Failure} (failed : (spec.invoke arguments state).1 = .error (.untold fault)) :
    (spec.handler arguments state).1 = .error (.untold fault) := by
  rcases answered : spec.handler arguments state with ⟨raised | value, next⟩
  · simp only [invoke, answered] at failed
    exact congrArg Except.error (Except.error.inj failed)
  · simp [invoke, answered] at failed

namespace Dispatcher

/-- A fault that telling a failure may come to: the failure of a handler, given what these may come to,
or the refusal of the observer. -/
def MayWithhold (d : Dispatcher σ ω τ)
    (comesTo : MarkerSpec σ → List Text → Except Raised Value → Prop) (fault : Failure) : Prop :=
  (∃ spec ∈ d.registry.specs, ∃ arguments, comesTo spec arguments (.error (.untold fault))) ∨
    ∃ trace watch, (d.notify trace watch).1 = .error (.untold fault)

variable {d : Dispatcher σ ω τ}

theorem fault?_eq_some {dispatch : Dispatch τ} {fault : Failure} :
    dispatch.fault? = some fault ↔ dispatch.result = .error (.untold fault) := by
  unfold Dispatch.fault?
  split
  next other given => simp [given]
  next none =>
    refine iff_of_false nofun fun given => none fault given

-- A refusal takes the place of what it is told of.
theorem withheld_report {trace : MarkerTrace τ} {result : Except Raised Text} {watch : ω}
    {fault : Failure} (withheld : (d.report trace result watch).1.fault? = some fault) :
    result = .error (.untold fault) ∨ ∃ trace watch, (d.notify trace watch).1 = .error (.untold fault) := by
  rw [fault?_eq_some] at withheld
  unfold report at withheld
  split at withheld
  next => exact .inl withheld
  next refusal after refused =>
    obtain rfl := Except.error.inj withheld
    exact .inr ⟨trace, watch, congrArg Prod.fst refused⟩

theorem map_eq_untold {result : Except Raised Value} {fault : Failure}
    (failed : result.map Value.render = .error (.untold fault)) : result = .error (.untold fault) := by
  cases result with
  | ok value => contradiction
  | error raised => exact congrArg _ (Except.error.inj failed)

variable [Quantity τ]

def faultsAll (d : Dispatcher σ ω τ) : List Marker → σ → ω → List Failure
  | [], _, _ => []
  | marker :: rest, state, watch =>
    let (_, state', watch') := d.resolveOne marker state watch
    (d.execute marker state watch).1.fault?.toList ++ d.faultsAll rest state' watch'

theorem tryOne_heeds (d : Dispatcher σ ω τ) (marker : Marker) (state : σ) (watch : ω) :
    Heeds (d.resolveOne marker state watch) (d.execute marker state watch).1.fault?.toList
      (d.tryOne marker state watch) := by
  unfold resolveOne tryOne
  split
  next known =>
    rcases d.execute marker state watch with ⟨⟨(failure | fault) | output, trace⟩, state', watch'⟩
    · exact .returned
    · exact .escaped fault [] state' watch'
    · exact .returned
  next unknown =>
    have none : d.registry.find? marker.name = none := by
      simpa [Registry.contains] using unknown
    simp only [execute, none]
    exact .returned

theorem tryAll_heeds (d : Dispatcher σ ω τ) (markers : List Marker) (state : σ) (watch : ω) :
    Heeds (d.resolveAll markers state watch) (d.faultsAll markers state watch)
      (d.tryAll markers state watch) := by
  induction markers generalizing state watch with
  | nil => exact .returned
  | cons marker rest ih =>
    have first := d.tryOne_heeds marker state watch
    rcases resolved : d.resolveOne marker state watch with ⟨⟨reply, trace⟩, state', watch'⟩
    rw [resolved] at first
    simp only [resolveAll, faultsAll, tryAll, resolved]
    exact first.bind <| (ih state' watch').map fun round =>
      { round with
        replies := (marker, reply) :: round.replies
        traces := trace.toList ++ round.traces }

theorem withheld_execute {marker : Marker} {state : σ} {watch : ω} {fault : Failure}
    (withheld : (d.execute marker state watch).1.fault? = some fault) :
    d.MayWithhold (fun spec arguments result => ∃ state, (spec.handler arguments state).1 = result)
      fault := by
  cases found : d.registry.find? marker.name with
  | none => simp [execute, found, Dispatch.fault?] at withheld
  | some spec =>
    simp only [execute, found] at withheld
    refine (withheld_report withheld).imp_left fun failed => ?_
    exact ⟨spec, List.mem_of_find?_eq_some found, _, state, MarkerSpec.invoke_eq_untold failed⟩

theorem withheld_faultsAll (markers : List Marker) (state : σ) (watch : ω) :
    ∀ fault ∈ d.faultsAll markers state watch, d.MayWithhold
      (fun spec arguments result => ∃ state, (spec.handler arguments state).1 = result) fault := by
  induction markers generalizing state watch with
  | nil => exact nofun
  | cons marker rest ih =>
    refine List.forall_mem_append.2 ⟨fun fault member => ?_, ih _ _⟩
    exact withheld_execute (Option.mem_toList.1 member)

section Interleaved

variable {courses : Courses σ} {far : Course σ → σ → Course σ × σ} {g : Interleaving σ ω τ}

/-- What a turn makes of a task under way: its handler has ended as its course may end, or it waits and
may still end as before. -/
inductive Proceeded (d : Dispatcher σ ω τ) (g : Interleaving σ ω τ) (index : Nat) (begun : Begun τ)
    (course : Course σ) : Interleaving σ ω τ → Prop
  | ended {result : Except Raised Value} (mayEnd : course.MayEnd result) (state : σ) :
    Proceeded d g index begun course
      { tasks := g.tasks.set index (.ended (d.settle begun result state g.watch).1.1)
        traces := g.traces ++ (d.settle begun result state g.watch).1.2.toList
        faults := g.faults ++ (d.settleFault? begun result state g.watch).toList
        state
        watch := (d.settle begun result state g.watch).2 }
  | waits {later : Course σ} (narrowed : ∀ {result}, later.MayEnd result → course.MayEnd result)
      (state : σ) :
    Proceeded d g index begun course
      { g with tasks := g.tasks.set index (.underWay begun later), state }

theorem proceeded (narrows : Course.Narrows far) (index : Nat) (begun : Begun τ)
    (course : Course σ) :
    Proceeded d g index begun course (d.proceed far g index begun course) := by
  have narrowed {result} (later : (far course g.state).1.MayEnd result) : course.MayEnd result :=
    narrows later
  unfold Dispatcher.proceed
  generalize far course g.state = reached at narrowed
  rcases reached with ⟨result | ⟨goOn, change⟩, state⟩
  · exact .ended (narrowed .ended) state
  · exact .waits narrowed state

structure IsAccounted (d : Dispatcher σ ω τ) (courses : Courses σ) (g : Interleaving σ ω τ) :
    Prop where
  underWay : ∀ {begun course}, Task.underWay begun course ∈ g.tasks →
    ∃ spec ∈ d.registry.specs, ∃ arguments, ∀ {result}, course.MayEnd result →
      (courses spec arguments).MayEnd result
  faults : ∀ fault ∈ g.faults,
    d.MayWithhold (fun spec arguments result => (courses spec arguments).MayEnd result) fault

theorem IsAccounted.proceed (accounted : d.IsAccounted courses g) (narrows : Course.Narrows far)
    (index : Nat) (begun : Begun τ) {course : Course σ}
    (own : ∃ spec ∈ d.registry.specs, ∃ arguments, ∀ {result}, course.MayEnd result →
      (courses spec arguments).MayEnd result) :
    d.IsAccounted courses (d.proceed far g index begun course) := by
  obtain ⟨spec, member, arguments, own⟩ := own
  have turned : Proceeded d g index begun course (d.proceed far g index begun course) :=
    proceeded narrows index begun course
  generalize d.proceed far g index begun course = next at turned
  cases turned with
  | ended mayEnd state =>
    refine ⟨fun later => ?_, List.forall_mem_append.2 ⟨accounted.faults, fun fault new => ?_⟩⟩
    · exact accounted.underWay ((List.mem_or_eq_of_mem_set later).resolve_right nofun)
    · refine (withheld_report (Option.mem_toList.1 new)).imp_left fun failed => ?_
      obtain rfl := map_eq_untold failed
      exact ⟨spec, member, arguments, own mayEnd⟩
  | waits narrowed state =>
    refine ⟨fun later => ?_, accounted.faults⟩
    rcases List.mem_or_eq_of_mem_set later with before | now
    · exact accounted.underWay before
    · obtain ⟨rfl, rfl⟩ := Task.underWay.inj now
      exact ⟨spec, member, arguments, fun mayEnd => own (narrowed mayEnd)⟩

theorem IsAccounted.move (accounted : d.IsAccounted courses g) (narrows : Course.Narrows far)
    (index : Nat) : d.IsAccounted courses (d.move courses far g index) := by
  unfold Dispatcher.move
  split
  next marker here =>
    split
    next =>
      refine ⟨fun later => ?_, accounted.faults⟩
      exact accounted.underWay ((List.mem_or_eq_of_mem_set later).resolve_right nofun)
    next spec found =>
      exact accounted.proceed narrows _ _
        ⟨spec, List.mem_of_find?_eq_some found, _, fun mayEnd => mayEnd⟩
  next begun course here =>
    exact accounted.proceed narrows _ _ (accounted.underWay (List.mem_of_getElem? here))
  next => exact accounted

theorem IsAccounted.moves (accounted : d.IsAccounted courses g) (narrows : Course.Narrows far)
    (indices : List Nat) : d.IsAccounted courses (indices.foldl (d.move courses far) g) := by
  induction indices generalizing g with
  | nil => exact accounted
  | cons index rest ih => exact ih (accounted.move narrows index)

theorem withheld_interleave (schedule : List Nat) (markers : List Marker) (state : σ) (watch : ω) :
    ∀ fault ∈ (d.interleave courses schedule markers state watch).faults,
      d.MayWithhold (fun spec arguments result => (courses spec arguments).MayEnd result) fault := by
  have start : d.IsAccounted courses
      { tasks := markers.map .unbegun, state, watch : Interleaving σ ω τ } := by
    refine ⟨fun later => ?_, nofun⟩
    obtain ⟨marker, -, same⟩ := List.mem_map.1 later
    contradiction
  exact ((start.moves Course.narrows_turn schedule).moves Course.narrows_whole _).faults

theorem tryRoundInterleaved_heeds (d : Dispatcher σ ω τ) (courses : Courses σ)
    (schedule : List Nat) (text : Text) (state : σ) (watch : ω) :
    Heeds (d.roundInterleaved courses schedule text state watch)
      (d.interleave courses schedule (distinct (Document.markers text)) state watch).faults
      (d.tryRoundInterleaved courses schedule text state watch) := by
  simp only [tryRoundInterleaved]
  split
  next none =>
    rw [none]
    exact .returned
  next fault later some =>
    rw [some]
    exact .escaped fault later _ _

end Interleaved

def faults (d : Dispatcher σ ω τ) (limit : Nat) (document : Text) (values : List (Text × Value))
    (state : σ) (watch : ω) : List Failure :=
  faultsBy (fun _ => d.round)
    (fun _ text => d.faultsAll (distinct (Document.markers text))) limit
    (Document.substitute document (values.map fun entry => (entry.1, entry.2.render))) state watch

def faultsInterleaved (d : Dispatcher σ ω τ) (courses : Courses σ) (schedules : Nat → List Nat)
    (limit : Nat) (document : Text) (values : List (Text × Value)) (state : σ) (watch : ω) :
    List Failure :=
  faultsBy (fun left => d.roundInterleaved courses (schedules left))
    (fun left text state watch =>
      (d.interleave courses (schedules left) (distinct (Document.markers text)) state watch).faults)
    limit (Document.substitute document (values.map fun entry => (entry.1, entry.2.render))) state
    watch

/-- Whatever handlers and observers do or refuse, a run ends, and its end says what is left. It returns
if every failure on it can be told, and is left at the first that cannot, which is one that a
handler or the observer has raised. -/
theorem resolve_end (d : Dispatcher σ ω τ) (limit : Nat) (document : Text)
    (values : List (Text × Value)) (state : σ) (watch : ω) :
    (let run := d.resolve limit document values state watch
     let faults := d.faults limit document values state watch
     run.Ends limit ∧ Heeds run faults (d.tryResolve limit document values state watch) ∧
      ∀ fault ∈ faults, d.MayWithhold
        (fun spec arguments result => ∃ state, (spec.handler arguments state).1 = result) fault) ∧
    ∀ (courses : Courses σ) (schedules : Nat → List Nat),
      let run := d.resolveInterleaved courses schedules limit document values state watch
      let faults := d.faultsInterleaved courses schedules limit document values state watch
      run.Ends limit ∧
        Heeds run faults
          (d.tryResolveInterleaved courses schedules limit document values state watch) ∧
        ∀ fault ∈ faults, d.MayWithhold
          (fun spec arguments result => (courses spec arguments).MayEnd result) fault := by
  constructor
  · refine ⟨d.run_ends limit _ state watch, ?_, ?_⟩
    · rw [resolve, run_eq_runBy]
      exact tryRunBy_heeds (fun _ text => d.tryAll_heeds (distinct (Document.markers text))) _ _ _ _
    · exact forall_faultsBy (fun _ text => withheld_faultsAll (distinct (Document.markers text)))
        _ _ _ _
  · intro courses schedules
    refine ⟨runBy_ends _ limit _ state watch, ?_, ?_⟩
    · exact tryRunBy_heeds
        (fun left => d.tryRoundInterleaved_heeds courses (schedules left)) _ _ _ _
    · exact forall_faultsBy (fun left text => withheld_interleave (schedules left) _) _ _ _ _

-- Fails in a way that cannot be told. The state counts the calls.
def withholding : Dispatcher Nat Unit Number where
  registry :=
    ⟨[{ name := "ai_mute".toList
        description := []
        handler := fun _ calls => (.error (.untold .oversizedInteger), calls + 1) }]⟩
  clock calls := .int calls
  observer := none

theorem untold_failure_escapes :
    let tried := withholding.tryResolve 10 "{{ai_mute}}".toList [] 0 ()
    let run := withholding.resolve 10 "{{ai_mute}}".toList [] 0 ()
    tried.map Run.text = .error { fault := .oversizedInteger, state := 1, watch := () } ∧
      (run.text, run.iterations, run.endState, run.traces.map MarkerTrace.status, run.state) =
        ("{{ai_mute}}".toList, 10, .capped, List.replicate 10 .error, 10) := by
  decide +kernel

end Dispatcher

end DocMarkers
