import DocMarkers.Number
import DocMarkers.Proofs.Resolution.Run
import DocMarkers.Proofs.Resolution.Together

set_option autoImplicit false

namespace DocMarkers

variable {σ ω τ : Type}

namespace Course

def ComesTo (result : Except Raised Value) : Course σ → Prop
  | ended outcome => outcome = result
  | waits goOn _ => ∀ state, (goOn state).ComesTo result

def Keeps (far : Course σ → σ → Course σ × σ) : Prop :=
  ∀ {course : Course σ} {result}, course.ComesTo result → ∀ state,
    (far course state).1.ComesTo result

def Ends (far : Course σ → σ → Course σ × σ) : Prop :=
  ∀ course state, ∃ result, (far course state).1 = .ended result

theorem ComesTo.finish {course : Course σ} {result : Except Raised Value}
    (comesTo : course.ComesTo result) (state : σ) : (course.finish state).1 = result := by
  induction course generalizing state with
  | ended outcome => exact comesTo
  | waits goOn change ih => exact ih state (comesTo state) (change state)

theorem keeps_turn : Keeps (@turn σ) := by
  intro course result comesTo state
  cases course with
  | ended outcome => exact comesTo
  | waits goOn change => exact comesTo state

theorem keeps_whole : Keeps (@whole σ) := fun comesTo state => comesTo.finish state

theorem ends_whole : Ends (@whole σ) := fun course state => ⟨(course.finish state).1, rfl⟩

end Course

variable [Quantity τ]

open MarkerTrace (untimed Alike)

namespace Dispatcher

/-- The registry's observer, if there is one, answers to what a trace tells, not to its latency or to
what it was told before. -/
def IsImpartial (d : Dispatcher σ ω τ) : Prop :=
  ∀ trace other watch watch', untimed trace = untimed other →
    (d.notify trace watch).1 = (d.notify other watch').1

/-- The courses of the handlers: on its own, each does what its handler does. -/
def Takes (d : Dispatcher σ ω τ) (courses : Courses σ) : Prop :=
  ∀ spec ∈ d.registry.specs, ∀ arguments,
    (courses spec arguments).finish = spec.handler arguments

structure IsPure (d : Dispatcher σ ω τ) (courses : Courses σ) : Prop where
  takes : d.Takes courses
  comesTo : ∀ spec ∈ d.registry.specs, ∀ arguments, ∃ result,
    (courses spec arguments).ComesTo result

variable {d : Dispatcher σ ω τ} {courses : Courses σ}

def bare (answer : Text × Option (MarkerTrace τ)) : Text × Option (MarkerTrace τ) :=
  (answer.1, answer.2.map untimed)

theorem settle_congr (impartial : d.IsImpartial) {begun other : Begun τ}
    (marker : begun.marker = other.marker) (params : begun.params = other.params)
    (result : Except Raised Value) (state state' : σ) (watch watch' : ω) :
    bare (d.settle begun result state watch).1 = bare (d.settle other result state' watch').1 := by
  have same : untimed (conclude begun (d.clock state) result).2 =
      untimed (conclude other (d.clock state') result).2 := by
    simp only [conclude, untimed, marker, params]
  have notified := impartial _ _ watch watch' same
  simp only [settle, report]
  rcases here : d.notify (conclude begun (d.clock state) result).2 watch with ⟨_ | _, after⟩ <;>
    rcases there : d.notify (conclude other (d.clock state') result).2 watch' with ⟨_ | _, after'⟩ <;>
    simp_all [bare]

theorem settle_of_quiet (quiet : d.IsQuiet) (begun : Begun τ) (result : Except Raised Value)
    (state : σ) (watch : ω) :
    (d.settle begun result state watch).1 =
      ((conclude begun (d.clock state) result).1, some (conclude begun (d.clock state) result).2) := by
  simp only [settle, report_of_quiet quiet]
  cases result <;> rfl

theorem resolveOne_of_known {marker : Marker} {spec : MarkerSpec σ}
    (found : d.registry.find? marker.name = some spec) {state next : σ}
    {result : Except Raised Value}
    (given : spec.handler (spec.splitMode.split marker.params) state = (result, next)) (watch : ω) :
    d.resolveOne marker state watch =
      let settled := d.settle
        { marker, params := spec.splitMode.split marker.params, start := d.clock state } result next
        watch
      (settled.1, next, settled.2) := by
  simp only [resolveOne, Registry.contains, found, Option.isSome_some, if_true, execute,
    MarkerSpec.invoke, given, settle, conclude]
  cases result <;> simp only [Except.map] <;> split <;> simp_all

structure Answers (d : Dispatcher σ ω τ) (courses : Courses σ)
    (answer : Marker → Text × Option (MarkerTrace τ)) : Prop where
  plain : ∀ marker state watch, bare (d.resolveOne marker state watch).1 = answer marker
  unknown : ∀ marker, d.registry.find? marker.name = none →
    answer marker = (marker.literal, some (unknownTrace marker))
  known : ∀ marker spec, d.registry.find? marker.name = some spec →
    ∃ result, (courses spec (spec.splitMode.split marker.params)).ComesTo result ∧
      ∀ start state watch,
        bare (d.settle ⟨marker, spec.splitMode.split marker.params, start⟩ result state watch).1 =
          answer marker

theorem exists_answers (impartial : d.IsImpartial) (pure : d.IsPure courses) (state : σ) (watch : ω) :
    ∃ answer, d.Answers courses answer := by
  have given (marker : Marker) {spec : MarkerSpec σ}
      (found : d.registry.find? marker.name = some spec) :
      ∃ result, (courses spec (spec.splitMode.split marker.params)).ComesTo result ∧
        ∀ start last watch' state' watch'',
          bare (d.settle ⟨marker, spec.splitMode.split marker.params, start⟩ result last watch').1 =
            bare (d.resolveOne marker state' watch'').1 := by
    have member := List.mem_of_find?_eq_some found
    obtain ⟨result, comesTo⟩ := pure.comesTo spec member (spec.splitMode.split marker.params)
    refine ⟨result, comesTo, fun start last watch' state' watch'' => ?_⟩
    have answer := comesTo.finish state'
    rw [pure.takes spec member] at answer
    rw [resolveOne_of_known found (Prod.ext answer rfl) watch'']
    dsimp only
    exact settle_congr impartial (by rfl) (by rfl) result _ _ _ _
  refine ⟨fun marker => bare (d.resolveOne marker state watch).1, fun marker state' watch' => ?_,
    fun marker unknown => ?_, fun marker spec found => ?_⟩
  · cases found : d.registry.find? marker.name with
    | none => rw [resolveOne_of_unknown found, resolveOne_of_unknown found]
    | some spec =>
      obtain ⟨result, -, settles⟩ := given marker found
      exact (settles (d.clock state) state watch state' watch').symm.trans (settles _ _ _ _ _)
  · rw [resolveOne_of_unknown unknown]
    rfl
  · obtain ⟨result, comesTo, settles⟩ := given marker found
    exact ⟨result, comesTo, fun start last watch' => settles start last watch' state watch⟩

theorem resolveAll_of_answers {answer : Marker → Text × Option (MarkerTrace τ)}
    (answers : d.Answers courses answer) (markers : List Marker) (state : σ) (watch : ω) :
    (d.resolveAll markers state watch).replies = markers.map (fun marker => (marker, (answer marker).1)) ∧
      (d.resolveAll markers state watch).traces.map untimed =
        markers.flatMap fun marker => (answer marker).2.toList := by
  induction markers generalizing state watch with
  | nil => exact ⟨rfl, rfl⟩
  | cons marker rest ih =>
    obtain ⟨replies, traces⟩ := ih (d.resolveOne marker state watch).2.1
      (d.resolveOne marker state watch).2.2
    simp [resolveAll, replies, traces, ← answers.plain marker state watch, bare,
      Option.toList_map]

inductive Serves (d : Dispatcher σ ω τ) (answer : Marker → Text × Option (MarkerTrace τ))
    (marker : Marker) : Task σ τ → Prop
  | unbegun : Serves d answer marker (.unbegun marker)
  | underWay {begun : Begun τ} {course : Course σ} {result : Except Raised Value}
      (comesTo : course.ComesTo result)
      (settles : ∀ state watch, bare (d.settle begun result state watch).1 = answer marker) :
    Serves d answer marker (.underWay begun course)
  | ended : Serves d answer marker (.ended (answer marker).1)

def IsOver (g : Interleaving σ ω τ) (index : Nat) : Prop :=
  ∃ reply, g.tasks[index]? = some (.ended reply)

structure HasDone (d : Dispatcher σ ω τ) (answer : Marker → Text × Option (MarkerTrace τ))
    (markers done : List Marker) (g : Interleaving σ ω τ) : Prop where
  length : g.tasks.length = markers.length
  serves : ∀ {index : Nat} {marker task}, markers[index]? = some marker →
    g.tasks[index]? = some task → d.Serves answer marker task
  settled : ∀ {index : Nat} {marker}, markers[index]? = some marker → (marker ∈ done ↔ IsOver g index)
  within : done ⊆ markers
  once : done.Nodup
  traces : g.traces.map untimed = done.flatMap fun marker => (answer marker).2.toList

namespace HasDone

variable {answer : Marker → Text × Option (MarkerTrace τ)} {markers done : List Marker}
  {g : Interleaving σ ω τ} {index : Nat} {marker : Marker} {task : Task σ τ}

theorem getElem?_set_tasks (hasDone : d.HasDone answer markers done g)
    (here : markers[index]? = some marker) (task : Task σ τ) (other : Nat) :
    (g.tasks.set index task)[other]? = if index = other then some task else g.tasks[other]? := by
  have within : index < g.tasks.length := by
    rw [hasDone.length]
    exact (List.getElem?_eq_some_iff.1 here).1
  rw [List.getElem?_set, if_pos within]

theorem serves_set (hasDone : d.HasDone answer markers done g)
    (here : markers[index]? = some marker) (serves : d.Serves answer marker task) {other : Nat}
    {marker' : Marker} {task' : Task σ τ} (there : markers[other]? = some marker')
    (present : (g.tasks.set index task)[other]? = some task') : d.Serves answer marker' task' := by
  rw [hasDone.getElem?_set_tasks here] at present
  split at present
  next same =>
    subst same
    cases present
    cases here.symm.trans there
    exact serves
  next => exact hasDone.serves there present

theorem pause (hasDone : d.HasDone answer markers done g) (here : markers[index]? = some marker)
    (unended : ¬ IsOver g index) {begun : Begun τ} {course : Course σ}
    (serves : d.Serves answer marker (.underWay begun course)) (state : σ) :
    d.HasDone answer markers done
      { g with tasks := g.tasks.set index (.underWay begun course), state } where
  length := by simpa using hasDone.length
  serves there present := hasDone.serves_set here serves there present
  settled {other marker'} there := by
    rw [hasDone.settled there, IsOver, IsOver, hasDone.getElem?_set_tasks here]
    split
    next same =>
      subst same
      simpa [IsOver] using unended
    next => rfl
  within := hasDone.within
  once := hasDone.once
  traces := hasDone.traces

theorem finish (hasDone : d.HasDone answer markers done g) (distinct : markers.Nodup)
    (here : markers[index]? = some marker) (unended : ¬ IsOver g index) {reply : Text}
    {trace : Option (MarkerTrace τ)} (answered : bare (reply, trace) = answer marker)
    (faults : List Failure) (state : σ) (watch : ω) :
    d.HasDone answer markers (done ++ [marker])
      { tasks := g.tasks.set index (.ended reply), traces := g.traces ++ trace.toList, faults, state,
        watch } where
  length := by simpa using hasDone.length
  serves there present := by
    obtain rfl : reply = (answer marker).1 := congrArg Prod.fst answered
    exact hasDone.serves_set here .ended there present
  settled {other marker'} there := by
    rw [List.mem_append, List.mem_singleton, hasDone.settled there, IsOver, IsOver,
      hasDone.getElem?_set_tasks here]
    split
    next same =>
      subst same
      cases here.symm.trans there
      simp
    next apart =>
      have different : marker' ≠ marker := by
        rintro rfl
        exact apart ((List.getElem?_inj (List.getElem?_eq_some_iff.1 here).1 distinct).1
          (here.trans there.symm))
      simp [different]
  within := List.append_subset.2 ⟨hasDone.within, by simpa using List.mem_of_getElem? here⟩
  once := by
    have fresh : marker ∉ done := fun member => unended ((hasDone.settled here).1 member)
    simpa [List.nodup_append, hasDone.once] using
      fun other (member : other ∈ done) (same : other = marker) => fresh (same ▸ member)
  traces := by
    have told : trace.map untimed = (answer marker).2 := congrArg Prod.snd answered
    simp [hasDone.traces, ← told, Option.toList_map]

theorem proceed (hasDone : d.HasDone answer markers done g) (distinct : markers.Nodup)
    (here : markers[index]? = some marker) (unended : ¬ IsOver g index)
    {far : Course σ → σ → Course σ × σ} (keeps : Course.Keeps far) {begun : Begun τ}
    {course : Course σ} (serves : d.Serves answer marker (.underWay begun course)) :
    ∃ done', done ⊆ done' ∧ d.HasDone answer markers done' (d.proceed far g index begun course) ∧
      (Course.Ends far → marker ∈ done') := by
  cases serves with
  | underWay comesTo settles =>
    have kept := keeps comesTo g.state
    unfold Dispatcher.proceed
    rcases went : far course g.state with ⟨outcome | ⟨goOn, change⟩, state⟩ <;> rw [went] at kept
    · obtain rfl : outcome = _ := kept
      exact ⟨done ++ [marker], List.subset_append_left _ _,
        hasDone.finish distinct here unended (settles state g.watch) _ _ _, by simp⟩
    · refine ⟨done, List.Subset.refl _, hasDone.pause here unended (.underWay kept settles) _,
        fun ends => ?_⟩
      obtain ⟨result, ended⟩ := ends course g.state
      rw [went] at ended
      contradiction

theorem move (answers : d.Answers courses answer) (hasDone : d.HasDone answer markers done g)
    (distinct : markers.Nodup) {far : Course σ → σ → Course σ × σ} (keeps : Course.Keeps far)
    (index : Nat) :
    ∃ done', done ⊆ done' ∧ d.HasDone answer markers done' (d.move courses far g index) ∧
      (Course.Ends far → ∀ {marker}, markers[index]? = some marker → marker ∈ done') := by
  cases here : markers[index]? with
  | none =>
    have beyond : g.tasks[index]? = none := by
      rw [List.getElem?_eq_none_iff] at here ⊢
      exact Nat.le_trans (Nat.le_of_eq hasDone.length) here
    refine ⟨done, List.Subset.refl _, ?_, by simp⟩
    simpa only [Dispatcher.move, beyond] using hasDone
  | some marker =>
    simp only [Option.some.injEq, forall_eq']
    obtain ⟨task, present⟩ : ∃ task, g.tasks[index]? = some task := by
      have within := (List.getElem?_eq_some_iff.1 here).1
      rw [← hasDone.length] at within
      exact ⟨_, List.getElem?_eq_getElem within⟩
    simp only [Dispatcher.move, present]
    cases hasDone.serves here present with
    | ended =>
      exact ⟨done, List.Subset.refl _, hasDone, fun _ => (hasDone.settled here).2 ⟨_, present⟩⟩
    | underWay comesTo settles =>
      exact hasDone.proceed distinct here (by simp [IsOver, present]) keeps
        (.underWay comesTo settles)
    | unbegun =>
      have unended : ¬ IsOver g index := by simp [IsOver, present]
      cases found : d.registry.find? marker.name with
      | none =>
        have answered : bare (marker.literal, some (unknownTrace marker)) = answer marker :=
          (answers.unknown marker found).symm
        simp only [found]
        exact ⟨done ++ [marker], List.subset_append_left _ _,
          hasDone.finish distinct here unended answered _ _ _, by simp⟩
      | some spec =>
        obtain ⟨result, comesTo, settles⟩ := answers.known marker spec found
        simp only [found]
        exact hasDone.proceed distinct here unended keeps (.underWay comesTo (settles _))

theorem moves (answers : d.Answers courses answer) (hasDone : d.HasDone answer markers done g)
    (distinct : markers.Nodup) {far : Course σ → σ → Course σ × σ} (keeps : Course.Keeps far)
    (indices : List Nat) :
    ∃ done', done ⊆ done' ∧ d.HasDone answer markers done' (indices.foldl (d.move courses far) g) ∧
      (Course.Ends far → ∀ index ∈ indices, ∀ {marker}, markers[index]? = some marker →
        marker ∈ done') := by
  induction indices generalizing done g with
  | nil => exact ⟨done, List.Subset.refl _, hasDone, by simp⟩
  | cons index rest ih =>
    obtain ⟨done', more, hasDone, first⟩ := hasDone.move answers distinct keeps index
    obtain ⟨done'', further, hasDone, others⟩ := ih hasDone
    refine ⟨done'', List.Subset.trans more further, hasDone, fun ends index' member marker here => ?_⟩
    rcases List.mem_cons.1 member with rfl | member
    · exact further (first ends here)
    · exact others ends index' member here

end HasDone

theorem interleave_of_answers {answer : Marker → Text × Option (MarkerTrace τ)}
    (answers : d.Answers courses answer) {markers : List Marker} (distinct : markers.Nodup)
    (schedule : List Nat) (state : σ) (watch : ω) :
    let g := d.interleave courses schedule markers state watch
    g.tasks.map Task.reply = markers.map (fun marker => (answer marker).1) ∧
      ∃ done : List Marker, done.Perm markers ∧
        g.traces.map untimed = done.flatMap fun marker => (answer marker).2.toList := by
  have start : d.HasDone answer markers []
      { tasks := markers.map .unbegun, state, watch : Interleaving σ ω τ } := by
    refine ⟨by simp, fun {index marker task} here present => ?_, fun {index marker} here => ?_,
      List.nil_subset _, List.nodup_nil, rfl⟩
    · obtain rfl : Task.unbegun marker = task := by simpa [here] using present
      exact .unbegun
    · simp [IsOver, here]
  -- Nothing is known of how far the schedule gets; those it leaves are brought to their ends.
  obtain ⟨early, -, hasDone, -⟩ := start.moves answers distinct Course.keeps_turn schedule
  obtain ⟨done, -, hasDone, all⟩ := hasDone.moves answers distinct Course.keeps_whole
    (List.range markers.length)
  have everyone {index : Nat} {marker : Marker} (here : markers[index]? = some marker) :
      marker ∈ done :=
    all Course.ends_whole index (List.mem_range.2 (List.getElem?_eq_some_iff.1 here).1) here
  refine ⟨List.ext_getElem? fun index => ?_, done, ?_, hasDone.traces⟩
  · rw [List.getElem?_map, List.getElem?_map]
    cases here : markers[index]? with
    | none =>
      rw [List.getElem?_eq_none_iff, ← hasDone.length, ← List.getElem?_eq_none_iff] at here
      rw [interleave, here]
      rfl
    | some marker =>
      obtain ⟨reply, here'⟩ := (hasDone.settled here).1 (everyone here)
      have serves := hasDone.serves here here'
      rw [interleave, here']
      cases serves
      rfl
  · refine (List.perm_ext_iff_of_nodup hasDone.once distinct).2 fun marker =>
      ⟨fun member => hasDone.within member, fun member => ?_⟩
    obtain ⟨index, here⟩ := List.mem_iff_getElem?.1 member
    exact everyone here

theorem roundInterleaved_agrees {answer : Marker → Text × Option (MarkerTrace τ)}
    (answers : d.Answers courses answer) (schedule : List Nat) (text : Text) (state state' : σ)
    (watch watch' : ω) :
    (d.roundInterleaved courses schedule text state watch).replies =
        (d.round text state' watch').replies ∧
      Alike (d.roundInterleaved courses schedule text state watch).traces
        (d.round text state' watch').traces := by
  obtain ⟨replies, traces⟩ :=
    resolveAll_of_answers answers (distinct (Document.markers text)) state' watch'
  obtain ⟨replies', done, perm, traces'⟩ :=
    interleave_of_answers answers (nodup_distinct (Document.markers text)) schedule state watch
  constructor
  · rw [round, replies, roundInterleaved, replies', List.map_prod_left_eq_zip]
  · rw [Alike, round, traces, roundInterleaved, traces']
    exact perm.flatMap_right _

end Dispatcher

section RunBy

variable {round other : Nat → Text → σ → ω → Round σ ω τ}

omit [Quantity τ] in
theorem traces_runBy (limit : Nat) (text : Text) (state : σ) (watch : ω) :
    (runBy round limit text state watch).traces =
      (roundsBy round limit text state watch).flatMap Round.traces := by
  induction limit generalizing text state watch with
  | zero => rfl
  | succ left ih =>
    by_cases fixed : Document.markers text = []
    · rw [runBy_of_fixpoint round fixed, roundsBy_of_fixpoint round fixed]
      rfl
    · rw [runBy_succ round fixed, roundsBy_succ round fixed, List.flatMap_cons, ← ih]

theorem runBy_agree
    (agree : ∀ left text state watch state' watch',
      (round left text state watch).replies = (other left text state' watch').replies ∧
        Alike (round left text state watch).traces (other left text state' watch').traces)
    (limit : Nat) (text : Text) (state state' : σ) (watch watch' : ω) :
    let run := runBy round limit text state watch
    let plain := runBy other limit text state' watch'
    run.text = plain.text ∧ run.iterations = plain.iterations ∧ run.endState = plain.endState ∧
      List.Forall₂ (fun first second => Alike first.traces second.traces)
        (roundsBy round limit text state watch) (roundsBy other limit text state' watch') := by
  induction limit generalizing text state state' watch watch' with
  | zero => exact ⟨rfl, rfl, rfl, .nil⟩
  | succ left ih =>
    by_cases fixed : Document.markers text = []
    · rw [runBy_of_fixpoint round fixed, runBy_of_fixpoint other fixed,
        roundsBy_of_fixpoint round fixed, roundsBy_of_fixpoint other fixed]
      exact ⟨rfl, rfl, rfl, .nil⟩
    · obtain ⟨replies, traces⟩ := agree left text state watch state' watch'
      have applied : (round left text state watch).apply text =
          (other left text state' watch').apply text := by rw [Round.apply, Round.apply, replies]
      obtain ⟨text, iterations, endState, rounds⟩ := ih ((other left text state' watch').apply text)
        (round left text state watch).state (other left text state' watch').state
        (round left text state watch).watch (other left text state' watch').watch
      rw [runBy_succ round fixed, runBy_succ other fixed, roundsBy_succ round fixed,
        roundsBy_succ other fixed]
      dsimp only
      rw [applied]
      exact ⟨text, congrArg (· + 1) iterations, endState, .cons traces rounds⟩

end RunBy

namespace Dispatcher

variable {d : Dispatcher σ ω τ} {courses : Courses σ}

theorem Answers.agree {answer : Marker → Text × Option (MarkerTrace τ)}
    (answers : d.Answers courses answer) (schedules : Nat → List Nat) (limit : Nat)
    (document : Text) (values : List (Text × Value)) (state : σ) (watch : ω) :
    let run := d.resolveInterleaved courses schedules limit document values state watch
    let plain := d.resolve limit document values state watch
    let rounds := d.roundsInterleaved courses schedules limit document values state watch
    let plainRounds := d.rounds limit document values state watch
    (run.text = plain.text ∧ run.iterations = plain.iterations ∧ run.endState = plain.endState) ∧
      (run.traces = rounds.flatMap Round.traces ∧
        plain.traces = plainRounds.flatMap Round.traces) ∧
      List.Forall₂ (fun round plain => Alike round.traces plain.traces) rounds plainRounds := by
  obtain ⟨text, iterations, endState, rounds⟩ := runBy_agree
    (fun left text state watch state' watch' =>
      roundInterleaved_agrees answers (schedules left) text state state' watch watch')
    limit (Document.substitute document (values.map fun entry => (entry.1, entry.2.render)))
    state state watch watch
  rw [resolve, run_eq_runBy]
  exact ⟨⟨text, iterations, endState⟩, ⟨traces_runBy _ _ _ _, traces_runBy _ _ _ _⟩, rounds⟩

/-- In whatever order the handlers of each iteration take their turns and end, a resolution is the
sequential one, but for the order of the traces within an iteration and for latencies. -/
theorem schedule_unseen (impartial : d.IsImpartial) (pure : d.IsPure courses)
    (schedules : Nat → List Nat) (limit : Nat) (document : Text) (values : List (Text × Value))
    (state : σ) (watch : ω) :
    let run := d.resolveInterleaved courses schedules limit document values state watch
    let plain := d.resolve limit document values state watch
    let rounds := d.roundsInterleaved courses schedules limit document values state watch
    let plainRounds := d.rounds limit document values state watch
    (run.text = plain.text ∧ run.iterations = plain.iterations ∧ run.endState = plain.endState) ∧
      (run.traces = rounds.flatMap Round.traces ∧
        plain.traces = plainRounds.flatMap Round.traces) ∧
      List.Forall₂ (fun round plain => Alike round.traces plain.traces) rounds plainRounds := by
  obtain ⟨answer, answers⟩ := exists_answers impartial pure state watch
  exact answers.agree schedules limit document values state watch

def unobserved (d : Dispatcher σ ω τ) : Dispatcher σ ω τ := { d with observer := none }

theorem isImpartial_unobserved (d : Dispatcher σ ω τ) : d.unobserved.IsImpartial :=
  fun _ _ _ _ _ => rfl

-- Without an observer, pure handlers are enough.
theorem unobserved_agrees (pure : d.IsPure courses) (schedules : Nat → List Nat) (limit : Nat)
    (document : Text) (values : List (Text × Value)) (state : σ) (watch : ω) :
    let run := d.unobserved.resolveInterleaved courses schedules limit document values state watch
    let plain := d.unobserved.resolve limit document values state watch
    let rounds := d.unobserved.roundsInterleaved courses schedules limit document values state watch
    let plainRounds := d.unobserved.rounds limit document values state watch
    (run.text = plain.text ∧ run.iterations = plain.iterations ∧ run.endState = plain.endState) ∧
      (run.traces = rounds.flatMap Round.traces ∧
        plain.traces = plainRounds.flatMap Round.traces) ∧
      List.Forall₂ (fun round plain => Alike round.traces plain.traces) rounds plainRounds := by
  have pure : d.unobserved.IsPure courses := ⟨pure.takes, pure.comesTo⟩
  obtain ⟨answer, answers⟩ := exists_answers d.isImpartial_unobserved pure state watch
  exact answers.agree schedules limit document values state watch

-- Answers with its parameters, but refuses `b`. It waits once, and every turn takes a second.
def unhurried : Courses Nat := fun _ arguments =>
  .waits (fun _ => .waits (fun _ => .ended
    (if arguments = ["b".toList] then .error (.told .wrongKind) else .ok (.text arguments.flatten)))
    (· + 1)) (· + 1)

-- The observer collects the parameters that it is told of.
def pausing : Dispatcher Nat (List (List Text)) Number where
  registry :=
    ⟨[{ name := "ai_slow".toList
        description := []
        handler := fun arguments seconds =>
          (if arguments = ["b".toList] then .error (.told .wrongKind)
            else .ok (.text arguments.flatten), seconds + 1 + 1) }]⟩
  clock seconds := .int seconds
  observer := some fun trace seen => (.ok (), seen ++ [trace.params])

def twoMarkers : Text := "\x7b\x7bai_slow:a\x7d\x7d\x7b\x7bai_slow:b\x7d\x7d".toList

-- The handler of the second marker ends first.
theorem schedule_unseen_reversed :
    let run := pausing.resolveInterleaved unhurried (fun _ => [0, 1, 1, 0]) 1 twoMarkers [] 0 []
    let plain := pausing.resolve 1 twoMarkers [] 0 []
    pausing.IsImpartial ∧ pausing.IsPure unhurried ∧
      run.traces.map MarkerTrace.params = [["b".toList], ["a".toList]] ∧
      plain.traces.map MarkerTrace.params = [["a".toList], ["b".toList]] ∧
      run.text = plain.text ∧
      List.Forall₂ (fun round plain => Alike round.traces plain.traces)
        (pausing.roundsInterleaved unhurried (fun _ => [0, 1, 1, 0]) 1 twoMarkers [] 0 [])
        (pausing.rounds 1 twoMarkers [] 0 []) := by
  have impartial : pausing.IsImpartial := fun _ _ _ _ _ => rfl
  have pure : pausing.IsPure unhurried := by
    refine ⟨fun spec member arguments => ?_, fun spec _ arguments => ⟨_, fun _ _ => rfl⟩⟩
    obtain rfl := List.mem_singleton.1 member
    rfl
  obtain ⟨⟨text, -⟩, -, rounds⟩ :=
    schedule_unseen impartial pure (fun _ => [0, 1, 1, 0]) 1 twoMarkers [] 0 []
  exact ⟨impartial, pure, by decide +kernel, by decide +kernel, text, rounds⟩

end Dispatcher

end DocMarkers
