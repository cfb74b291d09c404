import DocMarkers.Proofs.Generation.Exchange
import DocMarkers.Proofs.Generation.Order

set_option autoImplicit false

namespace DocMarkers

namespace SharedGenerator

variable {τ : Type} [Quantity τ] {s next : SharedGenerator τ} {task : Nat} {aim : Aim}
  {old new : Place} {event : Option ModelEvent}

-- Whoever goes on where all before it ended finds what it would find on its own.
theorem settled_of_alone (here : s.tasks[task]? = some old)
    (tasks : next.tasks = s.tasks.set task new)
    (alone : ∀ earlier < task, ∀ place, s.tasks[earlier]? = some place → place.stage = 5)
    (same : new.settle next.generator next.world = old.settle s.generator s.world) :
    next.settled = s.settled := by
  rw [settled, settled, tasks]
  refine inTurn_set
    (fun a b => a = (next.generator, next.world) ∧ b = (s.generator, s.world)) here ?_ ?_
    (next.generator, next.world) (s.generator, s.world) ⟨rfl, rfl⟩
  · rintro earlier less place there _ _ ⟨rfl, rfl⟩
    obtain ⟨result, rfl⟩ := Place.ended_of_stage (alone earlier less place there)
    exact ⟨rfl, rfl, rfl⟩
  · rintro _ _ ⟨rfl, rfl⟩
    exact same

-- With the model there, those before leave it there.
theorem settled_of_ready (inOrder : s.InOrder) (here : s.tasks[task]? = some old)
    (ready : s.generator.isReady = true) (tasks : next.tasks = s.tasks.set task new)
    (generator : next.generator = s.generator) (world : next.world = s.world)
    (same : ∀ world : World τ, new.settle s.generator world = old.settle s.generator world) :
    next.settled = s.settled := by
  rw [settled, settled, tasks, generator, world]
  refine inTurn_set (fun a b => a = b ∧ a.1 = s.generator) here ?_ ?_
    (s.generator, s.world) (s.generator, s.world) ⟨rfl, rfl⟩
  · rintro earlier - place there a _ ⟨rfl, loaded⟩
    have member := List.mem_of_getElem? there
    refine ⟨rfl, rfl, ?_⟩
    rw [loaded]
    exact Place.settle_generator ready a.2 (inOrder.stays place member)
      (inOrder.not_loading ready member)
  · rintro a _ ⟨rfl, loaded⟩
    rw [loaded]
    exact same a.2

theorem settled_of_same (here : s.tasks[task]? = some old)
    (tasks : next.tasks = s.tasks.set task new) (generator : next.generator = s.generator)
    (world : next.world = s.world)
    (same : ∀ (g : Generator) (world : World τ), new.settle g world = old.settle g world) :
    next.settled = s.settled := by
  rw [settled, settled, tasks, generator, world]
  refine inTurn_set (fun a b => a = b) here ?_ ?_
    (s.generator, s.world) (s.generator, s.world) rfl
  · rintro earlier - place - ⟨g, world⟩ _ rfl
    exact ⟨rfl, rfl⟩
  · rintro ⟨g, world⟩ _ rfl
    exact same g world

theorem Ensured.settle_of_ready (ensured : Ensured s task aim next)
    (ready : s.generator.isReady = true) :
    ∃ place, next.tasks = s.tasks.set task place ∧ next.generator = s.generator ∧
      next.world = s.world ∧
      ∀ world : World τ, place.settle s.generator world = aim.pursue s.generator world := by
  cases ensured with
  | finishes => exact ⟨_, rfl, rfl, rfl, fun _ => rfl⟩
  | completes => exact ⟨_, rfl, rfl, rfl, fun _ => rfl⟩
  | queues => exact ⟨_, rfl, rfl, rfl, fun _ => rfl⟩
  | loads missing => simp [ready] at missing
  | waits missing => simp [ready] at missing

theorem Turned.settled_eq (turned : Turned s task event next) (inOrder : s.InOrder)
    (clear : s.Clear task) : next.settled = s.settled := by
  cases turned with
  | rests => rfl
  | enters here ensured =>
    have gone := clear (by simp [isFresh, here])
    cases ready : s.generator.isReady with
    | true =>
      obtain ⟨place, tasks, generator, world, pursues⟩ := ensured.settle_of_ready ready
      refine settled_of_ready inOrder here ready tasks generator world fun world => ?_
      rw [pursues, Place.settle, Aim.run_job_of_ready ready]
    | false =>
      cases ensured with
      | loads missing free =>
        exact settled_of_alone here rfl (fun earlier less place there =>
          inOrder.ended_of_missing_of_free missing free there (gone earlier less place there).1)
          (Place.settle_loading missing _ _)
      | waits => exact settled_of_same here rfl rfl rfl fun _ _ => rfl
      | finishes there => simp [ready] at there
      | completes there => simp [ready] at there
      | queues there => simp [ready] at there
  | waitsToExchange here =>
    have stays := inOrder.stays _ (List.mem_of_getElem? here)
    simp [Place.isExchanging] at stays
  | exchanges here =>
    have stays := inOrder.stays _ (List.mem_of_getElem? here)
    simp [Place.isExchanging] at stays
  | exchangesInTurn here =>
    have stays := inOrder.stays _ (List.mem_of_getElem? here)
    simp [Place.isExchanging] at stays
  | passes here first ready ensured =>
    obtain ⟨place, tasks, generator, world, pursues⟩ := ensured.settle_of_ready ready
    refine settled_of_ready inOrder here ready tasks generator world fun world => ?_
    rw [pursues, Place.settle, Aim.run_job_of_ready ready]
  | loadsInTurn here first missing =>
    exact settled_of_alone here rfl (fun earlier less place there =>
      inOrder.ended_of_missing missing there (inOrder.past_load here first less there))
      (Place.settle_loading missing _ _)
  | loaded here success ensured =>
    obtain ⟨place, tasks, generator, world, pursues⟩ := ensured.settle_of_ready rfl
    refine settled_of_alone here tasks (fun earlier less place there =>
      inOrder.ended_before_lock here (.inl rfl) less there) ?_
    rw [generator, world, pursues, Place.settle_loading_loaded success]
  | refused here refusal =>
    exact settled_of_alone here rfl (fun earlier less place there =>
      inOrder.ended_before_lock here (.inl rfl) less there)
      (Place.settle_loading_refused refusal _).symm
  | completesInTurn here => exact settled_of_same here rfl rfl rfl fun _ _ => rfl
  | findsNoModel here first missing =>
    have provided := inOrder.provided missing _ (List.mem_of_getElem? here)
    simp at provided
  | completed here =>
    exact settled_of_alone here rfl (fun earlier less place there =>
      inOrder.ended_before_lock here (.inr rfl) less there) rfl

structure Opening (s : SharedGenerator τ) (task : Nat) : Prop where
  gone : ∀ earlier < task, s.isFresh earlier = false
  fresh : ∀ later > task, ∀ place, s.tasks[later]? = some place → place.stage = 0
  line : s.loadLock.line ≠ [] →
    ∃ earlier < task, ∃ place, s.tasks[earlier]? = some place ∧ place.isLoading = true

omit [Quantity τ] in
theorem stage_of_not_fresh (notFresh : s.isFresh task = false) (here : s.tasks[task]? = some old) :
    1 ≤ old.stage := by
  cases old with
  | fresh job => simp [isFresh, here] at notFresh
  | _ => simp

omit [Quantity τ] in
theorem Opening.clear (opening : s.Opening task) (inOrder : s.InOrder) : s.Clear task := by
  intro _ earlier less place there
  have gone := stage_of_not_fresh (opening.gone earlier less) there
  refine ⟨gone, fun ready => ?_⟩
  have notLoading := Place.stage_isLoading
    (inOrder.not_loading ready (List.mem_of_getElem? there))
  have notWaiting : place.awaitsLoad = false := by
    cases waits : place.awaitsLoad with
    | false => rfl
    | true =>
      have member := (inOrder.coherent.loadLock.inLine earlier).2 (by simpa [there] using waits)
      obtain ⟨_, -, other, there, loading⟩ := opening.line (List.ne_nil_of_mem member)
      simp [inOrder.not_loading ready (List.mem_of_getElem? there)] at loading
  have waiting := Place.stage_awaitsLoad notWaiting
  omega

omit [Quantity τ] in
-- Only a task that comes while another one loads goes to the end of an empty line.
theorem Ensured.line (ensured : Ensured s task aim next) (line : next.loadLock.line ≠ []) :
    s.loadLock.line ≠ [] ∨ s.loadLock.isHeld = true := by
  cases ensured with
  | waits missing busy =>
    by_cases empty : s.loadLock.line = []
    · exact .inr (by simpa [Lock.isFree, empty] using busy)
    · exact .inl empty
  | _ => exact .inl line

theorem Turned.line (turned : Turned s task event next) (inOrder : s.InOrder)
    (line : next.loadLock.line ≠ []) :
    s.loadLock.line ≠ [] ∨ s.isFresh task = true ∧ s.loadLock.isHeld = true := by
  have tail (waited : s.loadLock.line.tail ≠ []) : s.loadLock.line ≠ [] := by
    rintro empty
    simp [empty] at waited
  cases turned with
  | enters here ensured =>
    rcases ensured.line line with waited | held
    · exact .inl waited
    · exact .inr ⟨by simp [isFresh, here], held⟩
  | waitsToExchange here =>
    have stays := inOrder.stays _ (List.mem_of_getElem? here)
    simp [Place.isExchanging] at stays
  | exchanges here =>
    have stays := inOrder.stays _ (List.mem_of_getElem? here)
    simp [Place.isExchanging] at stays
  | exchangesInTurn here =>
    have stays := inOrder.stays _ (List.mem_of_getElem? here)
    simp [Place.isExchanging] at stays
  | passes here first ready ensured =>
    rcases ensured.line line with waited | held
    · exact .inl (tail waited)
    · simp [Lock.giveBack] at held
  | loadsInTurn here first missing => exact .inl (tail line)
  | loaded here success ensured =>
    rcases ensured.line line with waited | held
    · exact .inl waited
    · simp [Lock.giveBack] at held
  | _ => exact .inl line

theorem Opening.turned (opening : s.Opening task) (inOrder : s.InOrder)
    (turned : Turned s task event next) : next.Opening task := by
  refine ⟨fun earlier less => ?_, fun later more place there => ?_, fun line => ?_⟩
  · have same := turned.others (Nat.ne_of_lt less)
    simpa [isFresh, same] using opening.gone earlier less
  · rw [turned.others (Nat.ne_of_gt more)] at there
    exact opening.fresh later more place there
  · have loads : ∃ earlier < task, ∃ place, s.tasks[earlier]? = some place ∧
        place.isLoading = true := by
      rcases turned.line inOrder line with waited | ⟨fresh, held⟩
      · exact opening.line waited
      · have loading : 0 < s.tasks.countP Place.isLoading := by
          simp [inOrder.coherent.loadLock.held, held]
        obtain ⟨place, member, loads⟩ := List.countP_pos_iff.1 loading
        obtain ⟨earlier, there⟩ := List.getElem?_of_mem member
        refine ⟨earlier, Nat.lt_of_not_le fun later => ?_, place, there, loads⟩
        rcases Nat.eq_or_lt_of_le later with rfl | later
        · cases place <;> simp [isFresh, there, Place.isLoading] at fresh loads
        · have fresh := opening.fresh earlier later place there
          cases place <;> simp [Place.isLoading] at fresh loads
    obtain ⟨earlier, less, place, there, loads⟩ := loads
    exact ⟨earlier, less, place, by rw [turned.others (Nat.ne_of_lt less), there], loads⟩

omit [Quantity τ] in
theorem Opening.passed (opening : s.Opening task) (gone : s.isFresh task = false) :
    s.Opening (task + 1) := by
  refine ⟨fun earlier less => ?_, fun later more => opening.fresh later (by omega),
    fun line => ?_⟩
  · rcases Nat.lt_succ_iff_lt_or_eq.1 less with less | rfl
    · exact opening.gone earlier less
    · exact gone
  · obtain ⟨earlier, less, loads⟩ := opening.line line
    exact ⟨earlier, by omega, loads⟩

theorem turns_append (s : SharedGenerator τ) (first second : List Nat) :
    s.turns (first ++ second) = (s.turns first).turns second :=
  List.foldl_append

-- Whoever comes may take several turns at once: not every wait lets others in.
theorem turns_replicate (opening : s.Opening task) (inOrder : s.InOrder) (times : Nat) :
    let next := s.turns (List.replicate (times + 1) task)
    next.Opening (task + 1) ∧ next.InOrder ∧ next.settled = s.settled := by
  have step {s : SharedGenerator τ} (opening : s.Opening task) (inOrder : s.InOrder) :
      (s.turn task).Opening task ∧ (s.turn task).InOrder ∧
        (s.turn task).settled = s.settled := by
    have turned := turned s task
    have clear := opening.clear inOrder
    exact ⟨opening.turned inOrder turned, turned.inOrder inOrder clear,
      turned.settled_eq inOrder clear⟩
  induction times generalizing s with
  | zero =>
    obtain ⟨opening, inOrder, settled⟩ := step opening inOrder
    exact ⟨opening.passed (turned s task).gone, inOrder, settled⟩
  | succ times ih =>
    obtain ⟨opening, inOrder, settled⟩ := step opening inOrder
    obtain ⟨opening, inOrder, same⟩ := ih opening inOrder
    exact ⟨opening, inOrder, same.trans settled⟩

def opening (further : Nat → Nat) (number : Nat) : List Nat :=
  (List.range number).flatMap fun task => List.replicate (further task + 1) task

theorem turns_opening (opening : s.Opening 0) (inOrder : s.InOrder) (further : Nat → Nat)
    (number : Nat) :
    let next := s.turns (SharedGenerator.opening further number)
    next.Opening number ∧ next.InOrder ∧ next.settled = s.settled := by
  induction number with
  | zero => exact ⟨opening, inOrder, rfl⟩
  | succ number ih =>
    obtain ⟨opened, inOrder, settled⟩ := ih
    obtain ⟨opened, inOrder, same⟩ := turns_replicate opened inOrder (further number)
    rw [SharedGenerator.opening, List.range_succ, List.flatMap_append, turns_append]
    simpa using ⟨opened, inOrder, same.trans settled⟩

-- Once all have come, they may go on in any order.
theorem settled_turns (inOrder : s.InOrder) (gone : ∀ task, s.isFresh task = false)
    (order : List Nat) : (s.turns order).settled = s.settled := by
  induction order generalizing s with
  | nil => rfl
  | cons task order ih =>
    have turned := turned s task
    have clear : s.Clear task := by simp [Clear, gone]
    refine (ih (turned.inOrder inOrder clear) fun other => ?_).trans
      (turned.settled_eq inOrder clear)
    by_cases same : other = task
    · rw [same, turned.gone]
    · simpa [isFresh, turned.others same] using gone other

omit [Quantity τ] in
theorem tasks_of_ended (ended : ∀ place ∈ s.tasks, ∃ result, place = .ended result) :
    s.tasks = s.results.map .ended := by
  rw [results]
  generalize s.tasks = tasks at ended
  induction tasks with
  | nil => rfl
  | cons place tasks ih =>
    obtain ⟨result, rfl⟩ := ended place List.mem_cons_self
    have others := ih fun place member => ended place (List.mem_cons_of_mem _ member)
    simpa [Place.result?] using others

omit [Quantity τ] in
theorem inOrder_start (g : Generator) (world : World τ) (aims : List Aim) :
    (start g world (aims.map Aim.job)).InOrder := by
  have fresh {task : Nat} {place : Place}
      (here : (start g world (aims.map Aim.job)).tasks[task]? = some place) :
      ∃ aim : Aim, place = .fresh aim.job := by
    simp only [start, List.map_map, List.getElem?_map] at here
    obtain ⟨aim, -, rfl⟩ := Option.map_eq_some_iff.1 here
    exact ⟨aim, rfl⟩
  refine ⟨.start g world _, fun place member => ?_, fun earlier later less place other there here =>
    ?_, .nil, .nil, fun missing place member => ?_⟩
  · obtain ⟨task, here⟩ := List.getElem?_of_mem member
    obtain ⟨aim, rfl⟩ := fresh here
    cases aim <;> rfl
  · obtain ⟨aim, rfl⟩ := fresh here
    exact .inr (by simp)
  · obtain ⟨task, here⟩ := List.getElem?_of_mem member
    obtain ⟨aim, rfl⟩ := fresh here
    simp

omit [Quantity τ] in
theorem opening_start (g : Generator) (world : World τ) (jobs : List Job) :
    (start g world jobs).Opening 0 := by
  refine ⟨by simp, fun later _ place here => ?_, by simp [start]⟩
  simp only [start, List.getElem?_map] at here
  obtain ⟨job, -, rfl⟩ := Option.map_eq_some_iff.1 here
  rfl

theorem turns_in_sequence (g : Generator) (world : World τ) (aims : List Aim)
    (further : Nat → Nat) (rest : List Nat)
    (ended : ∀ place ∈ ((start g world (aims.map Aim.job)).turns
      (opening further aims.length ++ rest)).tasks, ∃ result, place = .ended result) :
    let s := (start g world (aims.map Aim.job)).turns (opening further aims.length ++ rest)
    let alone := inTurn Job.run (aims.map Aim.job) g world
    s.tasks = alone.1.map .ended ∧ s.generator = alone.2.1 ∧ s.world = alone.2.2 := by
  intro s alone
  obtain ⟨opened, inOrder, settled⟩ := turns_opening (opening_start g world _)
    (inOrder_start g world aims) further aims.length
  have gone (task : Nat) : ((start g world (aims.map Aim.job)).turns
      (opening further aims.length)).isFresh task = false := by
    by_cases less : task < aims.length
    · exact opened.gone task less
    · have beyond : ((start g world (aims.map Aim.job)).turns
          (opening further aims.length)).tasks[task]? = none := by
        rw [List.getElem?_eq_none_iff, length_turns]
        simpa [start] using less
      simp [isFresh, beyond]
  have same : s.settled = alone := by
    refine Eq.trans ?_ (settled.trans (settled_start g world _))
    rw [← settled_turns inOrder gone rest, ← turns_append]
  rw [settled_ended (tasks_of_ended ended)] at same
  rw [← same]
  exact ⟨tasks_of_ended ended, rfl, rfl⟩

theorem gather_eq_turns (g : Generator) (world : World τ) (jobs : List Job) :
    ∃ rest, gather g world jobs =
      (start g world jobs).turns (opening (fun _ => 0) jobs.length ++ rest) := by
  obtain ⟨rest, turns⟩ := inOrderOfReadiness_eq_turns (start g world jobs).turnsLeft
    (List.range jobs.length) (start g world jobs)
  have enough : jobs.length ≤ (start g world jobs).turnsLeft := by
    have turnsLeft : (jobs.map Place.fresh).map Place.turnsLeft = List.replicate jobs.length 6 := by
      simp [List.eq_replicate_iff, Place.turnsLeft]
    rw [SharedGenerator.turnsLeft, ← List.sum_eq_foldl_nat, start, turnsLeft,
      List.sum_replicate_nat]
    omega
  rw [List.take_of_length_le (by simpa using enough)] at turns
  refine ⟨rest, turns.trans ?_⟩
  simp [opening]

/-- Loads and generations that are started together end as those that are run one after another,
with the same results, model and traces in the world. So they do in any other order in which all
come before one waits for what another one has. If some loads are refused before one succeeds, as
many of them are told so, and those after them find the model there. -/
theorem gathered_in_sequence (g : Generator) (world : World τ) (aims : List Aim) :
    let jobs := aims.map Aim.job
    let alone := inTurn Job.run jobs g world
    let s := gather g world jobs
    (s.tasks = alone.1.map .ended ∧ s.generator = alone.2.1 ∧ s.world = alone.2.2) ∧
      (∀ further rest,
        let t := (start g world jobs).turns (opening further aims.length ++ rest)
        (∀ place ∈ t.tasks, ∃ result, place = .ended result) →
          t.tasks = s.tasks ∧ t.generator = s.generator ∧ t.world = s.world) ∧
      ∀ failures : List Failure, g.isReady = false →
        (∀ index, (within : index < failures.length) →
          world.loader (world.loads ++ List.replicate index g.modelId) g.modelId =
            some failures[index]) →
        world.loader (world.loads ++ List.replicate failures.length g.modelId) g.modelId = none →
        (∀ task aim, aims[task]? = some aim →
          (∀ failure, failures[task]? = some failure →
            s.tasks[task]? = some (.ended (.error (aim.refusal g failure)))) ∧
          (failures.length ≤ task →
            let (_, before) := found Job.run jobs task g world
            s.tasks[task]? =
              some (.ended (aim.pursue { g with loaded := some g.modelId } before).1))) ∧
        s.world.loads =
          world.loads ++ List.replicate (min aims.length (failures.length + 1)) g.modelId := by
  intro jobs alone s
  have together : s.tasks = alone.1.map .ended ∧ s.generator = alone.2.1 ∧ s.world = alone.2.2 := by
    obtain ⟨rest, turns⟩ := gather_eq_turns g world jobs
    have ended := fun place member => @gather_ends _ _ g world jobs place member
    rw [turns, List.length_map] at ended
    have sequence := turns_in_sequence g world aims (fun _ => 0) rest ended
    rwa [← List.length_map Aim.job, ← turns] at sequence
  refine ⟨together, ?_, fun failures missing refused success => ?_⟩
  · intro further rest t ended
    obtain ⟨tasks, generator, world⟩ := turns_in_sequence g world aims further rest ended
    exact ⟨tasks.trans together.1.symm, generator.trans together.2.1.symm,
      world.trans together.2.2.symm⟩
  · obtain ⟨tasks, -, trace⟩ := together
    have before {task : Nat} (within : task ≤ aims.length) :=
      AfterLoads.found missing refused success within
    refine ⟨fun task aim here => ?_, ?_⟩
    · have within := (List.getElem?_eq_some_iff.1 here).1
      have job : jobs[task]? = some aim.job := by simp [jobs, here]
      have result := getElem?_inTurn Job.run job g world
      have state := before (Nat.le_of_lt within)
      rw [tasks, List.getElem?_map, result]
      refine ⟨fun failure refusal => ?_, fun past => ?_⟩
      · obtain ⟨less, rfl⟩ := List.getElem?_eq_some_iff.1 refusal
        exact congrArg (fun result => some (Place.ended result))
          (state.run_of_refused missing refused less aim).1
      · exact congrArg (fun result => some (Place.ended result))
          (state.run_of_loaded missing success past aim).1
    · have all := (before (Nat.le_refl _)).loads
      rw [← List.length_map Aim.job, found_length] at all
      rw [trace, ← List.length_map Aim.job]
      exact all

def hesitant : World Number :=
  { agreeable with
    loader := fun earlier _ => if earlier = [] then some (.runtime "busy".toList) else none }

def twoAndLoad : List Aim :=
  [.reply "first".toList {}, .reply "second".toList {}, .nothing]

theorem gathered_after_refusal :
    let g := Generator.ofSettings .defaults
    let s := gather g hesitant (twoAndLoad.map Aim.job)
    g.isReady = false ∧
      s.tasks[0]? =
        some (.ended (.error (.modelUnavailable "gpt-4o-mini".toList "busy".toList))) ∧
      s.tasks[1]? = some (.ended (.ok (some "yes".toList))) ∧
      s.world.loads = ["gpt-4o-mini".toList, "gpt-4o-mini".toList] := by
  intro g s
  obtain ⟨-, -, refusals⟩ := gathered_in_sequence g hesitant twoAndLoad
  have refused (index : Nat) (within : index < [Failure.runtime "busy".toList].length) :
      hesitant.loader (hesitant.loads ++ List.replicate index g.modelId) g.modelId =
        some [Failure.runtime "busy".toList][index] := by
    obtain rfl : index = 0 := by simpa using within
    rfl
  obtain ⟨results, loads⟩ := refusals [.runtime "busy".toList] rfl refused rfl
  have first := (results 0 (.reply "first".toList {}) rfl).1 (.runtime "busy".toList) rfl
  have second := (results 1 (.reply "second".toList {}) rfl).2 (by decide)
  refine ⟨rfl, first, second.trans rfl, ?_⟩
  rw [loads]
  rfl

end SharedGenerator

end DocMarkers
