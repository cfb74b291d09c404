import DocMarkers.Proofs.Resolution.Interleaved

set_option autoImplicit false

namespace DocMarkers.Dispatcher

variable {σ ω τ : Type}

/-- The traces that an observer is told of. Unknown markers are none of its business. -/
def told (traces : List (MarkerTrace τ)) : List (MarkerTrace τ) :=
  traces.filter fun trace => trace.status != .unknown

theorem told_append (traces others : List (MarkerTrace τ)) :
    told (traces ++ others) = told traces ++ told others := List.filter_append ..

inductive Accepts (d : Dispatcher σ ω τ) : List (MarkerTrace τ) → ω → ω → Prop
  | nothing (watch : ω) : Accepts d [] watch watch
  | next {trace : MarkerTrace τ} {rest : List (MarkerTrace τ)} {watch heard after : ω}
      (accepted : d.notify trace watch = (.ok (), heard)) (later : Accepts d rest heard after) :
    Accepts d (trace :: rest) watch after

def RefusesAll (d : Dispatcher σ ω τ) : Prop :=
  ∀ trace watch, ∃ refusal, (d.notify trace watch).1 = .error refusal

theorem accepts_of_quiet {d : Dispatcher σ ω τ} (quiet : d.IsQuiet) (traces : List (MarkerTrace τ))
    (watch : ω) : ∃ after, d.Accepts traces watch after := by
  induction traces generalizing watch with
  | nil => exact ⟨watch, .nothing watch⟩
  | cons trace rest ih =>
    obtain ⟨after, later⟩ := ih (d.notify trace watch).2
    exact ⟨after, .next (Prod.ext (quiet trace watch) rfl) later⟩

theorem Accepts.of_append {d : Dispatcher σ ω τ} {traces others : List (MarkerTrace τ)}
    {watch after : ω} (accepts : d.Accepts (traces ++ others) watch after) :
    ∃ between, d.Accepts traces watch between ∧ d.Accepts others between after := by
  induction traces generalizing watch with
  | nil => exact ⟨watch, .nothing watch, accepts⟩
  | cons trace rest ih =>
    cases accepts with
    | next accepted later =>
      obtain ⟨between, first, second⟩ := ih later
      exact ⟨between, .next accepted first, second⟩

/-- What is left of an answer when its trace has been told: nothing of it after a refusal. -/
def afterTelling (d : Dispatcher σ ω τ) (marker : Marker) (answer : Text × Option (MarkerTrace τ))
    (watch : ω) : (Text × Option (MarkerTrace τ)) × ω :=
  match answer.2 with
  | none => (answer, watch)
  | some trace =>
    if trace.status = .unknown then (answer, watch)
    else
      match d.notify trace watch with
      | (.ok (), watch) => (answer, watch)
      | (.error _, watch) => ((marker.literal, none), watch)

theorem afterTelling_of_accepts {d : Dispatcher σ ω τ} {marker : Marker}
    {answer : Text × Option (MarkerTrace τ)} {watch after : ω}
    (accepts : d.Accepts (told answer.2.toList) watch after) :
    d.afterTelling marker answer watch = (answer, after) := by
  obtain ⟨reply, trace⟩ := answer
  cases trace with
  | none =>
    cases accepts
    rfl
  | some trace =>
    by_cases unknown : trace.status = .unknown
    · have heard : told [trace] = [] := by simp [told, unknown]
      rw [Option.toList_some, heard] at accepts
      cases accepts
      simp only [afterTelling, unknown, if_true]
    · have heard : told [trace] = [trace] := by simp [told, unknown]
      rw [Option.toList_some, heard] at accepts
      cases accepts with
      | next accepted later =>
        cases later
        simp only [afterTelling, unknown, if_false, accepted]

variable [Quantity τ] {d : Dispatcher σ ω τ}

theorem settle_eq (begun : Begun τ) (result : Except Raised Value) (state : σ) (watch watch' : ω) :
    d.settle begun result state watch =
      d.afterTelling begun.marker (d.unobserved.settle begun result state watch').1 watch := by
  have known : (conclude begun (d.clock state) result).2.status ≠ .unknown := by
    cases result <;> exact nofun
  rw [show (d.unobserved.settle begun result state watch').1 =
    (_, some (conclude begun (d.clock state) result).2) from rfl]
  simp only [afterTelling, known, if_false, settle, report]
  rcases d.notify (conclude begun (d.clock state) result).2 watch with ⟨_ | _, after⟩ <;> rfl

theorem resolveOne_eq (marker : Marker) (state : σ) (watch watch' : ω) :
    d.resolveOne marker state watch =
      let plain := d.unobserved.resolveOne marker state watch'
      let heard := d.afterTelling marker plain.1 watch
      (heard.1, plain.2.1, heard.2) := by
  cases found : d.registry.find? marker.name with
  | none =>
    have plain := resolveOne_of_unknown (d := d.unobserved) found state watch'
    rw [resolveOne_of_unknown found, plain]
    rfl
  | some spec =>
    rcases given : spec.handler (spec.splitMode.split marker.params) state with ⟨result, next⟩
    have plain := resolveOne_of_known (d := d.unobserved) found given watch'
    rw [resolveOne_of_known found given, plain, settle_eq _ _ _ _ watch']
    rfl

theorem settle_of_accepts {begun : Begun τ} {result : Except Raised Value} {state : σ}
    {watch watch' after : ω}
    (accepts : d.Accepts (told (d.unobserved.settle begun result state watch').1.2.toList) watch
      after) :
    d.settle begun result state watch =
        ((d.unobserved.settle begun result state watch').1, after) ∧
      d.settleFault? begun result state watch =
        d.unobserved.settleFault? begun result state watch' := by
  refine ⟨by rw [settle_eq _ _ _ _ watch', afterTelling_of_accepts accepts], ?_⟩
  have heard : told (d.unobserved.settle begun result state watch').1.2.toList =
      [(conclude begun (d.clock state) result).2] := by
    cases result <;> rfl
  rw [heard] at accepts
  cases accepts with
  | next accepted later =>
    simp only [settleFault?, report, accepted]
    rfl

theorem resolveAll_of_accepts {markers : List Marker} {state : σ} {watch watch' after : ω}
    (accepts : d.Accepts (told (d.unobserved.resolveAll markers state watch').traces) watch after) :
    d.resolveAll markers state watch =
      { d.unobserved.resolveAll markers state watch' with watch := after } := by
  induction markers generalizing state watch watch' with
  | nil =>
    cases accepts
    rfl
  | cons marker rest ih =>
    simp only [resolveAll, told_append] at accepts ⊢
    obtain ⟨heard, first, later⟩ := accepts.of_append
    have here : d.resolveOne marker state watch =
        ((d.unobserved.resolveOne marker state watch').1,
          (d.unobserved.resolveOne marker state watch').2.1, heard) := by
      rw [resolveOne_eq marker state watch watch']
      simp only [afterTelling_of_accepts first]
    simp only [here, ih later]

theorem proceed_of_accepts {far : Course σ → σ → Course σ × σ} {g : Interleaving σ ω τ}
    {index : Nat} {begun : Begun τ} {course : Course σ} :
    ∃ traces, (d.unobserved.proceed far g index begun course).traces = g.traces ++ traces ∧
      ∀ {watch after : ω}, d.Accepts (told traces) watch after →
        d.proceed far { g with watch } index begun course =
          { d.unobserved.proceed far g index begun course with watch := after } := by
  rcases gone : far course g.state with ⟨⟨result⟩ | ⟨goOn, change⟩, state⟩
  · refine ⟨(d.unobserved.settle begun result state g.watch).1.2.toList, ?_, ?_⟩
    · simp only [proceed, gone]
    · intro watch after accepts
      obtain ⟨here, fault⟩ := settle_of_accepts accepts
      simp only [proceed, gone, here, fault]
  · refine ⟨[], ?_, ?_⟩
    · simp only [proceed, gone, List.append_nil]
    · intro watch after accepts
      cases accepts
      simp only [proceed, gone]

theorem move_of_accepts (courses : Courses σ) (far : Course σ → σ → Course σ × σ) (g : Interleaving σ ω τ)
    (index : Nat) :
    ∃ traces, (d.unobserved.move courses far g index).traces = g.traces ++ traces ∧
      ∀ {watch after : ω}, d.Accepts (told traces) watch after →
        d.move courses far { g with watch } index =
          { d.unobserved.move courses far g index with watch := after } := by
  have still : ∃ traces, g.traces = g.traces ++ traces ∧
      ∀ {watch after : ω}, d.Accepts (told traces) watch after →
        { g with watch } = { g with watch := after } :=
    ⟨[], (List.append_nil _).symm, fun accepts => by cases accepts; rfl⟩
  rcases here : g.tasks[index]? with _ | ⟨marker⟩ | ⟨begun, course⟩ | reply
  · simpa only [move, here] using still
  · cases found : d.registry.find? marker.name with
    | none =>
      have found' : d.unobserved.registry.find? marker.name = none := found
      refine ⟨[unknownTrace marker], ?_, ?_⟩
      · simp only [move, here, found']
      · intro watch after accepts
        cases accepts
        simp only [move, here, found, found']
    | some spec =>
      have found' : d.unobserved.registry.find? marker.name = some spec := found
      simp only [move, here, found, found']
      exact proceed_of_accepts
  · simp only [move, here]
    exact proceed_of_accepts
  · simpa only [move, here] using still

theorem moves_of_accepts (courses : Courses σ) (far : Course σ → σ → Course σ × σ) (turns : List Nat)
    (g : Interleaving σ ω τ) :
    ∃ traces, (turns.foldl (d.unobserved.move courses far) g).traces = g.traces ++ traces ∧
      ∀ {watch after : ω}, d.Accepts (told traces) watch after →
        turns.foldl (d.move courses far) { g with watch } =
          { turns.foldl (d.unobserved.move courses far) g with watch := after } := by
  induction turns generalizing g with
  | nil => exact ⟨[], (List.append_nil _).symm, fun accepts => by cases accepts; rfl⟩
  | cons index rest ih =>
    obtain ⟨first, here, agrees⟩ := d.move_of_accepts courses far g index
    obtain ⟨others, later, agrees'⟩ := ih (d.unobserved.move courses far g index)
    refine ⟨first ++ others, ?_, ?_⟩
    · rw [List.foldl_cons, later, here, List.append_assoc]
    · intro watch after accepts
      rw [told_append] at accepts
      obtain ⟨heard, accepted, rest⟩ := accepts.of_append
      rw [List.foldl_cons, List.foldl_cons, agrees accepted, agrees' rest]

theorem roundInterleaved_of_accepts {courses : Courses σ} {schedule : List Nat} {text : Text} {state : σ}
    {watch watch' after : ω}
    (accepts : d.Accepts
      (told (d.unobserved.roundInterleaved courses schedule text state watch').traces) watch after) :
    d.roundInterleaved courses schedule text state watch =
      { d.unobserved.roundInterleaved courses schedule text state watch' with watch := after } := by
  let markers := distinct (Document.markers text)
  let start : Interleaving σ ω τ := { tasks := markers.map .unbegun, state, watch := watch' }
  obtain ⟨first, here, agrees⟩ := d.moves_of_accepts courses Course.turn schedule start
  obtain ⟨others, later, agrees'⟩ := d.moves_of_accepts courses Course.whole
    (List.range markers.length) (schedule.foldl (d.unobserved.move courses Course.turn) start)
  have traces : (d.unobserved.roundInterleaved courses schedule text state watch').traces =
      first ++ others := later.trans (congrArg (· ++ others) here)
  rw [traces, told_append] at accepts
  obtain ⟨heard, accepted, rest⟩ := accepts.of_append
  have same : d.interleave courses schedule markers state watch =
      { d.unobserved.interleave courses schedule markers state watch' with watch := after } :=
    (congrArg (List.foldl (d.move courses Course.whole) · (List.range markers.length))
      (agrees accepted)).trans (agrees' rest)
  rw [roundInterleaved, same]
  rfl

omit [Quantity τ] in
theorem runBy_of_accepts {round plain : Nat → Text → σ → ω → Round σ ω τ}
    (agree : ∀ left text state watch watch' after,
      d.Accepts (told (plain left text state watch').traces) watch after →
        round left text state watch = { plain left text state watch' with watch := after })
    {limit : Nat} {text : Text} {state : σ} {watch watch' after : ω}
    (accepts : d.Accepts (told (runBy plain limit text state watch').traces) watch after) :
    runBy round limit text state watch =
      { runBy plain limit text state watch' with watch := after } := by
  induction limit generalizing text state watch watch' with
  | zero =>
    cases accepts
    rfl
  | succ left ih =>
    by_cases fixed : Document.markers text = []
    · rw [runBy_of_fixpoint plain fixed] at accepts
      cases accepts
      simp only [runBy_of_fixpoint _ fixed]
    · rw [runBy_succ plain fixed] at accepts
      simp only [told_append] at accepts
      obtain ⟨heard, first, later⟩ := accepts.of_append
      have here := agree left text state watch watch' heard first
      have applied : (round left text state watch).apply text =
          (plain left text state watch').apply text := by rw [here]; rfl
      rw [runBy_succ round fixed, runBy_succ plain fixed]
      simp only [applied]
      simp only [here, ih later]

-- A refusal takes the reply and the trace of a known marker. An unknown one has no reply to lose.
theorem resolveOne_of_refusesAll (refuses : d.RefusesAll) (marker : Marker) (state : σ)
    (watch : ω) :
    (d.resolveOne marker state watch).1.1 = marker.literal ∧
      ∀ trace ∈ (d.resolveOne marker state watch).1.2, trace.status = .unknown := by
  cases found : d.registry.find? marker.name with
  | none =>
    rw [resolveOne_of_unknown found]
    exact ⟨rfl, fun trace told => by cases told; rfl⟩
  | some spec =>
    rcases given : spec.handler (spec.splitMode.split marker.params) state with ⟨result, next⟩
    let begun : Begun τ := ⟨marker, spec.splitMode.split marker.params, d.clock state⟩
    have lost : (d.settle begun result next watch).1 = (marker.literal, none) := by
      obtain ⟨refusal, refused⟩ := refuses (conclude begun (d.clock next) result).2 watch
      rcases answer : d.notify (conclude begun (d.clock next) result).2 watch with ⟨_, after⟩
      rw [answer] at refused
      cases refused
      simp only [settle, report, answer]
      rfl
    rw [resolveOne_of_known found given]
    simp only [begun] at lost
    simp [lost]

theorem resolveAll_of_refusesAll (refuses : d.RefusesAll) (markers : List Marker) (state : σ)
    (watch : ω) :
    (∀ reply ∈ (d.resolveAll markers state watch).replies, reply.2 = reply.1.literal) ∧
      ∀ trace ∈ (d.resolveAll markers state watch).traces, trace.status = .unknown := by
  induction markers generalizing state watch with
  | nil => exact ⟨nofun, nofun⟩
  | cons marker rest ih =>
    obtain ⟨reply, trace⟩ := resolveOne_of_refusesAll refuses marker state watch
    obtain ⟨replies, traces⟩ := ih (d.resolveOne marker state watch).2.1
      (d.resolveOne marker state watch).2.2
    exact ⟨List.forall_mem_cons.2 ⟨reply, replies⟩,
      List.forall_mem_append.2 ⟨fun told member => trace told (Option.mem_toList.1 member), traces⟩⟩

theorem apply_round_of_refusesAll (refuses : d.RefusesAll) (text : Text) (state : σ) (watch : ω) :
    (d.round text state watch).apply text = text := by
  rw [Round.apply, Document.replace_eq_weave]
  conv => rhs; rw [← Document.weave_pieces text]
  refine Document.Pieces.weave_congr fun marker _ => ?_
  cases found : (d.round text state watch).replies.lookup marker with
  | none => rfl
  | some reply =>
    obtain ⟨before, after, split, -⟩ := List.lookup_eq_some_iff.1 found
    exact (resolveAll_of_refusesAll refuses _ state watch).1 (marker, reply)
      (split ▸ List.mem_append_right _ List.mem_cons_self)

theorem run_of_refusesAll (refuses : d.RefusesAll) (limit : Nat) (text : Text) (state : σ)
    (watch : ω) :
    let run := d.run limit text state watch
    run.text = text ∧ run.iterations = (if Document.markers text = [] then 0 else limit) ∧
      ∀ trace ∈ run.traces, trace.status = .unknown := by
  induction limit generalizing state watch with
  | zero => exact ⟨rfl, by simp [run], List.forall_mem_nil _⟩
  | succ left ih =>
    by_cases fixed : Document.markers text = []
    · rw [run_of_fixpoint d fixed, if_pos fixed]
      exact ⟨rfl, rfl, List.forall_mem_nil _⟩
    · rw [run_succ d fixed, if_neg fixed]
      obtain ⟨-, traces⟩ := resolveAll_of_refusesAll refuses
        (distinct (Document.markers text)) state watch
      obtain ⟨last, iterations, others⟩ := ih (d.round text state watch).state
        (d.round text state watch).watch
      rw [if_neg fixed] at iterations
      simp only [apply_round_of_refusesAll refuses text state watch]
      exact ⟨last, congrArg (· + 1) iterations, List.forall_mem_append.2 ⟨traces, others⟩⟩

/-- As long as the observer accepts the traces of a run, the run is the unobserved one, in whatever
order handlers take their turns. A refusal undoes the dispatch that it is told of: its marker stays as
it is and its trace is lost, though the handler has done its work. Where everything is refused, nothing
is resolved. -/
theorem passive_unless_refusing (d : Dispatcher σ ω τ) :
    (∀ limit document values state watch after,
      let plain := d.unobserved.resolve limit document values state watch
      d.Accepts (told plain.traces) watch after →
        d.resolve limit document values state watch = { plain with watch := after }) ∧
    (∀ courses schedules limit document values state watch after,
      let plain :=
        d.unobserved.resolveInterleaved courses schedules limit document values state watch
      d.Accepts (told plain.traces) watch after →
        d.resolveInterleaved courses schedules limit document values state watch =
          { plain with watch := after }) ∧
    (d.IsQuiet → ∀ traces watch, ∃ after, d.Accepts traces watch after) ∧
    (∀ marker state watch,
      let plain := d.unobserved.resolveOne marker state watch
      let heard := d.afterTelling marker plain.1 watch
      d.resolveOne marker state watch = (heard.1, plain.2.1, heard.2)) ∧
    (d.RefusesAll → ∀ limit document values state watch,
      let run := d.resolve limit document values state watch
      let text := Document.substitute document (values.map fun entry => (entry.1, entry.2.render))
      run.text = text ∧ run.iterations = (if Document.markers text = [] then 0 else limit) ∧
        (run.endState = .fixpoint ↔ Document.markers text = []) ∧
        ∀ trace ∈ run.traces, trace.status = .unknown) := by
  refine ⟨?_, ?_, accepts_of_quiet, fun marker state watch => resolveOne_eq marker state watch watch,
    ?_⟩
  · intro limit document values state watch after plain accepts
    simp only [plain, resolve, run_eq_runBy] at accepts ⊢
    refine runBy_of_accepts (fun _ text state watch watch' after accepts => ?_) accepts
    exact resolveAll_of_accepts accepts
  · intro courses schedules limit document values state watch after plain accepts
    refine runBy_of_accepts (fun left text state watch watch' after accepts => ?_) accepts
    exact roundInterleaved_of_accepts accepts
  · intro refuses limit document values state watch run text
    obtain ⟨same, iterations, traces⟩ := d.run_of_refusesAll refuses limit text state watch
    exact ⟨same, iterations, same ▸ (d.run_ends limit text state watch).fixpoint, traces⟩

def watched (observer : Option (Observer (List Text) Number)) :
    Dispatcher Nat (List Text) Number where
  registry :=
    ⟨[{ name := "ai_seen".toList
        description := []
        handler := fun _ calls => (.ok (.text "x".toList), calls + 1) }]⟩
  clock calls := .int calls
  observer

-- Notes what it is told, and accepts but one trace.
def shortOfPatience : Observer (List Text) Number := fun trace names =>
  (if names.isEmpty then .ok () else .error (.told .wrongKind), names ++ [trace.name])

def deaf : Observer (List Text) Number := fun _ names => (.error (.told .wrongKind), names)

-- The second document would need two traces to be accepted.
theorem passive_until_refusing :
    let d := watched (some shortOfPatience)
    let run := d.resolve 3 "{{ai_seen}}".toList [] 0 []
    let plain := d.unobserved.resolve 3 "{{ai_seen}}".toList [] 0 []
    let unheard := (watched (some deaf)).resolve 3 "{{ai_seen}}".toList [] 0 []
    d.Accepts (told plain.traces) [] ["ai_seen".toList] ∧
      run = { plain with watch := ["ai_seen".toList] } ∧ run.text = "x".toList ∧
      (watched (some deaf)).RefusesAll ∧ unheard.text = "{{ai_seen}}".toList := by
  intro d run plain unheard
  have accepts : d.Accepts (told plain.traces) [] ["ai_seen".toList] := .next rfl (.nothing _)
  have same := (passive_unless_refusing d).1 3 "{{ai_seen}}".toList [] 0 [] _ accepts
  have refuses : (watched (some deaf)).RefusesAll := fun _ _ => ⟨_, rfl⟩
  have unresolved := (passive_unless_refusing (watched (some deaf))).2.2.2.2 refuses 3
    "{{ai_seen}}".toList [] 0 []
  exact ⟨accepts, same, by decide +kernel, refuses, unresolved.1.trans (by decide +kernel)⟩

-- The handler is called, and answers, ten times.
theorem refusal_unresolves :
    let run := (watched (some deaf)).resolve 10 "{{ai_seen}}".toList [] 0 []
    let plain := (watched none).resolve 10 "{{ai_seen}}".toList [] 0 []
    (run.text, run.iterations, run.endState, run.traces.map MarkerTrace.status, run.state) =
        ("{{ai_seen}}".toList, 10, .capped, [], 10) ∧
      (plain.text, plain.iterations, plain.endState, plain.traces.map MarkerTrace.status,
        plain.state) = ("x".toList, 1, .fixpoint, [.ok], 1) := by
  decide +kernel

end DocMarkers.Dispatcher
