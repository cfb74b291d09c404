import DocMarkers.Number
import DocMarkers.Proofs.Resolution.Escapes
import DocMarkers.Proofs.Resolution.Interleaved
import Mathlib.Logic.Function.Basic

set_option autoImplicit false

namespace DocMarkers

namespace Dispatcher

variable {σ ω τ : Type} [Quantity τ] {d : Dispatcher σ ω τ}

section Interleaved

variable {courses : Courses σ} {far : Course σ → σ → Course σ × σ} {g : Interleaving σ ω τ}
  {index : Nat}

/-- What the dispatch of a marker may come to, if its handler goes on in the right states. -/
def MayCome (d : Dispatcher σ ω τ) (courses : Courses σ) (marker : Marker) (outcome : Option Text) :
    Prop :=
  match d.registry.find? marker.name with
  | none => outcome = none
  | some spec => ∃ result, (courses spec (spec.splitMode.split marker.params)).MayEnd result ∧
      (result.map Value.render).toOption = outcome

inductive IsAt (d : Dispatcher σ ω τ) (courses : Courses σ) (marker : Marker) :
    Option Text → Task σ τ → Prop
  | unbegun : IsAt d courses marker none (.unbegun marker)
  | underWay {begun : Begun τ} {course : Course σ} {spec : MarkerSpec σ}
      (same : begun.marker = marker) (found : d.registry.find? marker.name = some spec)
      (own : ∀ {result}, course.MayEnd result →
        (courses spec (spec.splitMode.split marker.params)).MayEnd result) :
    IsAt d courses marker none (.underWay begun course)
  | ended {outcome : Option Text} (comes : d.MayCome courses marker outcome) :
    IsAt d courses marker outcome (.ended (outcome.getD marker.literal))

structure HasCome (d : Dispatcher σ ω τ) (courses : Courses σ) (markers : List Marker)
    (outcome : Nat → Option Text) (g : Interleaving σ ω τ) : Prop where
  length : g.tasks.length = markers.length
  beyond : ∀ {index : Nat}, markers[index]? = none → outcome index = none
  isAt : ∀ {index : Nat} {marker task}, markers[index]? = some marker →
    g.tasks[index]? = some task → d.IsAt courses marker (outcome index) task
  succeeded : (∃ trace ∈ g.traces, trace.status = .ok) ↔ ∃ index, (outcome index).isSome

theorem reply_conclude (begun : Begun τ) (stop : τ) (result : Except Raised Value) :
    (conclude begun stop result).1 =
      (result.map Value.render).toOption.getD begun.marker.literal := by
  cases result <;> rfl

theorem succeeded_conclude (begun : Begun τ) (stop : τ) (result : Except Raised Value) :
    (conclude begun stop result).2.status = .ok ↔ (result.map Value.render).toOption.isSome := by
  cases result <;> simp [conclude, Except.map, Except.toOption]

namespace HasCome

variable {markers : List Marker} {outcome : Nat → Option Text} {marker : Marker}

omit [Quantity τ] in
theorem set (come : d.HasCome courses markers outcome g) (here : markers[index]? = some marker)
    (unended : outcome index = none) {task : Task σ τ} {now : Option Text}
    (isAt : d.IsAt courses marker now task) {more : List (MarkerTrace τ)}
    (succeeded : (∃ trace ∈ more, trace.status = .ok) ↔ now.isSome) (faults : List Failure)
    (state : σ) (watch : ω) :
    d.HasCome courses markers (Function.update outcome index now)
      { tasks := g.tasks.set index task, traces := g.traces ++ more, faults, state, watch } where
  length := by simpa using come.length
  beyond {other} none := by
    have apart : other ≠ index := by
      rintro rfl
      simp [here] at none
    rw [Function.update_of_ne apart]
    exact come.beyond none
  isAt {other marker' task'} there present := by
    by_cases same : index = other
    · subst same
      obtain rfl := Option.some.inj (here.symm.trans there)
      have within : index < g.tasks.length :=
        come.length ▸ (List.getElem?_eq_some_iff.1 here).1
      obtain rfl : task = task' := by simpa [List.getElem?_set_self within] using present
      rwa [Function.update_self]
    · rw [List.getElem?_set_ne same] at present
      rw [Function.update_of_ne (Ne.symm same)]
      exact come.isAt there present
  succeeded := by
    simp only [List.mem_append, or_and_right, exists_or, come.succeeded, succeeded]
    constructor
    · rintro (⟨other, some⟩ | some)
      · have apart : other ≠ index := by
          rintro rfl
          simp [unended] at some
        exact ⟨other, by rwa [Function.update_of_ne apart]⟩
      · exact ⟨index, by rwa [Function.update_self]⟩
    · rintro ⟨other, some⟩
      by_cases same : other = index
      · subst same
        exact .inr (by rwa [Function.update_self] at some)
      · exact .inl ⟨other, by rwa [Function.update_of_ne same] at some⟩

theorem proceed (quiet : d.IsQuiet) (come : d.HasCome courses markers outcome g)
    (narrows : Course.Narrows far) (here : markers[index]? = some marker)
    (unended : outcome index = none) {begun : Begun τ} {course : Course σ} {spec : MarkerSpec σ}
    (same : begun.marker = marker) (found : d.registry.find? marker.name = some spec)
    (own : ∀ {result}, course.MayEnd result →
      (courses spec (spec.splitMode.split marker.params)).MayEnd result) :
    ∃ outcome, d.HasCome courses markers outcome (d.proceed far g index begun course) := by
  subst same
  have turned : Proceeded d g index begun course (d.proceed far g index begun course) :=
    proceeded narrows index begun course
  generalize d.proceed far g index begun course = next at turned
  cases turned with
  | ended mayEnd state =>
    have comes {result} (mayEnd : course.MayEnd result) :
        d.MayCome courses begun.marker (result.map Value.render).toOption := by
      simp only [MayCome, found]
      exact ⟨result, own mayEnd, rfl⟩
    simp only [settle_of_quiet quiet, reply_conclude]
    refine ⟨_, come.set here unended (.ended (comes mayEnd)) ?_ _ _ _⟩
    simpa using succeeded_conclude begun (d.clock state) _
  | waits narrowed state =>
    have silent : (∃ trace ∈ ([] : List (MarkerTrace τ)), trace.status = .ok) ↔
        (none : Option Text).isSome := by simp
    have set := come.set here unended (.underWay rfl found fun mayEnd => own (narrowed mayEnd))
      silent g.faults state g.watch
    rw [List.append_nil] at set
    exact ⟨_, set⟩

theorem move (quiet : d.IsQuiet) (come : d.HasCome courses markers outcome g)
    (narrows : Course.Narrows far) (index : Nat) :
    ∃ outcome, d.HasCome courses markers outcome (d.move courses far g index) := by
  cases here : g.tasks[index]? with
  | none => exact ⟨outcome, by simpa only [Dispatcher.move, here] using come⟩
  | some task =>
    obtain ⟨marker, given⟩ : ∃ marker, markers[index]? = some marker := by
      have within := (List.getElem?_eq_some_iff.1 here).1
      rw [come.length] at within
      exact ⟨_, List.getElem?_eq_getElem within⟩
    have isAt := come.isAt given here
    generalize now : outcome index = reached at isAt
    simp only [Dispatcher.move, here]
    cases isAt with
    | unbegun =>
      cases found : d.registry.find? marker.name with
      | none =>
        have comes : d.MayCome courses marker none := by simp [MayCome, found]
        have told : (∃ trace ∈ [(unknownTrace marker : MarkerTrace τ)], trace.status = .ok) ↔
            (none : Option Text).isSome := by simp [unknownTrace]
        simp only [found]
        exact ⟨_, come.set given now (.ended comes) told g.faults g.state g.watch⟩
      | some spec =>
        simp only [found]
        exact come.proceed quiet narrows given now rfl found fun mayEnd => mayEnd
    | underWay same found own => exact come.proceed quiet narrows given now same found own
    | ended => exact ⟨outcome, come⟩

end HasCome

theorem tasks_proceed_of_ne {other : Nat} (apart : index ≠ other) (begun : Begun τ)
    (course : Course σ) :
    (d.proceed far g index begun course).tasks[other]? = g.tasks[other]? := by
  unfold proceed
  split <;> exact List.getElem?_set_ne apart

theorem tasks_move_of_ne {other : Nat} (apart : index ≠ other) :
    (d.move courses far g index).tasks[other]? = g.tasks[other]? := by
  unfold move
  split
  next =>
    split
    next => exact List.getElem?_set_ne apart
    next => exact tasks_proceed_of_ne apart _ _
  next => exact tasks_proceed_of_ne apart _ _
  next => rfl

theorem isOver_move {other : Nat} (isOver : IsOver g other) (index : Nat) :
    IsOver (d.move courses far g index) other := by
  by_cases same : index = other
  · subst same
    obtain ⟨reply, here⟩ := isOver
    simpa only [move, here] using ⟨reply, here⟩
  · rwa [IsOver, tasks_move_of_ne same]

theorem isOver_proceed (ends : Course.Ends far) (within : index < g.tasks.length) (begun : Begun τ)
    (course : Course σ) : IsOver (d.proceed far g index begun course) index := by
  obtain ⟨result, ended⟩ := ends course g.state
  unfold proceed
  rcases went : far course g.state with ⟨reached, state⟩
  rw [went] at ended
  subst ended
  exact ⟨_, List.getElem?_set_self within⟩

theorem isOver_move_self (ends : Course.Ends far) (within : index < g.tasks.length) :
    IsOver (d.move courses far g index) index := by
  unfold move
  split
  next =>
    split
    next => exact ⟨_, List.getElem?_set_self within⟩
    next => exact isOver_proceed ends within _ _
  next => exact isOver_proceed ends within _ _
  next unbegun underWay =>
    rcases here : g.tasks[index]? with _ | ⟨marker⟩ | ⟨begun, course⟩ | reply
    · rw [List.getElem?_eq_none_iff] at here
      omega
    · exact absurd here (unbegun marker)
    · exact absurd here (underWay begun course)
    · exact ⟨reply, here⟩

theorem HasCome.moves {markers : List Marker} {outcome : Nat → Option Text} (quiet : d.IsQuiet)
    (come : d.HasCome courses markers outcome g) (narrows : Course.Narrows far)
    (indices : List Nat) :
    let last := indices.foldl (d.move courses far) g
    (∃ outcome, d.HasCome courses markers outcome last) ∧
      (∀ other, IsOver g other → IsOver last other) ∧
      (Course.Ends far → ∀ index ∈ indices, index < markers.length → IsOver last index) := by
  induction indices generalizing outcome g with
  | nil => exact ⟨⟨outcome, come⟩, fun _ isOver => isOver, fun _ => nofun⟩
  | cons index rest ih =>
    obtain ⟨next, moved⟩ := come.move quiet narrows index
    obtain ⟨last, remain, others⟩ := ih moved
    refine ⟨last, fun other isOver => remain other (isOver_move isOver index),
      fun ends other member => ?_⟩
    rcases List.mem_cons.1 member with rfl | member
    · exact fun within => remain _ (isOver_move_self ends (come.length ▸ within))
    · exact others ends other member

theorem interleave_contained (quiet : d.IsQuiet) (courses : Courses σ) (schedule : List Nat)
    (markers : List Marker) (state : σ) (watch : ω) :
    let g := d.interleave courses schedule markers state watch
    g.tasks.length = markers.length ∧ ∃ outcome : Nat → Option Text,
      (∀ {index : Nat} {marker}, markers[index]? = some marker →
        d.MayCome courses marker (outcome index) ∧
          (g.tasks.map Task.reply)[index]? = some ((outcome index).getD marker.literal)) ∧
      ((∃ trace ∈ g.traces, trace.status = .ok) ↔
        ∃ index, ∃ marker, markers[index]? = some marker ∧ (outcome index).isSome) := by
  have start : d.HasCome courses markers (fun _ => none)
      { tasks := markers.map .unbegun, state, watch : Interleaving σ ω τ } := by
    refine ⟨by simp, fun _ => rfl, fun {index marker task} here present => ?_, by simp⟩
    obtain rfl : Task.unbegun marker = task := by simpa [here] using present
    exact .unbegun
  obtain ⟨⟨_, early⟩, -⟩ := start.moves quiet Course.narrows_turn schedule
  obtain ⟨⟨outcome, come⟩, -, isOver⟩ := early.moves quiet Course.narrows_whole
    (List.range markers.length)
  refine ⟨come.length, outcome, fun {index marker} here => ?_, come.succeeded.trans ?_⟩
  · have within := (List.getElem?_eq_some_iff.1 here).1
    obtain ⟨reply, ended⟩ := isOver Course.ends_whole index (List.mem_range.2 within) within
    have isAt := come.isAt here ended
    generalize outcome index = reached at isAt
    cases isAt with
    | ended comes =>
      refine ⟨comes, ?_⟩
      rw [interleave, List.getElem?_map, ended]
      rfl
  · refine exists_congr fun index => ⟨fun reached => ?_, ?_⟩
    · cases given : markers[index]? with
      | none => simp [come.beyond given] at reached
      | some marker => exact ⟨marker, rfl, reached⟩
    · rintro ⟨-, -, reached⟩
      exact reached

section Numbered

variable {markers : List Marker}

theorem idxOf_of_getElem? (nodup : markers.Nodup) {index : Nat} {marker : Marker}
    (here : markers[index]? = some marker) : markers.idxOf marker = index := by
  obtain ⟨within, rfl⟩ := List.getElem?_eq_some_iff.1 here
  exact nodup.idxOf_getElem index within

theorem zip_of_outcomes (nodup : markers.Nodup) {replies : List Text}
    (length : replies.length = markers.length) {outcome : Nat → Option Text}
    (each : ∀ {index marker}, markers[index]? = some marker →
      replies[index]? = some ((outcome index).getD marker.literal)) :
    markers.zip replies =
      markers.map fun marker => (marker, (outcome (markers.idxOf marker)).getD marker.literal) := by
  rw [List.map_prod_left_eq_zip]
  refine congrArg markers.zip (List.ext_getElem? fun index => ?_)
  cases here : markers[index]? with
  | none =>
    have beyond := here
    rw [List.getElem?_eq_none_iff, ← length, ← List.getElem?_eq_none_iff] at beyond
    rw [beyond, List.getElem?_map, here]
    rfl
  | some marker =>
    rw [each here, List.getElem?_map, here, Option.map_some, idxOf_of_getElem? nodup here]

theorem exists_index_iff (nodup : markers.Nodup) {outcome : Nat → Option Text} :
    (∃ index, ∃ marker, markers[index]? = some marker ∧ (outcome index).isSome) ↔
      ∃ marker ∈ markers, (outcome (markers.idxOf marker)).isSome := by
  constructor
  · rintro ⟨index, marker, here, reached⟩
    exact ⟨marker, List.mem_of_getElem? here, by rwa [idxOf_of_getElem? nodup here]⟩
  · rintro ⟨marker, member, reached⟩
    obtain ⟨index, here⟩ := List.mem_iff_getElem?.1 member
    exact ⟨index, marker, here, by rwa [idxOf_of_getElem? nodup here] at reached⟩

end Numbered

theorem roundInterleaved_contained (quiet : d.IsQuiet) (courses : Courses σ)
    (schedule : List Nat) (text : Text) (state : σ) (watch : ω) :
    let markers := distinct (Document.markers text)
    let round := d.roundInterleaved courses schedule text state watch
    round.replies.map Prod.fst = markers ∧ ∃ outcome : Marker → Option Text,
      (∀ marker ∈ markers, d.MayCome courses marker (outcome marker)) ∧
      ((∃ trace ∈ round.traces, trace.status = .ok) ↔
        ∃ marker ∈ markers, (outcome marker).isSome) ∧
      round.apply text =
        (Document.pieces text).weave fun marker => (outcome marker).getD marker.literal := by
  intro markers round
  have nodup : markers.Nodup := nodup_distinct _
  obtain ⟨length, outcome, each, succeeded⟩ :=
    interleave_contained quiet courses schedule markers state watch
  have replies : round.replies =
      markers.map fun marker => (marker, (outcome (markers.idxOf marker)).getD marker.literal) :=
    zip_of_outcomes nodup (by rw [List.length_map, length]) fun here => (each here).2
  refine ⟨by simp [replies, Function.comp_def], fun marker => outcome (markers.idxOf marker),
    fun marker member => ?_, succeeded.trans (exists_index_iff nodup),
    Round.apply_eq_weave fun marker member => ?_⟩
  · obtain ⟨index, here⟩ := List.mem_iff_getElem?.1 member
    simp only [idxOf_of_getElem? nodup here]
    exact (each here).1
  · rw [replies]
    exact List.lookup_graph _ (mem_distinct.2 member)

end Interleaved

theorem apply_round_of_failed (quiet : d.IsQuiet) {text : Text} {state : σ} {watch : ω}
    (failed : ∀ trace ∈ (d.round text state watch).traces, trace.status ≠ .ok) :
    (d.round text state watch).apply text = text := by
  rw [apply_round quiet]
  have succeeded := succeeded_resolveAll quiet (nodup_distinct (Document.markers text)) state watch
  exact Document.weave_of_failed succeeded failed

theorem apply_roundInterleaved_of_failed (quiet : d.IsQuiet) {courses : Courses σ}
    {schedule : List Nat} {text : Text} {state : σ} {watch : ω}
    (failed : ∀ trace ∈ (d.roundInterleaved courses schedule text state watch).traces,
      trace.status ≠ .ok) :
    (d.roundInterleaved courses schedule text state watch).apply text = text := by
  obtain ⟨-, outcome, -, succeeded, applied⟩ :=
    roundInterleaved_contained quiet courses schedule text state watch
  rw [applied]
  exact Document.weave_of_failed succeeded failed

/-- A failure stays with the marker that failed: an iteration writes each reply in the place of its
marker and nothing else, and where no dispatch succeeds nothing changes at all. -/
theorem failures_contained (quiet : d.IsQuiet) :
    (∀ (text : Text) (state : σ) (watch : ω),
      let markers := distinct (Document.markers text)
      let pieces := Document.pieces text
      let round := d.round text state watch
      (pieces.weave Marker.literal = text ∧ pieces.markers = Document.markers text ∧
        ∀ gap ∈ pieces.gaps, Document.markers gap = []) ∧
      (∀ first ∈ markers, ∀ second ∈ markers, first.literal = second.literal → first = second) ∧
      (round.replies.map Prod.fst = markers ∧ markers.Nodup) ∧
      ((∃ trace ∈ round.traces, trace.status = .ok) ↔
        ∃ marker ∈ markers, (d.outcomeIn? markers state watch marker).isSome) ∧
      round.apply text = pieces.weave fun marker =>
        (d.outcomeIn? markers state watch marker).getD marker.literal) ∧
    (∀ (limit : Nat) (document : Text) (values : List (Text × Value)) (state : σ) (watch : ω),
      let run := d.resolve limit document values state watch
      (∀ trace ∈ run.traces, trace.status ≠ .ok) →
        run.text =
          Document.substitute document (values.map fun entry => (entry.1, entry.2.render))) ∧
    ∀ courses : Courses σ,
      (∀ (schedule : List Nat) (text : Text) (state : σ) (watch : ω),
        let markers := distinct (Document.markers text)
        let round := d.roundInterleaved courses schedule text state watch
        round.replies.map Prod.fst = markers ∧ ∃ outcome : Marker → Option Text,
          (∀ marker ∈ markers, d.MayCome courses marker (outcome marker)) ∧
          ((∃ trace ∈ round.traces, trace.status = .ok) ↔
            ∃ marker ∈ markers, (outcome marker).isSome) ∧
          round.apply text =
            (Document.pieces text).weave fun marker => (outcome marker).getD marker.literal) ∧
      ∀ (schedules : Nat → List Nat) (limit : Nat) (document : Text)
        (values : List (Text × Value)) (state : σ) (watch : ω),
        let run := d.resolveInterleaved courses schedules limit document values state watch
        (∀ trace ∈ run.traces, trace.status ≠ .ok) →
          run.text =
            Document.substitute document (values.map fun entry => (entry.1, entry.2.render)) := by
  refine ⟨?_, ?_, fun courses => ⟨fun schedule text state watch =>
    roundInterleaved_contained quiet courses schedule text state watch, ?_⟩⟩
  · intro text state watch
    refine ⟨⟨Document.weave_pieces text, Document.markers_pieces text, fun gap =>
      Document.markers_gap⟩, ?_, ⟨d.keys_resolveAll _ state watch, nodup_distinct _⟩,
      succeeded_resolveAll quiet (nodup_distinct _) state watch, apply_round quiet text state watch⟩
    intro first member second member' same
    exact Marker.literal_injective (Document.valid_of_mem_markers (mem_distinct.1 member))
      (Document.valid_of_mem_markers (mem_distinct.1 member')) same
  · intro limit document values state watch run failed
    simp only [run, resolve, run_eq_runBy] at failed ⊢
    exact runBy_text_of_failed (fun failed => apply_round_of_failed quiet failed) failed
  · intro schedules limit document values state watch run failed
    exact runBy_text_of_failed (fun failed => apply_roundInterleaved_of_failed quiet failed) failed

-- Answers `ai_a` with the literal of another marker and fails on `ai_b`.
def colliding : Dispatcher Nat Unit Number where
  registry :=
    ⟨[{ name := "ai_a".toList
        description := []
        handler := fun _ calls => (.ok (.text "\x7b\x7bai_b:2\x7d\x7d".toList), calls + 1) },
      { name := "ai_b".toList
        description := []
        handler := fun _ calls => (.error (.told .wrongKind), calls + 1) }]⟩
  clock calls := .int calls
  observer := none

-- An unclosed marker around another one, behind a marker whose text that one brings.
def collision : Text :=
  "\x7b\x7bai_b:2\x7d\x7d, \x7b\x7bai_c:\x7b\x7bai_a\x7d\x7d\x7d".toList

theorem failures_contained_collision :
    colliding.IsQuiet ∧
      (colliding.round collision 0 ()).apply collision =
        "\x7b\x7bai_b:2\x7d\x7d, \x7b\x7bai_c:\x7b\x7bai_b:2\x7d\x7d\x7d".toList ∧
      (∀ trace ∈ (colliding.resolve 3 "\x7b\x7bai_b:2\x7d\x7d".toList [] 0 ()).traces,
        trace.status ≠ .ok) ∧
      (colliding.resolve 3 "\x7b\x7bai_b:2\x7d\x7d".toList [] 0 ()).text =
        "\x7b\x7bai_b:2\x7d\x7d".toList := by
  have quiet : colliding.IsQuiet := fun _ _ => rfl
  have failing : ∀ trace ∈
      (colliding.resolve 3 "\x7b\x7bai_b:2\x7d\x7d".toList [] 0 ()).traces,
      trace.status ≠ .ok := by decide
  have contained := failures_contained quiet
  exact ⟨quiet, (contained.1 collision 0 ()).2.2.2.2.trans (by decide), failing,
    contained.2.1 3 _ [] 0 () failing⟩

end Dispatcher

end DocMarkers
