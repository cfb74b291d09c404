import DocMarkers.Proofs.Resolution.Interleaved

set_option autoImplicit false

namespace DocMarkers

variable {σ ω τ : Type}

def textsBy (round : Nat → Text → σ → ω → Round σ ω τ) : Nat → Text → σ → ω → List Text
  | 0, _, _, _ => []
  | left + 1, text, state, watch =>
    if (Document.markers text).isEmpty then []
    else
      let first := round left text state watch
      text :: textsBy round left (first.apply text) first.state first.watch

def Registry.Lacks (registry : Registry σ) (marker : Marker) : Prop :=
  registry.find? marker.name = none

def MarkerTrace.IsCut (trace : MarkerTrace τ) : Prop :=
  trace.status ≠ .unknown ∧ trace.outputPreview.length ≤ 320

def Task.hasBegun : Task σ τ → Bool
  | unbegun _ => false
  | _ => true

namespace Dispatcher

variable [Quantity τ]

/-- Cut previews, and each of the given markers that has no handler as a whole. -/
structure Previewed (registry : Registry σ) (markers : List Marker)
    (traces : List (MarkerTrace τ)) : Prop where
  told : ∀ trace ∈ traces,
    trace.IsCut ∨ ∃ marker ∈ markers, registry.Lacks marker ∧ trace = unknownTrace marker
  whole : ∀ marker ∈ markers, registry.Lacks marker → unknownTrace marker ∈ traces

namespace Previewed

variable {registry : Registry σ} {markers others : List Marker} {traces : List (MarkerTrace τ)}

theorem append (previewed : Previewed registry markers traces) {more : List (MarkerTrace τ)}
    (previewed' : Previewed registry others more) :
    Previewed registry (markers ++ others) (traces ++ more) where
  told trace member := by
    rcases List.mem_append.1 member with member | member
    · refine (previewed.told trace member).imp_right ?_
      rintro ⟨marker, given, unknown⟩
      exact ⟨marker, List.mem_append_left _ given, unknown⟩
    · refine (previewed'.told trace member).imp_right ?_
      rintro ⟨marker, given, unknown⟩
      exact ⟨marker, List.mem_append_right _ given, unknown⟩
  whole marker member lacking := by
    rcases List.mem_append.1 member with member | member
    · exact List.mem_append_left _ (previewed.whole marker member lacking)
    · exact List.mem_append_right _ (previewed'.whole marker member lacking)

theorem congr (previewed : Previewed registry markers traces)
    (same : ∀ marker, marker ∈ markers ↔ marker ∈ others) : Previewed registry others traces where
  told trace member := (previewed.told trace member).imp_right fun ⟨marker, given, unknown⟩ =>
    ⟨marker, (same marker).1 given, unknown⟩
  whole marker member := previewed.whole marker ((same marker).2 member)

theorem bounded_iff (previewed : Previewed registry markers traces) :
    (∀ trace ∈ traces, trace.outputPreview.length ≤ 320) ↔
      ∀ marker ∈ markers, registry.Lacks marker → marker.literal.length ≤ 320 := by
  constructor
  · intro bounded marker given lacking
    exact bounded _ (previewed.whole marker given lacking)
  · intro bounded trace member
    rcases previewed.told trace member with ⟨-, cut⟩ | ⟨marker, given, lacking, rfl⟩
    · exact cut
    · exact bounded marker given lacking

end Previewed

section RunBy

variable {registry : Registry σ} {round : Nat → Text → σ → ω → Round σ ω τ}

theorem runBy_previewed
    (previewed : ∀ left text state watch,
      Previewed registry (Document.markers text) (round left text state watch).traces)
    (limit : Nat) (text : Text) (state : σ) (watch : ω) :
    Previewed registry ((textsBy round limit text state watch).flatMap Document.markers)
      (runBy round limit text state watch).traces := by
  induction limit generalizing text state watch with
  | zero => exact ⟨nofun, nofun⟩
  | succ left ih =>
    by_cases fixed : Document.markers text = []
    · rw [runBy_of_fixpoint round fixed]
      simp only [textsBy, fixed, List.isEmpty_nil, if_true, List.flatMap_nil]
      exact ⟨nofun, nofun⟩
    · rw [runBy_succ round fixed]
      simp only [textsBy, List.isEmpty_iff, fixed, if_false, List.flatMap_cons]
      exact (previewed left text state watch).append (ih _ _ _)

end RunBy

variable {d : Dispatcher σ ω τ}

-- An observer that refuses takes the trace, but does not change it.
theorem isCut_of_settle {begun : Begun τ} {result : Except Raised Value} {state : σ} {watch : ω}
    {trace : MarkerTrace τ} (told : trace ∈ (d.settle begun result state watch).1.2) :
    trace.IsCut := by
  have cut : (conclude begun (d.clock state) result).2.IsCut := by
    cases result with
    | ok value => exact ⟨nofun, List.length_take_le _ _⟩
    | error failure => exact ⟨nofun, Nat.zero_le _⟩
  simp only [settle, report] at told
  rcases answer : d.notify (conclude begun (d.clock state) result).2 watch with ⟨_ | _, after⟩ <;>
    rw [answer] at told
  · contradiction
  · obtain rfl := Option.some.inj told
    exact cut

theorem resolveOne_previewed (marker : Marker) (state : σ) (watch : ω) :
    Previewed d.registry [marker] (d.resolveOne marker state watch).1.2.toList := by
  cases found : d.registry.find? marker.name with
  | none =>
    rw [resolveOne_of_unknown found]
    refine ⟨fun trace member => .inr ⟨marker, List.mem_singleton_self _, found, ?_⟩, ?_⟩
    · exact List.mem_singleton.1 member
    · intro other member lacking
      obtain rfl := List.mem_singleton.1 member
      exact List.mem_singleton_self _
  | some spec =>
    rcases given : spec.handler (spec.splitMode.split marker.params) state with ⟨result, next⟩
    rw [resolveOne_of_known found given]
    refine ⟨fun trace member => .inl (isCut_of_settle (Option.mem_toList.1 member)), ?_⟩
    intro other member lacking
    obtain rfl := List.mem_singleton.1 member
    simp [Registry.Lacks, found] at lacking

theorem resolveAll_previewed (markers : List Marker) (state : σ) (watch : ω) :
    Previewed d.registry markers (d.resolveAll markers state watch).traces := by
  induction markers generalizing state watch with
  | nil => exact ⟨nofun, nofun⟩
  | cons marker rest ih => exact (resolveOne_previewed marker state watch).append (ih _ _)

theorem round_previewed (d : Dispatcher σ ω τ) (text : Text) (state : σ) (watch : ω) :
    Previewed d.registry (Document.markers text) (d.round text state watch).traces :=
  (resolveAll_previewed _ state watch).congr fun _ => mem_distinct

section Interleaved

variable {courses : Courses σ} {far : Course σ → σ → Course σ × σ} {g : Interleaving σ ω τ}
  {index : Nat}

inductive Moved (d : Dispatcher σ ω τ) (g : Interleaving σ ω τ) (index : Nat) :
    Interleaving σ ω τ → Prop
  | turned {task : Task σ τ} {more : List (MarkerTrace τ)}
      (begun : task.hasBegun = true) (cut : ∀ trace ∈ more, trace.IsCut)
      (known : ∀ marker, g.tasks[index]? = some (.unbegun marker) → ¬ d.registry.Lacks marker)
      (faults : List Failure) (state : σ) (watch : ω) :
    Moved d g index
      { tasks := g.tasks.set index task, traces := g.traces ++ more, faults, state, watch }
  | unknown {marker : Marker} (here : g.tasks[index]? = some (.unbegun marker))
      (lacking : d.registry.Lacks marker) :
    Moved d g index
      { g with
        tasks := g.tasks.set index (.ended marker.literal)
        traces := g.traces ++ [unknownTrace marker] }

theorem Moved.silent {task : Task σ τ} (begun : task.hasBegun = true)
    (known : ∀ marker, g.tasks[index]? = some (.unbegun marker) → ¬ d.registry.Lacks marker)
    (state : σ) :
    Moved d g index { g with tasks := g.tasks.set index task, state } := by
  have moved : Moved d g index
      { g with tasks := g.tasks.set index task, traces := g.traces ++ [], state } :=
    .turned begun (List.forall_mem_nil _) known g.faults state g.watch
  rwa [List.append_nil] at moved

theorem moved_proceed
    (known : ∀ marker, g.tasks[index]? = some (.unbegun marker) → ¬ d.registry.Lacks marker)
    (begun : Begun τ) (course : Course σ) :
    Moved d g index (d.proceed far g index begun course) := by
  unfold proceed
  rcases far course g.state with ⟨result | ⟨goOn, change⟩, state⟩
  · refine .turned rfl (fun trace member => ?_) known _ _ _
    exact isCut_of_settle (Option.mem_toList.1 member)
  · exact .silent rfl known _

theorem moved (courses : Courses σ) (far : Course σ → σ → Course σ × σ) (g : Interleaving σ ω τ)
    (index : Nat) : Moved d g index (d.move courses far g index) := by
  have still {task : Task σ τ} (begun : task.hasBegun = true)
      (same : g.tasks.set index task = g.tasks)
      (known : ∀ marker, g.tasks[index]? = some (.unbegun marker) → ¬ d.registry.Lacks marker) :
      Moved d g index g := by
    have silent := Moved.silent begun known g.state
    rwa [same] at silent
  rcases here : g.tasks[index]? with _ | ⟨marker⟩ | ⟨begun, course⟩ | reply
  · simp only [move, here]
    have beyond := List.set_eq_of_length_le (a := Task.ended []) (List.getElem?_eq_none_iff.1 here)
    exact still rfl beyond (by simp [here])
  · cases found : d.registry.find? marker.name with
    | none =>
      simp only [move, here, found]
      exact .unknown here found
    | some spec =>
      simp only [move, here, found]
      refine moved_proceed (fun other present lacking => ?_) _ _
      obtain rfl : marker = other := by simpa [here] using present
      simp [Registry.Lacks, found] at lacking
  · simp only [move, here]
    exact moved_proceed (by simp [here]) _ _
  · simp only [move, here]
    obtain ⟨within, same⟩ := List.getElem?_eq_some_iff.1 here
    exact still rfl (same ▸ List.set_getElem_self within) (by simp [here])

-- Nobody begins twice.
theorem Moved.unbegun {next : Interleaving σ ω τ} (moved : Moved d g index next) {other : Nat}
    {marker : Marker} (left : next.tasks[other]? = some (.unbegun marker)) :
    g.tasks[other]? = some (.unbegun marker) ∧ other ≠ index := by
  have apart {task : Task σ τ} (begun : task.hasBegun = true)
      (left : (g.tasks.set index task)[other]? = some (.unbegun marker)) :
      g.tasks[other]? = some (.unbegun marker) ∧ other ≠ index := by
    rw [List.getElem?_set] at left
    split at left
    next =>
      split at left
      next =>
        rw [Option.some.inj left] at begun
        contradiction
      next => contradiction
    next apart => exact ⟨left, Ne.symm apart⟩
  cases moved with
  | turned begun => exact apart begun left
  | unknown => exact apart rfl left

structure IsTold (d : Dispatcher σ ω τ) (markers : List Marker) (g : Interleaving σ ω τ) :
    Prop where
  own : ∀ {index : Nat} {marker : Marker},
    g.tasks[index]? = some (.unbegun marker) → markers[index]? = some marker
  told : ∀ trace ∈ g.traces,
    trace.IsCut ∨ ∃ marker ∈ markers, d.registry.Lacks marker ∧ trace = unknownTrace marker
  whole : ∀ {index : Nat} {marker : Marker}, markers[index]? = some marker →
    d.registry.Lacks marker →
      g.tasks[index]? = some (.unbegun marker) ∨ unknownTrace marker ∈ g.traces

theorem IsTold.moved {markers : List Marker} {next : Interleaving σ ω τ}
    (isTold : d.IsTold markers g) (moved : Moved d g index next) : d.IsTold markers next := by
  have others {other : Nat} (task : Task σ τ) (apart : other ≠ index) :
      (g.tasks.set index task)[other]? = g.tasks[other]? := List.getElem?_set_ne (Ne.symm apart)
  refine ⟨fun left => isTold.own (moved.unbegun left).1, ?_, ?_⟩
  · intro trace member
    cases moved with
    | turned _ cut _ =>
      rcases List.mem_append.1 member with member | member
      · exact isTold.told trace member
      · exact .inl (cut trace member)
    | unknown here lacking =>
      rcases List.mem_append.1 member with member | member
      · exact isTold.told trace member
      · refine .inr ⟨_, List.mem_of_getElem? (isTold.own here), lacking, ?_⟩
        exact List.mem_singleton.1 member
  · intro other marker given lacking
    by_cases same : other = index
    · subst same
      cases moved with
      | turned _ _ known =>
        refine .inr (List.mem_append_left _ ?_)
        exact (isTold.whole given lacking).resolve_left fun here => known marker here lacking
      | unknown here _ =>
        obtain rfl := Option.some.inj ((isTold.own here).symm.trans given)
        exact .inr (List.mem_append_right _ (List.mem_singleton_self _))
    · refine (isTold.whole given lacking).imp (fun here => ?_) fun told => ?_
      · cases moved <;> exact (others _ same).trans here
      · cases moved <;> exact List.mem_append_left _ told

-- Whoever has had a turn has begun.
theorem IsTold.moves {markers : List Marker} (isTold : d.IsTold markers g) (courses : Courses σ)
    (far : Course σ → σ → Course σ × σ) (indices : List Nat) :
    let next := indices.foldl (d.move courses far) g
    d.IsTold markers next ∧ ∀ {other : Nat} {marker : Marker},
      next.tasks[other]? = some (.unbegun marker) →
        g.tasks[other]? = some (.unbegun marker) ∧ other ∉ indices := by
  induction indices generalizing g with
  | nil => exact ⟨isTold, fun left => ⟨left, List.not_mem_nil⟩⟩
  | cons index rest ih =>
    have here := Dispatcher.moved (d := d) courses far g index
    obtain ⟨last, unbegun⟩ := ih (isTold.moved here)
    refine ⟨last, fun left => ?_⟩
    obtain ⟨later, outside⟩ := unbegun left
    obtain ⟨earlier, apart⟩ := here.unbegun later
    exact ⟨earlier, List.not_mem_cons_of_ne_of_not_mem apart outside⟩

theorem roundInterleaved_previewed (d : Dispatcher σ ω τ) (courses : Courses σ)
    (schedule : List Nat) (text : Text) (state : σ) (watch : ω) :
    Previewed d.registry (Document.markers text)
      (d.roundInterleaved courses schedule text state watch).traces := by
  have start : d.IsTold (distinct (Document.markers text))
      { tasks := (distinct (Document.markers text)).map .unbegun, state, watch } := by
    refine ⟨fun {index marker} here => ?_, nofun, fun {index marker} given _ => .inl ?_⟩
    · simpa using here
    · simpa using given
  obtain ⟨early, -⟩ := start.moves courses Course.turn schedule
  obtain ⟨isTold, unbegun⟩ := early.moves courses Course.whole
    (List.range (distinct (Document.markers text)).length)
  refine Previewed.congr ⟨isTold.told, fun marker member lacking => ?_⟩ fun _ => mem_distinct
  obtain ⟨index, given⟩ := List.mem_iff_getElem?.1 member
  refine (isTold.whole given lacking).resolve_left fun left => ?_
  exact (unbegun left).2 (List.mem_range.2 (List.getElem?_eq_some_iff.1 given).1)

end Interleaved

def texts (d : Dispatcher σ ω τ) (limit : Nat) (document : Text) (values : List (Text × Value))
    (state : σ) (watch : ω) : List Text :=
  textsBy (fun _ => d.round) limit
    (Document.substitute document (values.map fun entry => (entry.1, entry.2.render))) state watch

def textsInterleaved (d : Dispatcher σ ω τ) (courses : Courses σ) (schedules : Nat → List Nat)
    (limit : Nat) (document : Text) (values : List (Text × Value)) (state : σ) (watch : ω) :
    List Text :=
  textsBy (fun left => d.roundInterleaved courses (schedules left)) limit
    (Document.substitute document (values.map fun entry => (entry.1, entry.2.render))) state watch

/-- A trace of a handler has at most 320 characters of its answer, whatever handlers, observers and
schedules do. A marker without a handler is told as a whole in each iteration that meets it, so the previews
of a run are bounded if and only if these markers happen to be. -/
theorem previews_cut_unless_unknown (d : Dispatcher σ ω τ) (limit : Nat) (document : Text)
    (values : List (Text × Value)) (state : σ) (watch : ω) :
    (let run := d.resolve limit document values state watch
      let met := (d.texts limit document values state watch).flatMap Document.markers
      Previewed d.registry met run.traces ∧
        ((∀ trace ∈ run.traces, trace.outputPreview.length ≤ 320) ↔
          ∀ marker ∈ met, d.registry.Lacks marker → marker.literal.length ≤ 320)) ∧
    ∀ (courses : Courses σ) (schedules : Nat → List Nat),
      let run := d.resolveInterleaved courses schedules limit document values state watch
      let met := (d.textsInterleaved courses schedules limit document values state watch).flatMap
        Document.markers
      Previewed d.registry met run.traces ∧
        ((∀ trace ∈ run.traces, trace.outputPreview.length ≤ 320) ↔
          ∀ marker ∈ met, d.registry.Lacks marker → marker.literal.length ≤ 320) := by
  constructor
  · have previewed := runBy_previewed (fun _ => d.round_previewed) limit
      (Document.substitute document (values.map fun entry => (entry.1, entry.2.render))) state watch
    rw [← run_eq_runBy] at previewed
    exact ⟨previewed, previewed.bounded_iff⟩
  · intro courses schedules
    have previewed := runBy_previewed
      (fun left => d.roundInterleaved_previewed courses (schedules left)) limit
      (Document.substitute document (values.map fun entry => (entry.1, entry.2.render))) state watch
    exact ⟨previewed, previewed.bounded_iff⟩

def speechless : Dispatcher Unit Unit Number where
  registry := .empty
  clock _ := .int 0
  observer := none

theorem unknown_told_as_whole :
    let marker : Marker := ⟨"ai_bogus".toList, some (List.replicate 320 'x')⟩
    let run := speechless.resolve 1 marker.literal [] () ()
    run.traces.map (fun trace => (trace.status, trace.outputPreview)) =
        [(.unknown, marker.literal)] ∧
      marker.literal.length = 333 := by
  decide +kernel

end Dispatcher

end DocMarkers
