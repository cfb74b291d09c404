import DocMarkers.Proofs.Resolution.Reports

set_option autoImplicit false

namespace DocMarkers

theorem Marker.two_le_count_literal (marker : Marker) : 2 ≤ marker.literal.count '{' := by
  obtain ⟨behind, opens⟩ := marker.literal_opening
  simp [opens]

namespace Document

theorem count_replace (reply? : Marker → Option Text) (text : Text)
    (unopened : ∀ marker ∈ markers text, '{' ∉ (reply? marker).getD marker.literal) :
    (replace reply? text).count '{' + 2 * (markers text).length ≤ text.count '{' := by
  induction text using reading with
  | nil => exact Nat.le_refl _
  | plain c rest lacking ih =>
    simp only [markers, replace, tokens_cons lacking, List.filterMap_cons, Token.marker?,
      List.flatMap_cons, List.singleton_append, List.count_cons] at unopened ih ⊢
    have fewer := ih unopened
    omega
  | marker m rest valid ih =>
    simp only [markers, replace, tokens_literal valid, List.filterMap_cons, Token.marker?,
      List.flatMap_cons, List.count_append, List.length_cons, List.forall_mem_cons] at unopened ih ⊢
    have fewer := ih unopened.2
    have taken := m.two_le_count_literal
    have brought := List.count_eq_zero.2 unopened.1
    omega

theorem two_le_count {text : Text} (some : markers text ≠ []) : 2 ≤ text.count '{' := by
  have taken := count_replace (fun _ => Option.some []) text (by simp)
  have present : 0 < (markers text).length := List.length_pos_iff.2 some
  omega

end Document

variable {σ ω τ : Type}

def Round.IsUnopened (round : Round σ ω τ) : Prop := ∀ entry ∈ round.replies, '{' ∉ entry.2

theorem Round.count_apply {round : Round σ ω τ} (unopened : round.IsUnopened) {text : Text}
    (covers : Document.markers text ⊆ round.replies.map Prod.fst) :
    (round.apply text).count '{' + 2 * (Document.markers text).length ≤ text.count '{' := by
  apply Document.count_replace
  intro marker member
  obtain ⟨entry, entered, rfl⟩ := List.mem_map.1 (covers member)
  cases found : round.replies.lookup entry.1 with
  | none => exact absurd (List.lookup_eq_none_iff.1 found _ entered) (by simp)
  | some reply =>
    obtain ⟨before, after, split, -⟩ := List.lookup_eq_some_iff.1 found
    exact unopened (entry.1, reply) (split ▸ List.mem_append_right _ List.mem_cons_self)

def Run.NeedsAtMost (run : Run σ ω τ) (bound limit : Nat) : Prop :=
  run.iterations ≤ bound ∧ (bound ≤ limit → run.endState = .fixpoint)

section RunBy

variable {round : Nat → Text → σ → ω → Round σ ω τ}

-- A run stops where no marker is left, so each of its iterations takes one away.
theorem runBy_openings
    (covers : ∀ left text state watch,
      Document.markers text ⊆ (round left text state watch).replies.map Prod.fst)
    {limit : Nat} {text : Text} {state : σ} {watch : ω}
    (unopened : ∀ each ∈ roundsBy round limit text state watch, each.IsUnopened) :
    let run := runBy round limit text state watch
    run.text.count '{' + 2 * run.iterations ≤ text.count '{' := by
  induction limit generalizing text state watch with
  | zero => exact Nat.le_refl _
  | succ left ih =>
    by_cases fixed : Document.markers text = []
    · simp [runBy_of_fixpoint round fixed]
    · rw [roundsBy_succ round fixed] at unopened
      obtain ⟨first, rest⟩ := List.forall_mem_cons.1 unopened
      have later := ih rest
      have here := Round.count_apply first (covers left text state watch)
      have some : 0 < (Document.markers text).length := List.length_pos_iff.2 fixed
      rw [runBy_succ round fixed]
      dsimp only
      omega

theorem runBy_exhausted
    (covers : ∀ left text state watch,
      Document.markers text ⊆ (round left text state watch).replies.map Prod.fst)
    {limit : Nat} {text : Text} {state : σ} {watch : ω}
    (unopened : ∀ each ∈ roundsBy round limit text state watch, each.IsUnopened) :
    (runBy round limit text state watch).NeedsAtMost (text.count '{' / 2) limit := by
  have used := runBy_openings covers unopened
  have ending := (runBy_ends round limit text state watch).cases
  dsimp only at used ending
  refine ⟨by omega, fun enough => ?_⟩
  rcases ending with ⟨fixpoint, -⟩ | ⟨-, left, capped⟩
  · exact fixpoint
  · have unused := Document.two_le_count left
    omega

end RunBy

section Calls

def HandlerCall.IsUnopened (call : HandlerCall) : Prop :=
  ∃ value, call.result = .ok value ∧ '{' ∉ value.render

variable {registry : Registry σ}

theorem Round.Reported.isUnopened {calls : List HandlerCall} {round : Round σ ω τ}
    {noted : Round (σ × List HandlerCall) ω τ} {reports : List (Report τ)}
    (reported : Round.Reported registry calls round noted reports)
    (known : ∀ trace ∈ round.traces, trace.status ≠ .unknown)
    (unopened : ∀ call ∈ reports.filterMap Report.call, call.IsUnopened) : round.IsUnopened := by
  intro entry member
  rw [reported.replies] at member
  obtain ⟨report, here, rfl⟩ := List.mem_map.1 member
  have traced : report.trace ∈ round.traces := reported.traces ▸ List.mem_map_of_mem here
  have called (call : HandlerCall) (given : report.call = some call) : call.IsUnopened :=
    unopened call (List.mem_filterMap.2 ⟨report, here, given⟩)
  cases reported.tells report here with
  | unknown => exact absurd rfl (known _ traced)
  | failed found failure =>
    obtain ⟨value, answered, -⟩ := called _ rfl
    contradiction
  | succeeded found value =>
    obtain ⟨other, answered, unopened⟩ := called _ rfl
    cases answered
    exact unopened

theorem roundsBy_unopened {round : Nat → Text → σ → ω → Round σ ω τ}
    {noted : Nat → Text → σ × List HandlerCall → ω → Round (σ × List HandlerCall) ω τ}
    (reported : ∀ left text state calls watch, ∃ reports : List (Report τ),
      Round.Reported registry calls (round left text state watch)
        (noted left text (state, calls) watch) reports)
    (limit : Nat) (text : Text) (state : σ) (calls : List HandlerCall) (watch : ω) :
    ∃ more, (runBy noted limit text (state, calls) watch).state.2 = calls ++ more ∧
      ((∀ trace ∈ (runBy round limit text state watch).traces, trace.status ≠ .unknown) →
        (∀ call ∈ more, call.IsUnopened) →
          ∀ each ∈ roundsBy round limit text state watch, each.IsUnopened) := by
  induction limit generalizing text state calls watch with
  | zero => exact ⟨[], by simp [runBy], by simp [roundsBy]⟩
  | succ left ih =>
    by_cases fixed : Document.markers text = []
    · rw [runBy_of_fixpoint noted fixed, roundsBy_of_fixpoint round fixed]
      exact ⟨[], by simp, by simp⟩
    · obtain ⟨reports, here⟩ := reported left text state calls watch
      have applied : (noted left text (state, calls) watch).apply text =
          (round left text state watch).apply text := by rw [here.noted]; rfl
      rw [runBy_succ noted fixed, runBy_succ round fixed, roundsBy_succ round fixed]
      simp only [applied]
      rw [here.noted]
      obtain ⟨more, later, unopened⟩ := ih ((round left text state watch).apply text)
        (round left text state watch).state (calls ++ reports.filterMap Report.call)
        (round left text state watch).watch
      refine ⟨reports.filterMap Report.call ++ more, by simp [later], fun known called => ?_⟩
      obtain ⟨known, known'⟩ := List.forall_mem_append.1 known
      obtain ⟨called, called'⟩ := List.forall_mem_append.1 called
      exact List.forall_mem_cons.2 ⟨here.isUnopened known called, unopened known' called'⟩

end Calls

namespace Dispatcher

variable [Quantity τ] (d : Dispatcher σ ω τ)

theorem length_tasks_move (courses : Courses σ) (far : Course σ → σ → Course σ × σ)
    (g : Interleaving σ ω τ) (index : Nat) :
    (d.move courses far g index).tasks.length = g.tasks.length := by
  have proceeds (begun : Begun τ) (course : Course σ) :
      (d.proceed far g index begun course).tasks.length = g.tasks.length := by
    unfold proceed
    split <;> simp
  unfold move
  split
  · split
    · simp
    · exact proceeds _ _
  · exact proceeds _ _
  · rfl

theorem length_tasks_moves (courses : Courses σ) (far : Course σ → σ → Course σ × σ)
    (indices : List Nat) (g : Interleaving σ ω τ) :
    (indices.foldl (d.move courses far) g).tasks.length = g.tasks.length := by
  induction indices generalizing g with
  | nil => rfl
  | cons index rest ih => rw [List.foldl_cons, ih, length_tasks_move]

theorem keys_round (text : Text) (state : σ) (watch : ω) :
    (d.round text state watch).replies.map Prod.fst = distinct (Document.markers text) :=
  d.keys_resolveAll _ state watch

theorem keys_roundInterleaved (courses : Courses σ) (schedule : List Nat) (text : Text) (state : σ)
    (watch : ω) :
    (d.roundInterleaved courses schedule text state watch).replies.map Prod.fst =
      distinct (Document.markers text) := by
  apply List.map_fst_zip
  simp [interleave, length_tasks_moves]

/-- If every marker that a run dispatches has a handler and that answers with a text without opening
braces, half as many iterations as the text has opening braces are enough. The calls are those that
handlers note which do the same and note how they are called. All that counts is what stands in the
places of the markers, so this holds under any observer and any schedule whose replies open nothing. -/
theorem fixpoint_within_openings (limit : Nat) (document : Text) (values : List (Text × Value))
    (state : σ) (watch : ω) :
    let openings :=
      (Document.substitute document (values.map fun entry => (entry.1, entry.2.render))).count '{'
    let run := d.resolve limit document values state watch
    (d.IsQuiet → (∀ trace ∈ run.traces, trace.status ≠ .unknown) →
      (∀ call ∈ (d.noting.resolve limit document values (state, []) watch).state.2,
        ∃ value, call.result = .ok value ∧ '{' ∉ value.render) →
      run.iterations ≤ openings / 2 ∧ (openings / 2 ≤ limit → run.endState = .fixpoint)) ∧
    ((∀ round ∈ d.rounds limit document values state watch, round.IsUnopened) →
      run.NeedsAtMost (openings / 2) limit) ∧
    ∀ (courses : Courses σ) (schedules : Nat → List Nat),
      (∀ round ∈ d.roundsInterleaved courses schedules limit document values state watch,
        round.IsUnopened) →
      (d.resolveInterleaved courses schedules limit document values state watch).NeedsAtMost
        (openings / 2) limit := by
  intro openings run
  have sequential (unopened : ∀ round ∈ d.rounds limit document values state watch,
      round.IsUnopened) : run.NeedsAtMost (openings / 2) limit := by
    simp only [run, resolve, run_eq_runBy]
    refine runBy_exhausted (fun _ text state watch marker member => ?_) unopened
    rw [keys_round]
    exact mem_distinct.2 member
  refine ⟨fun quiet known called => sequential ?_, sequential, fun courses schedules unopened => ?_⟩
  · obtain ⟨more, noted, unopened⟩ := roundsBy_unopened (fun _ text state calls watch =>
        (round_noting quiet text state calls watch).imp fun _ => And.right) limit
      (Document.substitute document (values.map fun entry => (entry.1, entry.2.render))) state []
      watch
    simp only [← run_eq_runBy] at noted unopened
    exact unopened known fun call member => called call (noted ▸ member)
  · refine runBy_exhausted (fun left text state watch marker member => ?_) unopened
    rw [keys_roundInterleaved]
    exact mem_distinct.2 member

-- Answers nothing, so that what stands around the marker is joined.
def joining : Dispatcher Nat Unit Number where
  registry :=
    ⟨[{ name := "ai_e".toList
        description := []
        handler := fun _ calls => (.ok (.text []), calls + 1) }]⟩
  clock calls := .int calls
  observer := none

-- The first marker brings about the second, and the two iterations are needed.
theorem fixpoint_within_openings_joined :
    let document := "\x7b\x7b\x7bai_e\x7d\x7d\x7bai_e\x7d\x7d".toList
    let run := joining.resolve 2 document [] 0 ()
    joining.IsQuiet ∧ (∀ trace ∈ run.traces, trace.status ≠ .unknown) ∧
      (∀ call ∈ (joining.noting.resolve 2 document [] (0, []) ()).state.2,
        ∃ value, call.result = .ok value ∧ '{' ∉ value.render) ∧
      document.count '{' / 2 = 2 ∧ run.iterations = 2 ∧ run.endState = .fixpoint := by
  intro document run
  have quiet : joining.IsQuiet := fun _ _ => rfl
  have known : ∀ trace ∈ run.traces, trace.status ≠ .unknown := by decide +kernel
  have called : (joining.noting.resolve 2 document [] (0, []) ()).state.2 =
      [⟨"ai_e".toList, [], .ok (.text [])⟩, ⟨"ai_e".toList, [], .ok (.text [])⟩] := by rfl
  have answered : ∀ call ∈ (joining.noting.resolve 2 document [] (0, []) ()).state.2,
      ∃ value, call.result = .ok value ∧ '{' ∉ value.render := by
    rw [called]
    simp [Value.render]
  obtain ⟨-, enough⟩ :=
    (joining.fixpoint_within_openings 2 document [] 0 ()).1 quiet known answered
  exact ⟨quiet, known, answered, by decide +kernel, by decide +kernel, enough (by decide +kernel)⟩

end Dispatcher

end DocMarkers
