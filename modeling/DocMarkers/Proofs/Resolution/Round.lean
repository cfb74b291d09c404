import DocMarkers.Proofs.Scanning.Document
import DocMarkers.Resolution.Run

set_option autoImplicit false

namespace DocMarkers

theorem mem_distinct {α : Type} [BEq α] [LawfulBEq α] {item : α} {items : List α} :
    item ∈ distinct items ↔ item ∈ items := by
  induction items with
  | nil => rfl
  | cons head rest ih =>
    by_cases same : item = head
    · simp [distinct, same]
    · simp [distinct, ih, same]

theorem nodup_distinct {α : Type} [BEq α] [LawfulBEq α] (items : List α) :
    (distinct items).Nodup := by
  induction items with
  | nil => exact List.nodup_nil
  | cons head rest ih =>
    refine List.nodup_cons.2 ⟨?_, ih.filter _⟩
    simp

-- What is distinct stands in the order in which it first comes.
theorem pairwise_distinct {α : Type} [BEq α] [LawfulBEq α] (items : List α) :
    (distinct items).Pairwise fun first second => items.idxOf first < items.idxOf second := by
  induction items with
  | nil => exact .nil
  | cons head rest ih =>
    have later {item : α} (apart : (item != head) = true) :
        (head :: rest).idxOf item = rest.idxOf item + 1 := by
      have other : (head == item) = false := by simpa using Ne.symm (bne_iff_ne.1 apart)
      simp [List.idxOf_cons, other]
    refine .cons (fun item member => ?_) ((ih.filter _).imp_of_mem ?_)
    · rw [later (List.mem_filter.1 member).2, List.idxOf_cons_self]
      exact Nat.succ_pos _
    · intro first second member member' before
      rw [later (List.mem_filter.1 member).2, later (List.mem_filter.1 member').2]
      exact Nat.succ_lt_succ before

theorem Round.apply_eq_weave {σ ω τ : Type} {round : Round σ ω τ} {text : Text}
    {reply : Marker → Text}
    (replies : ∀ marker ∈ Document.markers text, round.replies.lookup marker = some (reply marker)) :
    round.apply text = (Document.pieces text).weave reply := by
  rw [apply, Document.replace_eq_weave]
  refine Document.Pieces.weave_congr fun marker member => ?_
  rw [Document.markers_pieces] at member
  simp [replies marker member]

-- Where no dispatch succeeds, nothing comes of any marker and all stay as they are.
theorem Document.weave_of_failed {τ : Type} {text : Text} {outcome : Marker → Option Text}
    {traces : List (MarkerTrace τ)}
    (succeeded : (∃ trace ∈ traces, trace.status = .ok) ↔
      ∃ marker ∈ distinct (Document.markers text), (outcome marker).isSome)
    (failed : ∀ trace ∈ traces, trace.status ≠ .ok) :
    (Document.pieces text).weave (fun marker => (outcome marker).getD marker.literal) = text := by
  have none : ∀ marker ∈ Document.markers text, outcome marker = none := by
    refine fun marker member => Option.eq_none_iff_forall_ne_some.2 fun output given => ?_
    obtain ⟨trace, told, ok⟩ := succeeded.2 ⟨marker, mem_distinct.2 member, by simp [given]⟩
    exact failed trace told ok
  conv => rhs; rw [← Document.weave_pieces text]
  refine Document.Pieces.weave_congr fun marker member => ?_
  rw [Document.markers_pieces] at member
  simp [none marker member]

namespace Registry

variable {σ : Type}

def IsPlain (registry : Registry σ) : Prop :=
  ∀ spec ∈ registry.specs, ∀ arguments state output,
    (spec.invoke arguments state).1 = .ok output → output.IsPlain

end Registry

namespace Dispatcher

variable {σ ω τ : Type} [Quantity τ]

/-- What the handler of a marker answers in a state, if it has a handler and that succeeds. -/
def outcome? (d : Dispatcher σ ω τ) (marker : Marker) (state : σ) : Option Text :=
  (d.registry.find? marker.name).bind fun spec =>
    (spec.invoke (spec.splitMode.split marker.params) state).1.toOption

def IsQuiet (d : Dispatcher σ ω τ) : Prop :=
  ∀ trace watch, (d.notify trace watch).1 = .ok ()

omit [Quantity τ] in
theorem report_of_quiet {d : Dispatcher σ ω τ} (quiet : d.IsQuiet) (trace : MarkerTrace τ)
    (result : Except Raised Text) (watch : ω) :
    (d.report trace result watch).1 = ⟨result, some trace⟩ := by
  have accepted := quiet trace watch
  unfold report
  split <;> simp_all

theorem resolveOne_of_quiet {d : Dispatcher σ ω τ} (quiet : d.IsQuiet) (marker : Marker)
    (state : σ) (watch : ω) :
    (d.resolveOne marker state watch).1.1 = (d.outcome? marker state).getD marker.literal ∧
      ∃ trace, (d.resolveOne marker state watch).1.2 = some trace ∧
        (trace.status = .ok ↔ (d.outcome? marker state).isSome) := by
  cases found : d.registry.find? marker.name with
  | none => simp [resolveOne, Registry.contains, found, outcome?, unknownTrace]
  | some spec =>
    cases answer : (spec.invoke (spec.splitMode.split marker.params) state).1 with
    | ok output =>
      simp [resolveOne, Registry.contains, found, outcome?, execute, answer,
        report_of_quiet quiet, Except.toOption]
    | error failure =>
      simp [resolveOne, Registry.contains, found, outcome?, execute, answer,
        report_of_quiet quiet, Except.toOption]

-- The states in which a marker of a round is dispatched: the markers before it leave them.
def statesAt (d : Dispatcher σ ω τ) (markers : List Marker) (state : σ) (watch : ω)
    (marker : Marker) : σ × ω :=
  let before := d.resolveAll (markers.takeWhile (· != marker)) state watch
  (before.state, before.watch)

theorem statesAt_head (d : Dispatcher σ ω τ) (marker : Marker) (rest : List Marker) (state : σ)
    (watch : ω) : d.statesAt (marker :: rest) state watch marker = (state, watch) := by
  simp [statesAt, resolveAll]

theorem statesAt_cons (d : Dispatcher σ ω τ) {head marker : Marker} (apart : head ≠ marker)
    (rest : List Marker) (state : σ) (watch : ω) :
    d.statesAt (head :: rest) state watch marker =
      d.statesAt rest (d.resolveOne head state watch).2.1 (d.resolveOne head state watch).2.2
        marker := by
  simp [statesAt, apart, resolveAll]

theorem keys_resolveAll (d : Dispatcher σ ω τ) (markers : List Marker) (state : σ) (watch : ω) :
    (d.resolveAll markers state watch).replies.map Prod.fst = markers := by
  induction markers generalizing state watch with
  | nil => rfl
  | cons head rest ih => simp [resolveAll, ih]

def outcomeIn? (d : Dispatcher σ ω τ) (markers : List Marker) (state : σ) (watch : ω)
    (marker : Marker) : Option Text :=
  d.outcome? marker (d.statesAt markers state watch marker).1

-- A marker is dispatched in the state that the markers before it leave, so the induction goes
-- over all states.
theorem lookup_resolveAll {d : Dispatcher σ ω τ} (quiet : d.IsQuiet) {markers : List Marker}
    {marker : Marker} (member : marker ∈ markers) (state : σ) (watch : ω) :
    (d.resolveAll markers state watch).replies.lookup marker =
      some ((d.outcomeIn? markers state watch marker).getD marker.literal) := by
  induction markers generalizing state watch with
  | nil => contradiction
  | cons head rest ih =>
    by_cases same : head = marker
    · subst same
      simp [resolveAll, outcomeIn?, statesAt_head, (resolveOne_of_quiet quiet _ _ _).1]
    · have member : marker ∈ rest := by simpa [Ne.symm same] using member
      have other : (marker == head) = false := by simpa using Ne.symm same
      have later := ih member (d.resolveOne head state watch).2.1
        (d.resolveOne head state watch).2.2
      simpa [resolveAll, List.lookup_cons, other, outcomeIn?, statesAt_cons d same] using later

theorem succeeded_resolveAll {d : Dispatcher σ ω τ} (quiet : d.IsQuiet) {markers : List Marker}
    (once : markers.Nodup) (state : σ) (watch : ω) :
    (∃ trace ∈ (d.resolveAll markers state watch).traces, trace.status = .ok) ↔
      ∃ marker ∈ markers, (d.outcomeIn? markers state watch marker).isSome := by
  induction markers generalizing state watch with
  | nil => simp [resolveAll]
  | cons head rest ih =>
    obtain ⟨apart, once⟩ := List.nodup_cons.1 once
    obtain ⟨-, trace, told, succeeded⟩ := resolveOne_of_quiet quiet head state watch
    have first : (d.outcomeIn? (head :: rest) state watch head).isSome ↔ trace.status = .ok := by
      rw [succeeded, outcomeIn?, statesAt_head]
    have later : (∃ marker ∈ rest, (d.outcomeIn? (head :: rest) state watch marker).isSome) ↔
        ∃ marker ∈ rest, (d.outcomeIn? rest (d.resolveOne head state watch).2.1
          (d.resolveOne head state watch).2.2 marker).isSome := by
      refine exists_congr fun marker => and_congr_right fun member => ?_
      have other : head ≠ marker := by
        rintro rfl
        exact apart member
      rw [outcomeIn?, statesAt_cons d other, outcomeIn?]
    simp only [resolveAll, told, Option.toList_some, List.cons_append, List.nil_append,
      List.mem_cons, exists_eq_or_imp, first, later, ih once]

theorem apply_round {d : Dispatcher σ ω τ} (quiet : d.IsQuiet) (text : Text) (state : σ)
    (watch : ω) :
    (d.round text state watch).apply text =
      (Document.pieces text).weave fun marker =>
        (d.outcomeIn? (distinct (Document.markers text)) state watch marker).getD
          marker.literal :=
  Round.apply_eq_weave fun _ member => lookup_resolveAll quiet (mem_distinct.2 member) state watch

end Dispatcher

end DocMarkers
