import DocMarkers.Proofs.Resolution.Round
import DocMarkers.Proofs.Resolution.View
import DocMarkers.Resolution.Together
import Mathlib.Data.List.Perm.Basic

set_option autoImplicit false

namespace DocMarkers

variable {σ ω τ : Type}

theorem lookup_eq_of_perm {α β : Type} [BEq α] [LawfulBEq α] {entries others : List (α × β)}
    (perm : entries.Perm others) (once : (others.map Prod.fst).Nodup) (key : α) :
    entries.lookup key = others.lookup key := by
  induction perm with
  | nil => rfl
  | cons entry _ ih =>
    obtain ⟨name, value⟩ := entry
    simp only [List.lookup_cons, ih (List.nodup_cons.1 once).2]
  | swap first second rest =>
    obtain ⟨name, value⟩ := first
    obtain ⟨name', value'⟩ := second
    have apart : name ≠ name' := fun same => by simp [same] at once
    by_cases here : key = name
    · subst here
      simp [List.lookup_cons, beq_false_of_ne apart]
    · simp [List.lookup_cons, beq_false_of_ne here]
  | trans _ later ih ih' => exact (ih ((later.map _).nodup_iff.2 once)).trans (ih' once)

theorem perm_insert {α : Type} {items more others : List α} (perm : (items ++ more).Perm others)
    (item : α) : (items ++ [item] ++ more).Perm (others ++ [item]) := by
  have moved : (items ++ [item] ++ more).Perm (item :: (items ++ more)) := by
    rw [List.append_assoc]
    exact List.perm_middle
  exact moved.trans ((perm.cons item).trans (List.perm_append_singleton item others).symm)

def Stage.ComesTo (view : σ → σ) (kind : σ → Prop) (result : Except Raised Value) :
    Stage σ → Prop
  | .done outcome => outcome = result
  | .waits rest => ∀ state, kind state →
      ∃ next, rest state = (result, next) ∧ view next = view state ∧ kind next

/-- A handler that begins as it acts on the view. Its wait and what follows it are not seen. -/
def Beginning.IsUnseen (view : σ → σ) (kind : σ → Prop) (beginning : Beginning σ) : Prop :=
  ∀ state, kind state → ∃ stage next result, beginning state = (stage, next) ∧ kind next ∧
    stage.ComesTo view kind result ∧ beginning.finish (view state) = (result, view next)

theorem Beginning.IsUnseen.respects {view : σ → σ} {kind : σ → Prop} {beginning : Beginning σ}
    (unseen : beginning.IsUnseen view kind) : Respects view kind beginning.finish := by
  intro state known
  obtain ⟨stage, next, result, begins, known, comesTo, viewed⟩ := unseen state known
  rw [viewed]
  simp only [finish, begins]
  cases stage with
  | done outcome =>
    obtain rfl : outcome = result := comesTo
    exact ⟨rfl, known⟩
  | waits rest =>
    obtain ⟨last, answer, unseen, known⟩ := comesTo next known
    simpa only [answer, unseen, true_and] using known

variable [Quantity τ]

namespace MarkerTrace

def untimed (trace : MarkerTrace τ) : MarkerTrace τ :=
  { trace with latency := Quantity.zero }

/-- Traces in another order and with other latencies. -/
def Alike (traces others : List (MarkerTrace τ)) : Prop :=
  (traces.map untimed).Perm (others.map untimed)

end MarkerTrace

open MarkerTrace (untimed Alike)

structure Due (σ τ : Type) where
  pending : Pending σ τ
  result : Except Raised Value

namespace Due

def reply (due : Due σ τ) : Marker × Text :=
  (due.pending.marker, (Dispatcher.conclude due.pending.toBegun due.pending.start due.result).1)

def trace (due : Due σ τ) : MarkerTrace τ :=
  (Dispatcher.conclude due.pending.toBegun due.pending.start due.result).2

end Due

namespace Dispatcher

structure BegunBy (d : Dispatcher σ ω τ) (beginnings : Beginnings σ) : Prop where
  unobserved : d.observer = none
  agrees : ∀ spec ∈ d.registry.specs, ∀ arguments,
    (beginnings spec arguments).finish = spec.handler arguments

structure WaitsUnseen (d : Dispatcher σ ω τ) (beginnings : Beginnings σ) (view : σ → σ)
    (kind : σ → Prop) : Prop extends d.BegunBy beginnings where
  unseen : ∀ spec ∈ d.registry.specs, ∀ arguments,
    (beginnings spec arguments).IsUnseen view kind

variable {d : Dispatcher σ ω τ} {beginnings : Beginnings σ} {view : σ → σ} {kind : σ → Prop}

omit [Quantity τ] in
theorem WaitsUnseen.ignoresView (unseen : d.WaitsUnseen beginnings view kind)
    (clock : ∀ state, d.clock (view state) = d.clock state) : d.IgnoresView view kind where
  clock := clock
  handlers spec member arguments := by
    rw [← unseen.agrees spec member arguments]
    exact (unseen.unseen spec member arguments).respects

theorem resolveAll_append (d : Dispatcher σ ω τ) (markers more : List Marker) (state : σ)
    (watch : ω) :
    d.resolveAll (markers ++ more) state watch =
      let first := d.resolveAll markers state watch
      let last := d.resolveAll more first.state first.watch
      { last with
        replies := first.replies ++ last.replies
        traces := first.traces ++ last.traces } := by
  induction markers generalizing state watch with
  | nil => rfl
  | cons marker rest ih => simp [resolveAll, ih]

theorem resolveOne_of_unknown {marker : Marker} (unknown : d.registry.find? marker.name = none)
    (state : σ) (watch : ω) :
    d.resolveOne marker state watch =
      ((marker.literal, some (unknownTrace marker)), state, watch) := by
  simp [resolveOne, Registry.contains, unknown]

theorem resolveOne_of_unobserved (unobserved : d.observer = none) (marker : Marker)
    (state : σ) (watch : ω) {spec : MarkerSpec σ}
    (found : d.registry.find? marker.name = some spec) {result : Except Raised Value} {next : σ}
    (answer : spec.handler (spec.splitMode.split marker.params) state = (result, next)) :
    d.resolveOne marker state watch =
      let (reply, trace) := conclude
        { marker, params := spec.splitMode.split marker.params, start := d.clock state }
        (d.clock next) result
      ((reply, some trace), next, watch) := by
  cases result <;>
    simp [resolveOne, Registry.contains, found, execute, MarkerSpec.invoke, answer, report, notify,
      unobserved, conclude, Except.map]

structure Follows (view : σ → σ) (kind : σ → Prop) (plain : Round σ ω τ) (due : List (Due σ τ))
    (g : Gathering σ τ) : Prop where
  pending : g.pending = due.map Due.pending
  comesTo : ∀ each ∈ due, (Stage.waits each.pending.rest).ComesTo view kind each.result
  known : kind g.state
  state : view g.state = plain.state
  replies : (g.replies ++ due.map Due.reply).Perm plain.replies
  traces : (g.traces.map untimed ++ due.map fun each => untimed each.trace).Perm
    (plain.traces.map untimed)

namespace Follows

variable {plain : Round σ ω τ} {due : List (Due σ τ)} {g : Gathering σ τ}

theorem goOn (follows : Follows view kind plain due g) {index : Nat} {each : Due σ τ}
    (here : due[index]? = some each) :
    Follows view kind plain (due.eraseIdx index) (d.goOn g index each.pending) := by
  obtain ⟨within, rfl⟩ := List.getElem?_eq_some_iff.1 here
  obtain ⟨next, answer, unseen, known⟩ :=
    follows.comesTo due[index] (List.getElem_mem within) g.state follows.known
  have rearranged := (List.getElem_cons_eraseIdx_perm within).symm
  simp only [Dispatcher.goOn, answer, enter]
  refine ⟨?_, fun each member => follows.comesTo each (List.mem_of_mem_eraseIdx member), known,
    unseen.trans follows.state, ?_, ?_⟩
  · simp only [follows.pending, List.eraseIdx_eq_take_drop_succ, List.map_append, List.map_take,
      List.map_drop]
  · have replies := (rearranged.map Due.reply).append_left g.replies
    rw [List.append_assoc]
    exact replies.symm.trans follows.replies
  · have traces := (rearranged.map fun each => untimed each.trace).append_left
      (g.traces.map untimed)
    rw [List.map_append, List.append_assoc]
    exact traces.symm.trans follows.traces

theorem begin (unseen : d.WaitsUnseen beginnings view kind)
    (follows : Follows view kind plain due g) (marker : Marker) :
    ∃ due', Follows view kind
      (let last := d.resolveAll [marker] plain.state plain.watch
       { last with
         replies := plain.replies ++ last.replies, traces := plain.traces ++ last.traces })
      due' (d.begin beginnings g marker) := by
  rw [← follows.state]
  cases found : d.registry.find? marker.name with
  | none =>
    simp only [Dispatcher.begin, found, resolveAll, resolveOne_of_unknown found]
    refine ⟨due, follows.pending, follows.comesTo, follows.known, rfl,
      perm_insert follows.replies _, ?_⟩
    rw [List.map_append, List.map_append]
    exact perm_insert follows.traces _
  | some spec =>
    have member := List.mem_of_find?_eq_some found
    obtain ⟨stage, next, result, begins, known, comesTo, answer⟩ :=
      unseen.unseen spec member (spec.splitMode.split marker.params) g.state follows.known
    rw [unseen.agrees spec member] at answer
    have plainly := resolveOne_of_unobserved unseen.unobserved marker (view g.state) plain.watch
      found answer
    cases stage with
    | done outcome =>
      obtain rfl : outcome = result := comesTo
      simp only [Dispatcher.begin, found, resolveAll, plainly, begins, enter]
      refine ⟨due, follows.pending, follows.comesTo, known, rfl, perm_insert follows.replies _, ?_⟩
      rw [List.map_append, List.map_append]
      exact perm_insert follows.traces _
    | waits rest =>
      simp only [Dispatcher.begin, found, resolveAll, plainly, begins]
      let added : Due σ τ :=
        ⟨⟨⟨marker, spec.splitMode.split marker.params, d.clock g.state⟩, rest⟩, result⟩
      refine ⟨due ++ [added], by simp [follows.pending, added], ?_, known, rfl, ?_, ?_⟩
      · intro each member
        rcases List.mem_append.1 member with old | new
        · exact follows.comesTo each old
        · obtain rfl := List.mem_singleton.1 new
          exact comesTo
      · rw [List.map_append, ← List.append_assoc]
        exact follows.replies.append_right _
      · rw [List.map_append, List.map_append, ← List.append_assoc]
        exact follows.traces.append_right _

end Follows

def stepsLeft (g : Gathering σ τ) : Nat := 2 * g.unbegun.length + g.pending.length

theorem unbegun_begin (g : Gathering σ τ) (marker : Marker) :
    (d.begin beginnings g marker).unbegun = g.unbegun := by
  unfold begin
  split
  next => rfl
  next spec _ =>
    dsimp only
    split <;> rfl

theorem stepsLeft_begin (g : Gathering σ τ) (marker : Marker) :
    stepsLeft (d.begin beginnings g marker) ≤ stepsLeft g + 1 := by
  unfold begin
  split
  next => exact Nat.le_succ _
  next spec _ =>
    dsimp only
    split
    next => exact Nat.le_succ _
    next => simp [stepsLeft, Nat.add_assoc]

theorem stepsLeft_goOn {g : Gathering σ τ} {index : Nat} (within : index < g.pending.length)
    (pending : Pending σ τ) : stepsLeft (d.goOn g index pending) = stepsLeft g - 1 := by
  simp only [goOn, enter, stepsLeft, List.length_eraseIdx_of_lt within]
  omega

theorem stepsLeft_step (choice : Nat) (g : Gathering σ τ) :
    stepsLeft (d.step beginnings choice g) ≤ stepsLeft g - 1 := by
  unfold step
  split
  next pending here =>
    exact Nat.le_of_eq (stepsLeft_goOn (List.getElem?_eq_some_iff.1 here).1 pending)
  next marker unbegun _ waiting =>
    have bound := @stepsLeft_begin _ _ _ _ d beginnings { g with unbegun } marker
    simp only [stepsLeft, waiting, List.length_cons] at bound ⊢
    omega
  next pending rest _ _ here =>
    exact Nat.le_of_eq (stepsLeft_goOn (by simp [here]) pending)
  next waiting here => simp [stepsLeft, waiting, here]

-- What the markers that have begun come to one after another, the iteration under way will come to.
def IsUnderWay (d : Dispatcher σ ω τ) (view : σ → σ) (kind : σ → Prop) (markers : List Marker)
    (state : σ) (watch : ω) (g : Gathering σ τ) : Prop :=
  ∃ begun due, markers = begun ++ g.unbegun ∧
    Follows view kind (d.resolveAll begun state watch) due g

theorem IsUnderWay.step (unseen : d.WaitsUnseen beginnings view kind) {markers : List Marker}
    {state : σ} {watch : ω} {g : Gathering σ τ}
    (underWay : d.IsUnderWay view kind markers state watch g) (choice : Nat) :
    d.IsUnderWay view kind markers state watch (d.step beginnings choice g) := by
  obtain ⟨begun, due, all, follows⟩ := underWay
  unfold Dispatcher.step
  split
  next pending here =>
    rw [follows.pending, List.getElem?_map, Option.map_eq_some_iff] at here
    obtain ⟨each, here, rfl⟩ := here
    exact ⟨begun, _, all, follows.goOn here⟩
  next marker unbegun _ waiting =>
    have next : Follows view kind (d.resolveAll begun state watch) due { g with unbegun } :=
      ⟨follows.pending, follows.comesTo, follows.known, follows.state, follows.replies,
        follows.traces⟩
    obtain ⟨due, follows⟩ := next.begin unseen marker
    refine ⟨begun ++ [marker], due, ?_, ?_⟩
    · rw [unbegun_begin, all, waiting, List.append_assoc]
      rfl
    · rw [resolveAll_append]
      exact follows
  next pending rest _ _ here =>
    rw [follows.pending] at here
    obtain ⟨each, others, rfl, rfl, -⟩ := List.map_eq_cons_iff.1 here
    exact ⟨begun, _, all, follows.goOn rfl⟩
  next => exact ⟨begun, due, all, follows⟩

theorem IsUnderWay.advance (unseen : d.WaitsUnseen beginnings view kind) {markers : List Marker}
    {state : σ} {watch : ω} {g : Gathering σ τ} (choices : Nat → Nat) {left : Nat}
    (enough : stepsLeft g ≤ left) (underWay : d.IsUnderWay view kind markers state watch g) :
    d.IsUnderWay view kind markers state watch (d.advance beginnings choices left g) ∧
      stepsLeft (d.advance beginnings choices left g) = 0 := by
  induction left generalizing g with
  | zero => exact ⟨underWay, Nat.le_zero.1 enough⟩
  | succ left ih =>
    have fewer := @stepsLeft_step _ _ _ _ d beginnings (choices left) g
    exact ih (by omega) (underWay.step unseen (choices left))

theorem gather_perm (unseen : d.WaitsUnseen beginnings view kind) {state : σ}
    (known : kind state) (watch : ω) (choices : Nat → Nat) (markers : List Marker) :
    let g := d.gather beginnings choices markers state
    let plain := d.resolveAll markers (view state) watch
    g.replies.Perm plain.replies ∧ Alike g.traces plain.traces ∧
      view g.state = plain.state ∧ kind g.state := by
  have start : d.IsUnderWay view kind markers (view state) watch
      ({ unbegun := markers, state } : Gathering σ τ) :=
    ⟨[], [], rfl, rfl, nofun, known, rfl, .nil, .nil⟩
  obtain ⟨⟨begun, due, all, follows⟩, ended⟩ :
      d.IsUnderWay view kind markers (view state) watch
          (d.gather beginnings choices markers state) ∧
        stepsLeft (d.gather beginnings choices markers state) = 0 :=
    start.advance unseen choices (Nat.le_refl _)
  generalize d.gather beginnings choices markers state = g at ended all follows
  have nobody : g.unbegun = [] ∧ due = [] := by
    simp only [stepsLeft, follows.pending, List.length_map] at ended
    exact ⟨List.eq_nil_of_length_eq_zero (by omega), List.eq_nil_of_length_eq_zero (by omega)⟩
  obtain ⟨unbegun, rfl⟩ := nobody
  obtain rfl : markers = begun := by simpa [unbegun] using all
  exact ⟨by simpa using follows.replies, by simpa [Alike] using follows.traces, follows.state,
    follows.known⟩

theorem apply_roundTogether (unseen : d.WaitsUnseen beginnings view kind) {state : σ}
    (known : kind state) (watch watch' : ω) (choices : Nat → Nat) (text : Text) :
    (d.roundTogether beginnings choices text state watch).apply text =
      (d.round text (view state) watch').apply text := by
  obtain ⟨replies, -⟩ := gather_perm unseen known watch' choices
    (distinct (Document.markers text))
  have once : ((d.round text (view state) watch').replies.map Prod.fst).Nodup := by
    rw [round, keys_resolveAll]
    exact nodup_distinct _
  unfold Round.apply
  exact congrArg (Document.replace · text) (funext (lookup_eq_of_perm replies once))

structure RunsAgree (agree : List (MarkerTrace τ) → List (MarkerTrace τ) → Prop) (view : σ → σ)
    (kind : σ → Prop) (run plain : Run σ ω τ) : Prop where
  text : run.text = plain.text
  iterations : run.iterations = plain.iterations
  endState : run.endState = plain.endState
  traces : agree run.traces plain.traces
  state : view run.state = plain.state
  known : kind run.state

theorem runTogether_agree (unseen : d.WaitsUnseen beginnings view kind) (pace : Pace) (left : Nat)
    (text : Text) {state : σ} (known : kind state) (watch watch' : ω) :
    RunsAgree Alike view kind (d.runTogether beginnings pace left text state watch)
      (d.run left text (view state) watch') := by
  induction left generalizing text state watch watch' with
  | zero => exact ⟨rfl, rfl, rfl, .nil, rfl, known⟩
  | succ left ih =>
    unfold runTogether run
    split
    next => exact ⟨rfl, rfl, rfl, .nil, rfl, known⟩
    next =>
      obtain ⟨-, traces, same, known'⟩ := gather_perm unseen known watch' (pace left)
        (distinct (Document.markers text))
      have rest := ih ((d.round text (view state) watch').apply text) known'
        (d.roundTogether beginnings (pace left) text state watch).watch
        (d.round text (view state) watch').watch
      rw [same] at rest
      dsimp only
      rw [apply_roundTogether unseen known watch watch']
      refine ⟨rest.text, congrArg (· + 1) rest.iterations, rest.endState, ?_, rest.state,
        rest.known⟩
      rw [Alike, List.map_append, List.map_append]
      exact traces.append rest.traces

-- Whoever waits goes on before the next marker begins.
theorem advance_inTurn (begun : d.BegunBy beginnings) (markers : List Marker)
    {left : Nat} (enough : 2 * markers.length ≤ left)
    (replies : List (Marker × Text)) (traces : List (MarkerTrace τ)) (state : σ) (watch : ω) :
    let plain := d.resolveAll markers state watch
    d.advance beginnings (fun _ => 0) left { unbegun := markers, replies, traces, state } =
        { unbegun := [], replies := replies ++ plain.replies, traces := traces ++ plain.traces
          state := plain.state } ∧
      plain.watch = watch := by
  induction markers generalizing left replies traces state with
  | nil =>
    have rests : d.advance beginnings (fun _ => 0) left
        ({ unbegun := [], replies, traces, state } : Gathering σ τ) =
          { unbegun := [], replies, traces, state } := by
      clear enough
      induction left with
      | zero => rfl
      | succ left ih => exact ih
    simpa [resolveAll] using rests
  | cons marker rest ih =>
    obtain ⟨left, rfl⟩ : ∃ fewer, left = fewer + 2 :=
      ⟨left - 2, by simp only [List.length_cons] at enough; omega⟩
    have enough : 2 * rest.length ≤ left := by
      simp only [List.length_cons] at enough
      omega
    change d.advance beginnings (fun _ => 0) (left + 1)
      (d.begin beginnings { unbegun := rest, replies, traces, state } marker) = _ ∧ _
    cases found : d.registry.find? marker.name with
    | none =>
      simp only [begin, found, resolveAll, resolveOne_of_unknown found]
      rw [(ih (Nat.le_succ_of_le enough) _ _ state).1]
      exact ⟨by simp, (ih enough [] [] state).2⟩
    | some spec =>
      have agrees := congrFun (begun.agrees spec (List.mem_of_find?_eq_some found)
        (spec.splitMode.split marker.params)) state
      rcases begins : beginnings spec (spec.splitMode.split marker.params) state with
        ⟨result | later, next⟩
      · have answer : spec.handler (spec.splitMode.split marker.params) state = (result, next) := by
          rw [← agrees, Beginning.finish, begins]
        have plainly := resolveOne_of_unobserved begun.unobserved marker state watch found answer
        simp only [begin, found, begins, enter, resolveAll, plainly]
        rw [(ih (Nat.le_succ_of_le enough) _ _ next).1]
        exact ⟨by simp, (ih enough [] [] next).2⟩
      · have answer : spec.handler (spec.splitMode.split marker.params) state = later next := by
          rw [← agrees, Beginning.finish, begins]
        rcases goesOn : later next with ⟨result, last⟩
        have plainly := resolveOne_of_unobserved begun.unobserved marker state watch found
          (answer.trans goesOn)
        simp only [begin, found, begins, List.nil_append, resolveAll, plainly, advance, step, goOn,
          enter, List.getElem?_cons_zero, goesOn, List.eraseIdx_cons_zero]
        rw [(ih enough _ _ last).1]
        exact ⟨by simp, (ih enough [] [] last).2⟩

theorem runTogether_inTurn (begun : d.BegunBy beginnings) (left : Nat) (text : Text) (state : σ)
    (watch : ω) :
    d.runTogether beginnings (fun _ _ => 0) left text state watch =
      d.run left text state watch := by
  induction left generalizing text state watch with
  | zero => rfl
  | succ left ih =>
    obtain ⟨same, after⟩ := advance_inTurn begun (distinct (Document.markers text)) (Nat.le_refl _)
      [] [] state watch
    have round : d.roundTogether beginnings (fun _ => 0) text state watch =
        d.round text state watch := by
      simp only [roundTogether, gather, same, List.nil_append]
      exact congrArg (Round.mk _ _ _) after.symm
    simp only [runTogether, run, round, ih]

end Dispatcher

end DocMarkers
