import DocMarkers.Proofs.Calendar.Timestamp
import DocMarkers.Proofs.Lookup.Shape
import DocMarkers.Proofs.Lookup.Transparency
import DocMarkers.Proofs.Scanning.Parameters
import DocMarkers.Proofs.Service.Frames

set_option autoImplicit false

namespace DocMarkers

theorem Topic.normalize_trim (topic : Text) : normalize (Text.trim topic) = normalize topic := by
  have trimmed : Text.trim (Text.trim topic) = Text.trim topic := Text.trimBy_trimBy isBlank topic
  rw [normalize, trimmed, normalize]

theorem Date.not_mem_slashed {c : Char} (noDigit : c.isDigit = false) (apart : c ≠ '/') (date : Date) :
    c ∉ date.slashed := by
  have foreign (n : Nat) : c ∉ Text.ofNat n := fun member => by
    rw [Text.ofNat, Nat.toList_repr] at member
    rw [Nat.isDigit_of_mem_toDigits (by decide) (by decide) member] at noDigit
    contradiction
  simp [slashed, foreign, apart]

section Literal

variable {σ ω τ : Type} {marker : Marker} (valid : marker.IsValid)
include valid

theorem Document.markers_literal : markers marker.literal = [marker] := by
  simpa [markers, tokens, tokensFrom] using markers_append_literal valid [] []

-- A document of one marker is done with in one iteration if no marker begins in the reply.
theorem runBy_literal {round : Nat → Text → σ → ω → Round σ ω τ} {reply : Text}
    (unopened : ¬ ['{', '{'] <:+: reply) {traces : List (MarkerTrace τ)} {state next : σ}
    {watch : ω} {left : Nat}
    (replies : round left marker.literal state watch = ⟨[(marker, reply)], traces, next, watch⟩) :
    runBy round (left + 1) marker.literal state watch =
      { text := reply, iterations := 1, endState := .fixpoint, traces, state := next, watch } := by
  have unresolved : Document.markers marker.literal ≠ [] := by
    simp [Document.markers_literal valid]
  have replaced : (round left marker.literal state watch).apply marker.literal = reply := by
    have whole := Document.replace_append_literal valid [] []
      fun other => [(marker, reply)].lookup other
    rw [replies, Round.apply]
    simpa [Document.replace, Document.tokens, Document.tokensFrom] using whole
  have fixed := runBy_of_fixpoint round (Document.markers_of_unopened unopened) left next watch
  simp only [runBy_succ round unresolved, replaced]
  simp only [replies, fixed, List.append_nil]

end Literal

namespace Builtin

variable {τ : Type} [Quantity τ]

def updatedName : MarkerName := ⟨"ai_updated".toList, rfl⟩

theorem exists_updated {registry : Registry (Session τ)} {searches : Bool}
    (builtIn : specs searches <+: registry.specs) :
    ∃ spec, registry.find? updatedName.1 = some spec ∧ spec.splitMode = .everyColon ∧
      spec.handler = (fun arguments => telling (updated arguments)) ∧
        beginnings searches spec = fun arguments => doAtOnce (telling (updated arguments)) :=
  ⟨_, Registry.find?_of_prefix builtIn rfl, rfl, rfl, rfl⟩

omit [Quantity τ] in
theorem dateOf_degraded {record : Summary} (degraded : record.isDegraded = true) :
    dateOf record = .ok (.text unknownDate) := by
  rw [dateOf, degraded]
  rfl

theorem dateOf_stamp {record : Summary} (whole : record.isDegraded = false) {stamp : Stamp}
    (given : record.timestamp = .text stamp.text) :
    dateOf record =
      .ok (.text (if stamp.date.IsOfCalendar then stamp.date.slashed else unknownDate)) := by
  have present : (Value.text stamp.text).isPresent = true := by
    simp [Value.isPresent, stamp.text_ne_nil]
  rw [dateOf, if_neg (by simp [whole, given, present]), given]
  simp only [Timestamp.readZulu?_stamp]
  split <;> rfl

end Builtin

namespace Service

open Builtin (updatedName unknownDate dateOf)

variable {τ : Type} [Quantity τ]

/-- At every pace the document becomes the text in one iteration, which ends the run. -/
structure Yields (service : Service τ) (pace : Pace) (document text : Text) : Prop where
  text : (service.resolveAt pace document []).text = text
  iterations : (service.resolveAt pace document []).iterations = 1
  endState : (service.resolveAt pace document []).endState = .fixpoint
  answered : service.store.window.CanKeep →
    ∃ id, (service.processAt pace document []).1 =
      .ok ((service.resolveAt pace document []).outcome id)
  inTurn : service.processAt pace document [] = service.process document []

variable {service : Service τ}

theorem Yields.processed {pace : Pace} {document text : Text}
    (yields : service.Yields pace document text) (canKeep : service.store.window.CanKeep) :
    ∃ outcome, (service.process document []).1 = .ok outcome ∧ outcome.text = text ∧
      outcome.iterations = 1 ∧ outcome.endState = .fixpoint := by
  obtain ⟨id, answer⟩ := yields.answered canKeep
  rw [yields.inTurn] at answer
  exact ⟨_, answer, yields.text, yields.iterations, yields.endState⟩

theorem yields_of_answer {marker : Marker} (valid : marker.IsValid) {spec : MarkerSpec (Session τ)}
    (found : service.registry.find? marker.name = some spec) {text : Text} {next : Session τ}
    (answer : spec.handler (spec.splitMode.split marker.params) service.session =
      (.ok (.text text), next))
    (begins : Builtin.beginnings service.settings.searchFallback spec
      (spec.splitMode.split marker.params) service.session = (.done (.ok (.text text)), next))
    (unopened : ¬ ['{', '{'] <:+: text) (pace : Pace) : service.Yields pace marker.literal text := by
  have only := Document.markers_literal valid
  obtain ⟨left, limit⟩ :=
    Nat.exists_eq_succ_of_ne_zero (Nat.ne_of_gt service.settings.maxIterations_pos)
  let ended := service.dispatcher.alone
    ⟨marker, spec.splitMode.split marker.params, service.session.world.clock⟩ (.ok (.text text)) next ()
  let settled : Run (Session τ) Unit τ :=
    { text, iterations := 1, endState := .fixpoint, traces := ended.traces, state := next, watch := () }
  have resolvedAt (pace : Pace) : service.resolveAt pace marker.literal [] = settled := by
    refine resolveAt_of_runBy ?_ ?_ <;> rw [limit]
    · exact runBy_literal valid unopened (Dispatcher.round_alone only found rfl answer ())
    · exact runBy_literal valid unopened
        (Dispatcher.roundTogether_alone only found begins (pace left) ())
  have inTurn : service.processAt pace marker.literal [] = service.process marker.literal [] :=
    congrArg (service.recorded _) ((resolvedAt pace).trans (resolvedAt fun _ _ => 0).symm)
  refine ⟨by rw [resolvedAt], by rw [resolvedAt], by rw [resolvedAt], fun canKeep => ?_, inTurn⟩
  obtain ⟨id, records, recorded⟩ := recorded_of_canKeep canKeep _ _
  exact ⟨id, congrArg Prod.fst recorded⟩

section Updated

variable (builtIn : Builtin.specs service.settings.searchFallback <+: service.registry.specs)
  {topic : Text} (filled : topic ≠ []) (single : ':' ∉ topic) (plain : topic.IsPlain)
include builtIn filled single plain

theorem yields_updated {record : Summary} {next : Session τ} {date : Text}
    (given : Lookup.summary (Text.trim topic) service.session = (.ok record, next))
    (dated : dateOf record = .ok (.text date)) (unopened : '{' ∉ date) (pace : Pace) :
    service.Yields pace (Marker.literal ⟨updatedName.1, some topic⟩) date := by
  have valid : Marker.IsValid ⟨updatedName.1, some topic⟩ :=
    Marker.isValid_of_isEnclosable updatedName.2 (Marker.isEnclosable_of_isPlain plain)
  obtain ⟨spec, found, mode, handler, begins⟩ := Builtin.exists_updated builtIn
  have arguments : spec.splitMode.split (some topic) = [Text.trim topic] := by
    rw [mode, SplitMode.split_of_ne_nil _ filled, SplitMode.arguments, Text.splitOn_of_not_mem single]
    rfl
  have answer : spec.handler (spec.splitMode.split (some topic)) service.session =
      (.ok (.text date), next) := by
    simp only [handler, arguments, telling, Builtin.updated, Builtin.withSummary, given, dated,
      Except.mapError]
  have begun : Builtin.beginnings service.settings.searchFallback spec
      (spec.splitMode.split (some topic)) service.session = (.done (.ok (.text date)), next) := by
    simp only [handler] at answer
    simp only [begins, Builtin.doAtOnce, answer]
  exact yields_of_answer valid found answer begun
    (fun opens => unopened (opens.subset List.mem_cons_self)) pace

/-- The date is that of the timestamp if the calendar has it, and unknown otherwise. It is unknown as well if
the lookup does not come to a page. -/
theorem updated_dated (pace : Pace) :
    let document := Marker.literal ⟨updatedName.1, some topic⟩
    let s := service.session
    (∀ response fields (stamp : Stamp), s.Misses topic →
        (Lookup.exchange (s.page topic) s).1 = .ok response → response.status = 200 →
        Json.decode s.world.readDepth response.body = .ok (.object fields) →
        Summary.IsShaped fields →
        Value.field fields "timestamp".toList = .text stamp.text →
        service.Yields pace document
          (if stamp.date.IsOfCalendar then stamp.date.slashed else unknownDate)) ∧
      ∀ record, (Lookup.summary (Text.trim topic) s).1 = .ok record → record.isDegraded = true →
        service.Yields pace document unknownDate := by
  intro document s
  constructor
  · intro response fields stamp missed answer success decoded shaped given
    obtain ⟨record, built⟩ :
        ∃ record, Summary.ofFields fields (Text.trim topic) s.world.today = .ok record :=
      Summary.isShaped_iff.2 shaped
    -- The handler gets the topic without the blanks around it, which leads to the same page.
    have page : s.page (Text.trim topic) = s.page topic := by
      rw [Session.page, Topic.normalize_trim, Session.page]
    have missed : s.Misses (Text.trim topic) := by
      rwa [Session.Misses, Topic.normalize_trim]
    have brings : response.Brings s.world.readDepth (.object fields) :=
      ⟨by simp [Response.isSuccess, success], decoded⟩
    have delivered : s.Delivers (Text.trim topic) record :=
      ⟨response, fields, by rwa [page], brings, built⟩
    have stamped : record.timestamp = .text stamp.text := by
      rw [(Summary.isOf_of_ofFields built).timestamp, given, Value.orElse]
      simp [Value.isPresent, stamp.text_ne_nil]
    have unopened : '{' ∉ if stamp.date.IsOfCalendar then stamp.date.slashed else unknownDate := by
      split
      next => exact stamp.date.not_mem_slashed rfl (by decide)
      next => decide
    exact yields_updated builtIn filled single plain (Lookup.summary_of_delivery missed delivered)
      (Builtin.dateOf_stamp delivered.whole stamped) unopened pace
  · intro record looked degraded
    exact yields_updated builtIn filled single plain (Prod.ext looked rfl)
      (Builtin.dateOf_degraded degraded) (by decide) pace

end Updated

def leapDay (year : Decimal.Numeral 4) : Stamp where
  year
  month := ⟨"02".toList, rfl, rfl⟩
  day := ⟨"29".toList, rfl, rfl⟩
  hours := ⟨"23".toList, rfl, rfl⟩
  minutes := ⟨"59".toList, rfl, rfl⟩
  seconds := ⟨"59".toList, rfl, rfl⟩
  hours_le := by decide
  minutes_le := by decide
  seconds_le := by decide

-- Two pages tell of a leap day, but one of the years has none. No other page is there.
def changed : Session Rat :=
  let telling (stamp : Stamp) : Reply Failure Response Rat :=
    ⟨.ok ⟨200, Text.utf8 ("\x7b\"timestamp\": \"".toList ++ stamp.text ++ "\"\x7d".toList)⟩, 0⟩
  .facing fun _ request =>
    match request with
    | .page _ ['C', 'a', 't'] => telling (leapDay ⟨"2024".toList, rfl, rfl⟩)
    | .page _ ['D', 'o', 'g'] => telling (leapDay ⟨"1900".toList, rfl, rfl⟩)
    | _ => ⟨.ok ⟨404, []⟩, 0⟩

def timestamp? : Except Failure Response → Option Text
  | .ok ⟨200, body⟩ =>
    match Json.decode 970 body with
    | .ok (.object [(['t', 'i', 'm', 'e', 's', 't', 'a', 'm', 'p'], .text timestamp)]) =>
      some timestamp
    | _ => none
  | _ => none

theorem exists_response {result : Except Failure Response} {timestamp : Text}
    (told : timestamp? result = some timestamp) :
    ∃ response fields, result = .ok response ∧ response.status = 200 ∧
      Json.decode 970 response.body = .ok (.object fields) ∧ Summary.IsShaped fields ∧
        Value.field fields "timestamp".toList = .text timestamp := by
  unfold timestamp? at told
  split at told
  next body =>
    split at told
    next timestamp' decoded =>
      obtain rfl := Option.some.inj told
      refine ⟨_, _, rfl, rfl, decoded, ⟨rfl, fun _ found => ?_, rfl, fun present => ?_⟩, rfl⟩
      · contradiction
      · contradiction
    next => contradiction
  next => contradiction

theorem updated_dated_of_leap_days :
    let service : Service Rat := create changed patient {}
    let tells (document text : String) : Prop :=
      ∃ outcome, (service.process document.toList []).1 = .ok outcome ∧ outcome.text = text.toList ∧
        outcome.iterations = 1 ∧ outcome.endState = .fixpoint
    tells "\x7b\x7bai_updated: Cat \x7d\x7d" "2/29/2024" ∧
      tells "\x7b\x7bai_updated:Dog\x7d\x7d" "Unknown" ∧
      tells "\x7b\x7bai_updated:Cow\x7d\x7d" "Unknown" := by
  intro service tells
  have builtIn : Builtin.specs service.settings.searchFallback <+: service.registry.specs :=
    List.prefix_rfl
  have canKeep : service.store.window.CanKeep := by
    change (0 : Int) ≤ 1000
    decide
  have fresh (topic : Text) : service.session.Misses topic := Lookup.misses_of_empty rfl topic
  let pace : Pace := fun _ _ => 0
  have cat : " Cat ".toList ≠ [] ∧ ':' ∉ " Cat ".toList ∧ Text.IsPlain " Cat ".toList := by decide
  have dog : "Dog".toList ≠ [] ∧ ':' ∉ "Dog".toList ∧ Text.IsPlain "Dog".toList := by decide
  have cow : "Cow".toList ≠ [] ∧ ':' ∉ "Cow".toList ∧ Text.IsPlain "Cow".toList := by decide
  refine ⟨?_, ?_, ?_⟩
  · have told : timestamp? (Lookup.exchange (changed.page " Cat ".toList) changed).1 =
        some (leapDay ⟨"2024".toList, rfl, rfl⟩).text := by decide +kernel
    obtain ⟨response, fields, answer, success, decoded, shaped, given⟩ := exists_response told
    obtain ⟨dated, -⟩ := updated_dated builtIn cat.1 cat.2.1 cat.2.2 pace
    exact (dated _ _ _ (fresh _) answer success decoded shaped given).processed canKeep
  · have told : timestamp? (Lookup.exchange (changed.page "Dog".toList) changed).1 =
        some (leapDay ⟨"1900".toList, rfl, rfl⟩).text := by decide +kernel
    obtain ⟨response, fields, answer, success, decoded, shaped, given⟩ := exists_response told
    obtain ⟨dated, -⟩ := updated_dated builtIn dog.1 dog.2.1 dog.2.2 pace
    exact (dated _ _ _ (fresh _) answer success decoded shaped given).processed canKeep
  · have degraded : (Lookup.summary (Text.trim "Cow".toList) changed).1.toOption.any
        Summary.isDegraded = true := by decide +kernel
    obtain ⟨record, looked, degraded⟩ := exists_ok_of_any degraded
    obtain ⟨-, missing⟩ := updated_dated builtIn cow.1 cow.2.1 cow.2.2 pace
    exact (missing record looked degraded).processed canKeep

end Service

end DocMarkers
