import DocMarkers.Marker.Beginnings
import DocMarkers.Proofs.Generation.Useless
import DocMarkers.Proofs.Resolution.Together

set_option autoImplicit false

namespace DocMarkers

open Session (IgnoresModel IsInert)

variable {τ : Type} [Quantity τ]

namespace Lookup

theorem ignoresModel_exchange (request : Request) : IgnoresModel (@exchange τ _ request) := by
  intro s useless
  have address : s.withoutModel.world.addressOf = s.world.addressOf := rfl
  simp only [exchange, address]
  split
  next => exact ⟨rfl, useless⟩
  next address _ =>
    cases closed : s.client.isClosed with
    | true => simpa [Session.withoutModel, closed] using useless
    | false =>
      have after : ({ s with world := (s.world.send request).2 } : Session τ).IsUseless :=
        useless.withWorld rfl rfl rfl
      simpa [Session.withoutModel, closed, World.send, World.wait, World.withoutModel] using after

theorem ignoresModel_fetch (request : Request) : IgnoresModel (@fetch τ _ request) := by
  intro s useless
  obtain ⟨result, next, here, there, after⟩ := (ignoresModel_exchange request).run useless
  simp only [fetch, here, there]
  cases result with
  | ok response => exact ⟨rfl, after⟩
  | error failure =>
    dsimp only
    split <;> exact ⟨rfl, after⟩

theorem ignoresModel_cached (title : Text) : IgnoresModel (@cached τ _ title) :=
  fun _ useless => ⟨rfl, useless⟩

theorem ignoresModel_summary (topic : Text) : IgnoresModel (@summary τ _ topic) := by
  intro s useless
  obtain ⟨known, next, here, there, after⟩ :=
    (ignoresModel_cached (Topic.normalize topic)).run useless
  simp only [summary, here, there]
  cases known with
  | some summary => exact ⟨rfl, after⟩
  | none =>
    have client : next.withoutModel.client = next.client := rfl
    obtain ⟨answer, last, here, there, after⟩ := (ignoresModel_fetch
      (.page next.client.settings.baseUrl (Topic.normalize topic))).run after
    have today : last.withoutModel.world.today = last.world.today := rfl
    simp only [client, here, there]
    rcases answer with failure | _ | value
    · exact ⟨rfl, after⟩
    · exact ⟨rfl, after⟩
    · cases value with
      | object fields =>
        simp only [today]
        cases Summary.ofFields fields topic last.world.today with
        | error failure => exact ⟨rfl, after⟩
        | ok summary => exact ⟨rfl, after⟩
      | _ => exact ⟨rfl, after⟩

theorem ignoresModel_fact (topic : Text) : IgnoresModel (@fact τ _ topic) := by
  intro s useless
  obtain ⟨result, next, here, there, after⟩ := (ignoresModel_summary topic).run useless
  simp only [fact, here, there]
  cases result <;> exact ⟨rfl, after⟩

theorem ignoresModel_search (query : Text) (limit : Value) :
    IgnoresModel (@search τ _ query limit) := by
  intro s useless
  have client : s.withoutModel.client = s.client := rfl
  obtain ⟨answer, next, here, there, after⟩ := (ignoresModel_fetch
    (.search s.client.settings.searchUrl query limit.render)).run useless
  simp only [search, client, here, there]
  rcases answer with failure | _ | value
  · exact ⟨rfl, after⟩
  · exact ⟨rfl, after⟩
  · cases value <;> exact ⟨rfl, after⟩

theorem ignoresModel_factOrSearch (topic : Text) : IgnoresModel (@factOrSearch τ _ topic) := by
  intro s useless
  obtain ⟨direct, next, here, there, after⟩ := (ignoresModel_summary topic).run useless
  simp only [factOrSearch, factOrSearchBy, here, there]
  rcases direct with failure | direct
  · exact ⟨rfl, after⟩
  dsimp only
  split
  next => exact ⟨rfl, after⟩
  next =>
    obtain ⟨hits, next, here, there, after⟩ := (ignoresModel_search topic (.int 1)).run after
    simp only [here, there]
    rcases hits with failure | _ | ⟨hit, hits⟩
    · exact ⟨rfl, after⟩
    · exact ⟨rfl, after⟩
    · cases kind : hit.title with
      | text title =>
        obtain ⟨found, next, here, there, after⟩ := (ignoresModel_summary title).run after
        simp only [kind, here, there]
        rcases found with failure | found
        · exact ⟨rfl, after⟩
        · dsimp only
          split <;> exact ⟨rfl, after⟩
      | _ => simpa only [kind, true_and] using after

end Lookup

namespace Builtin

open Writer (isInert_complete isInert_fillSentence)

theorem ignoresModel_facts (searches : Bool) (topic : Text) :
    IgnoresModel (@facts τ _ searches topic) := by
  cases searches with
  | true => exact Lookup.ignoresModel_factOrSearch topic
  | false => exact Lookup.ignoresModel_fact topic

theorem isInert_result (result : Except Failure Value) :
    IsInert fun s : Session τ => (result, s) :=
  ⟨result, fun s useless => ⟨rfl, s, rfl, rfl, useless⟩⟩

theorem isInert_written {write : Session τ → Written τ} (inert : IsInert write) :
    IsInert fun s => written (write s) := by
  obtain ⟨text, comesTo⟩ := inert
  refine ⟨text.map .text, fun s useless => ?_⟩
  obtain ⟨viewed, next, here, unseen, after⟩ := comesTo s useless
  exact ⟨by simp only [written, viewed], next, by simp only [written, here], unseen, after⟩

theorem isInert_fromPassage (value : Value) {write : Passage → Session τ → Written τ}
    (inert : ∀ passage, IsInert (write passage)) : IsInert (fromPassage value write) := by
  unfold fromPassage
  cases Passage.ofValue value with
  | error failure => exact isInert_result (.error failure)
  | ok passage => exact isInert_written (inert passage)

theorem isInert_fromText (value : Value) {write : Text → Session τ → Written τ}
    (inert : ∀ text, IsInert (write text)) : IsInert (fromText value write) := by
  unfold fromText
  cases (Passage.ofValue value).bind Passage.text? with
  | error failure => exact isInert_result (.error failure)
  | ok text => exact isInert_written (inert text)

theorem isInert_enrichFrom (sentence : Text) (value : Value) :
    IsInert (@enrichFrom τ _ sentence value) := by
  unfold enrichFrom
  split
  next =>
    cases value with
    | text fact => exact isInert_written (isInert_fillSentence fact sentence none)
    | _ => exact isInert_result (.error .wrongKind)
  next => exact isInert_fromPassage value fun passage => isInert_complete _ _ _ _

theorem isInert_answerSimple (question : Text) : IsInert (@answerSimple τ _ question) :=
  isInert_written (isInert_complete _ _ _ _)

theorem isInert_telling {act : Session τ → Except Failure Value × Session τ} (inert : IsInert act) :
    IsInert (telling act) := by
  obtain ⟨result, comesTo⟩ := inert
  refine ⟨result.mapError .told, fun s useless => ?_⟩
  obtain ⟨viewed, next, here, unseen, after⟩ := comesTo s useless
  exact ⟨by simp only [telling, viewed], next, by simp only [telling, here], unseen, after⟩

theorem ignoresModel_telling {act : Session τ → Except Failure Value × Session τ}
    (ignores : IgnoresModel act) : IgnoresModel (telling act) := by
  intro s useless
  obtain ⟨result, next, here, there, after⟩ := ignores.run useless
  simp only [telling, here, there, true_and]
  exact after

abbrev IsUnseen (beginning : Beginning (Session τ)) : Prop :=
  beginning.IsUnseen Session.withoutModel Session.IsUseless

theorem isUnseen_lookUpFirst {α : Type} {look : Session τ → Except Failure α × Session τ}
    (ignores : IgnoresModel look) {next : α → Session τ → Except Failure Value × Session τ}
    (inert : ∀ found, IsInert (next found)) : IsUnseen (lookUpFirst look next) := by
  intro s useless
  obtain ⟨answer, last, here, there, after⟩ := ignores.run useless
  simp only [Beginning.finish, lookUpFirst, here, there]
  cases answer with
  | error failure => exact ⟨_, last, _, rfl, after, rfl, rfl⟩
  | ok found =>
    obtain ⟨result, comesTo⟩ := isInert_telling (inert found)
    exact ⟨_, last, result, rfl, after, fun s useless => (comesTo s useless).2,
      (comesTo last after).1⟩

theorem isUnseen_waitFor {act : Session τ → Except Failure Value × Session τ}
    (inert : IsInert act) : IsUnseen (waitFor act) := by
  intro s useless
  obtain ⟨result, comesTo⟩ := isInert_telling inert
  exact ⟨_, s, result, rfl, useless, fun s useless => (comesTo s useless).2,
    (comesTo s useless).1⟩

theorem isUnseen_doAtOnce {act : Session τ → Except Raised Value × Session τ}
    (ignores : IgnoresModel act) : IsUnseen (doAtOnce act) := by
  intro s useless
  obtain ⟨result, next, here, there, after⟩ := ignores.run useless
  simp only [Beginning.finish, doAtOnce, here, there]
  exact ⟨_, next, result, rfl, after, rfl, rfl⟩

theorem ignoresModel_content (arguments : List Text) :
    IgnoresModel (@complete τ arguments) := by
  rcases arguments with _ | ⟨content, _ | _⟩ <;> exact (isInert_result _).respects

theorem ignoresModel_withSummary (topic : Text)
    {next : Summary → Session τ → Except Failure Value × Session τ}
    (ignores : ∀ summary, IgnoresModel (next summary)) :
    IgnoresModel (withSummary topic next) := by
  intro s useless
  obtain ⟨result, last, here, there, after⟩ := (Lookup.ignoresModel_summary topic).run useless
  simp only [withSummary, here, there]
  cases result with
  | error failure => exact ⟨rfl, after⟩
  | ok summary => exact ignores summary last after

theorem ignoresModel_link (arguments : List Text) : IgnoresModel (@link τ _ arguments) := by
  rcases arguments with _ | ⟨topic, _ | _⟩
  · exact (isInert_result _).respects
  · exact ignoresModel_withSummary topic fun summary _ useless => ⟨rfl, useless⟩
  · exact (isInert_result _).respects

theorem ignoresModel_updated (arguments : List Text) : IgnoresModel (@updated τ _ arguments) := by
  rcases arguments with _ | ⟨topic, _ | _⟩
  · exact (isInert_result _).respects
  · exact ignoresModel_withSummary topic fun summary => (isInert_result _).respects
  · exact (isInert_result _).respects

/-- How a handler begins: what it does up to its wait and after makes up all that it does, and a
useless generator makes no difference. -/
structure Begins (act : Session τ → Except Failure Value × Session τ)
    (beginning : Beginning (Session τ)) : Prop where
  unseen : IsUnseen beginning
  agrees : beginning.finish = telling act

theorem begins_waitFor {act : Session τ → Except Failure Value × Session τ}
    (inert : IsInert act) : Begins act (waitFor act) :=
  ⟨isUnseen_waitFor inert, rfl⟩

theorem begins_doAtOnce {act : Session τ → Except Failure Value × Session τ}
    (ignores : IgnoresModel act) : Begins act (doAtOnce (telling act)) :=
  ⟨isUnseen_doAtOnce (ignoresModel_telling ignores), rfl⟩

theorem begins_withSummary (topic : Text)
    {next : Summary → Session τ → Except Failure Value × Session τ}
    (inert : ∀ summary, IsInert (next summary)) :
    Begins (withSummary topic next) (lookUpFirst (Lookup.summary topic) next) := by
  refine ⟨isUnseen_lookUpFirst (Lookup.ignoresModel_summary topic) inert, funext fun s => ?_⟩
  simp only [telling, withSummary, Beginning.finish, lookUpFirst]
  rcases Lookup.summary topic s with ⟨_ | _, s⟩ <;> rfl

theorem begins_withFacts (searches : Bool) (topic : Text)
    {next : Value → Session τ → Except Failure Value × Session τ}
    (inert : ∀ value, IsInert (next value)) :
    Begins (withFacts searches topic next) (lookUpFirst (facts searches topic) next) := by
  refine ⟨isUnseen_lookUpFirst (ignoresModel_facts searches topic) inert, funext fun s => ?_⟩
  simp only [telling, withFacts, Beginning.finish, lookUpFirst]
  rcases facts searches topic s with ⟨_ | _, s⟩ <;> rfl

theorem begins_refusal : Begins (fun s : Session τ => (.error .wrongKind, s))
    refuse :=
  begins_doAtOnce (isInert_result _).respects

theorem begins_fact (searches : Bool) (arguments : List Text) :
    Begins (@fact τ _ searches arguments) (beginFact searches arguments) := by
  rcases arguments with _ | ⟨topic, _ | _⟩
  · exact begins_refusal
  · exact begins_withFacts searches topic fun value =>
      isInert_fromPassage value fun passage => isInert_complete _ _ _ _
  · exact begins_refusal

theorem begins_describe (arguments : List Text) :
    Begins (@describe τ _ arguments) (beginDescribe arguments) := by
  rcases arguments with _ | ⟨topic, _ | _⟩
  · exact begins_refusal
  · exact begins_withSummary topic fun summary =>
      isInert_fromText summary.extract fun text => isInert_complete _ _ _ _
  · exact begins_refusal

theorem begins_enrich (searches : Bool) (arguments : List Text) :
    Begins (@enrich τ _ searches arguments) (beginEnrich searches arguments) := by
  rcases arguments with _ | ⟨topic, _ | ⟨sentence, _ | _⟩⟩
  · exact begins_refusal
  · exact begins_refusal
  · exact begins_withFacts searches topic (isInert_enrichFrom sentence)
  · exact begins_refusal

theorem begins_paragraph (arguments : List Text) :
    Begins (@paragraph τ _ arguments) (beginParagraph arguments) := by
  rcases arguments with _ | ⟨topic, _ | _⟩
  · exact begins_refusal
  · exact begins_withSummary topic fun summary =>
      isInert_fromPassage summary.extract fun passage => isInert_complete _ _ _ _
  · exact begins_refusal

theorem begins_summary (arguments : List Text) :
    Begins (@summary τ _ arguments) (beginSummary arguments) := by
  rcases arguments with _ | ⟨topic, _ | _⟩
  · exact begins_refusal
  · exact begins_withSummary topic fun summary =>
      isInert_fromPassage summary.extract fun passage => isInert_complete _ _ _ _
  · exact begins_refusal

theorem begins_answer (searches : Bool) (arguments : List Text) :
    Begins (@answer τ _ searches arguments) (beginAnswer searches arguments) := by
  rcases arguments with _ | ⟨topic, _ | ⟨question, _ | _⟩⟩
  · exact begins_refusal
  · exact begins_waitFor (isInert_answerSimple topic)
  · cases blank : question.isEmpty with
    | true =>
      have simply : @answer τ _ searches [topic, question] = answerSimple topic :=
        funext fun s => by simp only [answer, blank, if_true]
      simpa only [simply, beginAnswer, blank, if_true] using
        begins_waitFor (isInert_answerSimple topic)
    | false =>
      have informed : @answer τ _ searches [topic, question] =
          withFacts searches topic fun value =>
            fromPassage value (Writer.answerQuestion none question) :=
        funext fun s => by simp [answer, blank]
      have begins : @beginAnswer τ _ searches [topic, question] =
          lookUpFirst (facts searches topic) fun value =>
            fromPassage value (Writer.answerQuestion none question) := by
        simp [beginAnswer, blank]
      rw [informed, begins]
      exact begins_withFacts searches topic fun value =>
        isInert_fromPassage value fun passage => isInert_complete _ _ _ _
  · exact begins_refusal

theorem begins_specs (searches : Bool) {spec : MarkerSpec (Session τ)}
    (member : spec ∈ specs searches) (arguments : List Text) :
    ∃ act, spec.handler arguments = telling act ∧
      Begins act (beginnings searches spec arguments) := by
  simp only [specs, List.mem_cons, List.not_mem_nil, or_false] at member
  rcases member with rfl | rfl | rfl | rfl | rfl | rfl | rfl | rfl | rfl
  · exact ⟨_, rfl, begins_fact searches arguments⟩
  · exact ⟨_, rfl, begins_describe arguments⟩
  · exact ⟨_, rfl, begins_enrich searches arguments⟩
  · exact ⟨_, rfl, begins_doAtOnce (ignoresModel_content arguments)⟩
  · exact ⟨_, rfl, begins_paragraph arguments⟩
  · exact ⟨_, rfl, begins_summary arguments⟩
  · exact ⟨_, rfl, begins_answer searches arguments⟩
  · exact ⟨_, rfl, begins_doAtOnce (ignoresModel_link arguments)⟩
  · exact ⟨_, rfl, begins_doAtOnce (ignoresModel_updated arguments)⟩

end Builtin

end DocMarkers
