import DocMarkers.Proofs.Lookup.Answer
import DocMarkers.Reference.Journal

set_option autoImplicit false

namespace DocMarkers

variable {τ : Type} [Quantity τ]

namespace Lookup

theorem factOrSearchBy_preserves {σ : Type} {summary : Text → σ → Except Failure Summary × σ}
    {search : Text → Value → σ → Except Failure (List SearchHit) × σ} {holds : σ → Prop}
    (ofSummary : ∀ topic s, holds s → holds (summary topic s).2)
    (ofSearch : ∀ query limit s, holds s → holds (search query limit s).2) (topic : Text) {s : σ}
    (start : holds s) : holds (factOrSearchBy summary search topic s).2 := by
  have first := ofSummary topic s start
  unfold factOrSearchBy
  rcases answer : summary topic s with ⟨failure | direct, next⟩ <;> rw [answer] at first
  · exact first
  dsimp only
  split
  next => exact first
  next =>
    have second := ofSearch topic (.int 1) next first
    rcases found : search topic (.int 1) next with ⟨failure | _ | ⟨hit, _⟩, last⟩ <;>
      rw [found] at second
    · exact second
    · exact second
    · dsimp only
      split
      next title _ =>
        have third := ofSummary title last second
        rcases answer' : summary title last with ⟨failure | found, final⟩ <;> rw [answer'] at third
        · exact third
        · dsimp only
          split <;> exact third
      next => exact second

section Arrival

variable {topic : Text} {s : Session τ} {record : Summary}

theorem arrival?_of_fresh {stored : τ}
    (present : Entries.get? s.client.cache (Topic.normalize topic) = some (stored, record))
    (fresh : Cache.isExpired s.client.settings.lifetime s.world.clock stored = false) :
    arrival? topic s = none := by
  simp [arrival?, summary_of_fresh present fresh]

theorem arrival?_of_delivery (missed : s.Misses topic) (delivered : s.Delivers topic record) :
    arrival? topic s =
      some ⟨Topic.normalize topic, (s.afterAsking topic).world.clock, record⟩ := by
  have grown : (s.afterAsking topic).world.requests = s.world.requests ++ [s.page topic] := by
    obtain ⟨response, _, answer, -⟩ := delivered
    rw [Session.world_afterAsking, Session.requests_afterExchange, Session.sent,
      if_pos (answer_of_exchange answer).1]
  simp [arrival?, summary_of_delivery missed delivered, store, grown, delivered.whole]

theorem arrival?_of_lack (missed : s.Misses topic) (lacking : ∀ record, ¬ s.Delivers topic record) :
    arrival? topic s = none := by
  unfold arrival?
  split
  next record next given =>
    have answered := answered topic s
    rw [given] at answered
    cases answered with
    | kept present fresh => simp
    | arrives _ fetched built => exact absurd (delivers_iff.2 ⟨_, fetched, built⟩) (lacking _)
    | degrades => simp [Summary.degraded]
  next => rfl

end Arrival

namespace Journal

theorem session_factOrSearch (topic : Text) (j : Journal τ) :
    (j.factOrSearch topic).2.session = (Lookup.factOrSearch topic j.session).2 := by
  simp only [factOrSearch, Lookup.factOrSearch, factOrSearchBy, summary, search]
  rcases Lookup.summary topic j.session with ⟨failure | direct, next⟩
  · rfl
  dsimp only
  split
  next => rfl
  next =>
    rcases Lookup.search topic (.int 1) next with ⟨failure | _ | ⟨hit, _⟩, last⟩
    · rfl
    · rfl
    · dsimp only
      cases hit.title with
      | text title =>
        dsimp only
        rcases Lookup.summary title last with ⟨failure | found, final⟩
        · rfl
        · dsimp only
          split <;> rfl
      | _ => rfl

theorem session_note (j : Journal τ) (operation : Operation τ) :
    (j.note operation).session = perform j.session operation := by
  cases operation with
  | fact topic =>
    simp only [note, summary, perform, fact]
    rcases Lookup.summary topic j.session with ⟨failure | record, next⟩ <;> rfl
  | description topic =>
    simp only [note, summary, perform, description]
    rcases Lookup.summary topic j.session with ⟨failure | record, next⟩ <;> rfl
  | factOrSearch topic => exact session_factOrSearch topic j
  | _ => rfl

theorem session_noteAll (operations : List (Operation τ)) (j : Journal τ) :
    (j.noteAll operations).session = performAll operations j.session := by
  induction operations generalizing j with
  | nil => rfl
  | cons operation rest ih => exact (ih _).trans (congrArg (performAll rest) (session_note j operation))

theorem holds_noteAll (holds : Journal τ → Prop) {operations : List (Operation τ)}
    (ofSummary : ∀ topic j, holds j → holds (j.summary topic).2)
    (ofSearch : ∀ query limit j, holds j → holds (j.search query limit).2)
    (ofClearing : ∀ j, holds j → holds j.clearCache)
    (ofWait : ∀ seconds, .wait seconds ∈ operations → ∀ j, holds j → holds (j.wait seconds))
    {j : Journal τ} (start : holds j) : holds (j.noteAll operations) := by
  induction operations generalizing j with
  | nil => exact start
  | cons operation rest ih =>
    refine ih (fun seconds later => ofWait seconds (List.mem_cons_of_mem _ later)) ?_
    cases operation with
    | summary topic | fact topic | description topic => exact ofSummary topic j start
    | factOrSearch topic => exact factOrSearchBy_preserves ofSummary ofSearch topic start
    | search query limit => exact ofSearch query limit j start
    | clearCache => exact ofClearing j start
    | wait seconds => exact ofWait seconds List.mem_cons_self j start

end Journal

end Lookup

end DocMarkers
