import DocMarkers.Proofs.Lookup.Journal
import DocMarkers.Proofs.Lookup.Shape

set_option autoImplicit false

namespace DocMarkers

theorem eq_of_fst {α β : Type} {pair : α × β} {first : α} (given : pair.1 = first) :
    pair = (first, pair.2) :=
  Prod.ext given rfl

theorem Value.exists_text {value : Value} (expected : value.isMissingOr isText = true) :
    ∃ text, value.orElse (.text []) = .text text := by
  unfold orElse
  unfold isMissingOr at expected
  cases present : value.isPresent with
  | false => exact ⟨[], rfl⟩
  | true =>
    cases value with
    | text text => exact ⟨text, rfl⟩
    | _ => simp [present, isText] at expected

def Value.hasText : Value → Bool
  | object fields => (field fields "extract".toList).isMissingOr isText
  | _ => true

namespace Summary

structure Tells (record : Summary) (text : Text) : Prop where
  whole : record.isDegraded = false
  extract : record.extract = .text text
  nonempty : text ≠ []

theorem tells_of_isUsable {record : Summary} {text : Text} (extract : record.extract = .text text)
    (usable : Lookup.isUsable record = true) : record.Tells text := by
  simp only [Lookup.isUsable, extract, Value.isPresent, Bool.and_eq_true, Bool.not_eq_true',
    List.isEmpty_eq_false_iff] at usable
  exact ⟨usable.1, extract, usable.2⟩

theorem exists_extract {fields : List (Text × Value)} {topic today : Text} {record : Summary}
    (built : ofFields fields topic today = .ok record)
    (expected : (Value.object fields).hasText = true) : ∃ text, record.extract = .text text := by
  rw [(isOf_of_ofFields built).extract]
  exact Value.exists_text expected

theorem extract_degraded_ne_notFound (name today topic : Text) :
    (degraded name today).extract ≠ Lookup.notFound topic := by
  intro same
  simp only [degraded, Lookup.notFound, Value.text.injEq] at same
  -- They part at the twelfth character.
  have apart : some 'e' = some 'i' := congrArg (fun text => text[11]?) same
  contradiction

end Summary

variable {τ : Type}

def World.SendsTexts (world : World τ) : Prop :=
  ∀ earlier request response value, (world.server earlier request).outcome = .ok response →
    response.Brings world.readDepth value → value.hasText = true

def Request.isSearch : Request → Bool
  | page _ _ => false
  | search _ _ _ => true

namespace Session

structure HasTexts (s : Session τ) : Prop where
  sends : s.world.SendsTexts
  kept : ∀ title entry, Entries.get? s.client.cache title = some entry →
    ∃ text, entry.2.extract = .text text

def Asks (pages searches : Nat) (s next : Session τ) : Prop :=
  ∃ sent, next.world.requests = s.world.requests ++ sent ∧
    sent.countP (fun request => !request.isSearch) ≤ pages ∧
      sent.countP Request.isSearch ≤ searches

theorem Asks.trans {pages searches pages' searches' : Nat} {s next last : Session τ}
    (first : s.Asks pages searches next) (second : next.Asks pages' searches' last) :
    s.Asks (pages + pages') (searches + searches') last := by
  obtain ⟨sent, grown, ofPages, ofSearches⟩ := first
  obtain ⟨sent', grown', ofPages', ofSearches'⟩ := second
  refine ⟨sent ++ sent', by rw [grown', grown, List.append_assoc], ?_, ?_⟩
  · rw [List.countP_append]
    exact Nat.add_le_add ofPages ofPages'
  · rw [List.countP_append]
    exact Nat.add_le_add ofSearches ofSearches'

theorem Asks.mono {pages searches pages' searches' : Nat} {s next : Session τ}
    (asks : s.Asks pages searches next) (ofPages : pages ≤ pages')
    (ofSearches : searches ≤ searches') : s.Asks pages' searches' next :=
  let ⟨sent, grown, within, within'⟩ := asks
  ⟨sent, grown, Nat.le_trans within ofPages, Nat.le_trans within' ofSearches⟩

end Session

namespace Lookup

variable [Quantity τ] {topic : Text} {s : Session τ}

theorem asks_afterExchange (request : Request) (s : Session τ) :
    s.Asks (if request.isSearch then 0 else 1) (if request.isSearch then 1 else 0)
      (s.afterExchange request) := by
  refine ⟨s.sent request, Session.requests_afterExchange request s, ?_⟩
  unfold Session.sent
  split <;> cases kind : request.isSearch <;> simp [kind]

theorem asks_summary (topic : Text) (s : Session τ) : s.Asks 1 0 (summary topic s).2 := by
  rcases misses_or_keeps topic s with missed | ⟨stored, record, present, fresh⟩
  · unfold Session.Asks
    rw [world_of_misses missed]
    exact asks_afterExchange (s.page topic) s
  · rw [summary_of_fresh present fresh]
    exact ⟨[], (List.append_nil _).symm, Nat.zero_le _, Nat.zero_le _⟩

theorem asks_search (query : Text) (limit : Value) (s : Session τ) :
    s.Asks 0 1 (search query limit s).2 := by
  rw [search_eq]
  exact asks_afterExchange (s.searchFor query limit) s

theorem present_of_summary {title : Text} {entry : τ × Summary}
    (present : Entries.get? (summary topic s).2.client.cache title = some entry) :
    Entries.get? s.client.cache title = some entry ∨
      title = Topic.normalize topic ∧ (summary topic s).1 = .ok entry.2 := by
  have answered := answered topic s
  generalize (summary topic s).1 = result at *
  generalize (summary topic s).2 = next at *
  cases answered with
  | kept => exact .inl present
  | arrives missed =>
    rcases present_of_store present with ⟨same, rfl⟩ | ⟨-, present⟩
    · exact .inr ⟨same, rfl⟩
    · rw [Session.client_afterAsking] at present
      exact .inl (present_of_forgetting missed present)
  | isMisshapen missed | degrades missed | fails missed =>
    rw [Session.client_afterAsking] at present
    exact .inl (present_of_forgetting missed present)

theorem server_summary (topic : Text) (s : Session τ) :
    (summary topic s).2.world.server = s.world.server ∧
      (summary topic s).2.world.readDepth = s.world.readDepth := by
  rcases misses_or_keeps topic s with missed | ⟨stored, record, present, fresh⟩
  · rw [world_of_misses missed, Session.server_afterExchange, Session.readDepth_afterExchange]
    exact ⟨rfl, rfl⟩
  · rw [summary_of_fresh present fresh]
    exact ⟨rfl, rfl⟩

theorem exists_extract (hasTexts : s.HasTexts) {record : Summary}
    (given : (summary topic s).1 = .ok record) : ∃ text, record.extract = .text text := by
  have answered := answered topic s
  rw [given] at answered
  generalize (summary topic s).2 = next at answered
  cases answered with
  | kept present => exact hasTexts.kept _ _ present
  | arrives _ fetched built =>
    obtain ⟨response, answer, brings⟩ := fetch_eq_some_iff.1 fetched
    exact Summary.exists_extract built
      (hasTexts.sends _ _ _ _ (answer_of_exchange answer).2 brings)
  | degrades => exact ⟨_, rfl⟩

theorem hasTexts_summary (topic : Text) (s : Session τ) (hasTexts : s.HasTexts) :
    (summary topic s).2.HasTexts where
  sends := by
    unfold World.SendsTexts
    rw [(server_summary topic s).1, (server_summary topic s).2]
    exact hasTexts.sends
  kept title entry present := by
    rcases present_of_summary present with present | ⟨-, given⟩
    · exact hasTexts.kept title entry present
    · exact exists_extract hasTexts given

theorem hasTexts_search (query : Text) (limit : Value) (s : Session τ) (hasTexts : s.HasTexts) :
    (search query limit s).2.HasTexts := by
  rw [search_eq]
  refine ⟨?_, ?_⟩
  · unfold World.SendsTexts
    rw [Session.server_afterExchange, Session.readDepth_afterExchange]
    exact hasTexts.sends
  · rw [Session.client_afterExchange]
    exact hasTexts.kept

theorem hasTexts_perform (hasTexts : s.HasTexts) (operation : Operation τ) :
    (perform s operation).HasTexts := by
  have noted : (Journal.noteAll [operation] { session := s }).session.HasTexts :=
    Journal.holds_noteAll (fun j => j.session.HasTexts)
      (fun topic j => hasTexts_summary topic j.session)
      (fun query limit j => hasTexts_search query limit j.session)
      (fun _ hasTexts => ⟨hasTexts.sends, nofun⟩)
      (fun _ _ _ hasTexts => ⟨hasTexts.sends, hasTexts.kept⟩) hasTexts
  rwa [Journal.session_noteAll] at noted

/-- The sessions that come of lookups, one after another, also once the client is closed. -/
inductive Reached (start : Session τ) : Session τ → Prop
  | start : Reached start start
  | perform {s : Session τ} (reached : Reached start s) (operation : Operation τ) :
    Reached start (perform s operation)
  | close {s : Session τ} (reached : Reached start s) : Reached start (close s)

theorem Reached.hasTexts {start : Session τ} (reached : Reached start s)
    (hasTexts : start.HasTexts) : s.HasTexts := by
  induction reached with
  | start => exact hasTexts
  | perform _ operation ih => exact hasTexts_perform ih operation
  | close _ ih => exact ⟨ih.sends, ih.kept⟩

section FactOrSearch

variable (topic : Text) (s : Session τ)

def Searches : Prop := ∃ record, (summary topic s).1 = .ok record ∧ isUsable record = false

def hits : Except Failure (List SearchHit) := (search topic (.int 1) (summary topic s).2).1

def afterHits : Session τ := (search topic (.int 1) (summary topic s).2).2

def Retries (title : Text) : Prop :=
  Searches topic s ∧ ∃ hit others, hits topic s = .ok (hit :: others) ∧ hit.title = .text title

inductive Found : Except Failure Value → Session τ → Prop
  | directly {record : Summary} (given : (summary topic s).1 = .ok record)
      (usable : isUsable record = true) :
    Found (.ok record.extract) (summary topic s).2
  | nowhere (searches : Searches topic s) (none : hits topic s = .ok []) :
    Found (.ok (notFound topic)) (afterHits topic s)
  | elsewhere {title : Text} {record : Summary} (retries : Retries topic s title)
      (given : (summary title (afterHits topic s)).1 = .ok record)
      (usable : isUsable record = true) :
    Found (.ok record.extract) (summary title (afterHits topic s)).2
  | inVain {title : Text} {record : Summary} (retries : Retries topic s title)
      (given : (summary title (afterHits topic s)).1 = .ok record)
      (useless : isUsable record = false) :
    Found (.ok (notFound topic)) (summary title (afterHits topic s)).2
  | summaryFails {failure : Failure} (failed : (summary topic s).1 = .error failure) :
    Found (.error failure) (summary topic s).2
  | searchFails {failure : Failure} (searches : Searches topic s)
      (failed : hits topic s = .error failure) :
    Found (.error failure) (afterHits topic s)
  | isUntitled {hit : SearchHit} {others : List SearchHit} (searches : Searches topic s)
      (some : hits topic s = .ok (hit :: others)) (untitled : ∀ title, hit.title ≠ .text title) :
    Found (.error .noSuchPart) (afterHits topic s)
  | retryFails {title : Text} {failure : Failure} (retries : Retries topic s title)
      (failed : (summary title (afterHits topic s)).1 = .error failure) :
    Found (.error failure) (summary title (afterHits topic s)).2

theorem found : Found topic s (factOrSearch topic s).1 (factOrSearch topic s).2 := by
  unfold factOrSearch factOrSearchBy
  rcases given : (summary topic s).1 with failure | direct <;> rw [eq_of_fst given] <;>
    dsimp only
  · exact .summaryFails given
  cases usable : isUsable direct with
  | true => exact .directly given usable
  | false =>
    have searches : Searches topic s := ⟨direct, given, usable⟩
    have after {result : Except Failure (List SearchHit)} (found : hits topic s = result) :
        search topic (.int 1) (summary topic s).2 = (result, afterHits topic s) :=
      eq_of_fst found
    simp only [Bool.false_eq_true, if_false]
    rcases listed : hits topic s with failure | _ | ⟨hit, others⟩ <;> rw [after listed] <;>
      dsimp only
    · exact .searchFails searches listed
    · exact .nowhere searches listed
    · cases titled : hit.title with
      | text title =>
        have retries : Retries topic s title := ⟨searches, hit, others, listed, titled⟩
        dsimp only
        rcases retried : (summary title (afterHits topic s)).1 with failure | record <;>
          rw [eq_of_fst retried] <;> dsimp only
        · exact .retryFails retries retried
        · cases usable : isUsable record with
          | true =>
            simp only [if_true]
            exact .elsewhere retries retried usable
          | false =>
            simp only [Bool.false_eq_true, if_false]
            exact .inVain retries retried usable
      | _ =>
        dsimp only
        exact .isUntitled searches listed (by simp [titled])

variable {topic s}

theorem not_searches {record : Summary} (given : (summary topic s).1 = .ok record)
    (usable : isUsable record = true) : ¬ Searches topic s := by
  rintro ⟨other, given', useless⟩
  rw [given] at given'
  cases given'
  rw [usable] at useless
  contradiction

theorem Retries.unique {title other : Text} (retries : Retries topic s title)
    (retries' : Retries topic s other) : title = other := by
  obtain ⟨-, hit, others, listed, titled⟩ := retries
  obtain ⟨-, hit', others', listed', titled'⟩ := retries'
  rw [listed] at listed'
  cases listed'
  rw [titled] at titled'
  cases titled'
  rfl

theorem asks_afterHits (topic : Text) (s : Session τ) : s.Asks 1 1 (afterHits topic s) :=
  (asks_summary topic s).trans (asks_search topic (.int 1) (summary topic s).2)

theorem present_of_afterHits {title : Text} {entry : τ × Summary}
    (present : Entries.get? (afterHits topic s).client.cache title = some entry) :
    Entries.get? s.client.cache title = some entry ∨
      title = Topic.normalize topic ∧ (summary topic s).1 = .ok entry.2 := by
  rw [afterHits, search_eq, Session.client_afterExchange] at present
  exact present_of_summary present

/-- None of the lookups that a fact takes fails. A title that is no text could not be looked up. -/
structure IsUnfailing (topic : Text) (s : Session τ) : Prop where
  direct : ∃ record, (summary topic s).1 = .ok record
  search : Searches topic s → ∃ found, hits topic s = .ok found
  titled : Searches topic s → ∀ hit others, hits topic s = .ok (hit :: others) →
    ∃ title, hit.title = .text title
  retry : ∀ title, Retries topic s title →
    ∃ record, (summary title (afterHits topic s)).1 = .ok record

namespace Found

variable {given : Except Failure Value} {after : Session τ}

theorem asks (found : Found topic s given after) : s.Asks 2 1 after := by
  cases found with
  | directly | summaryFails => exact (asks_summary topic s).mono (by decide) (by decide)
  | nowhere | searchFails | isUntitled =>
    exact (asks_afterHits topic s).mono (by decide) (Nat.le_refl 1)
  | elsewhere | inVain | retryFails => exact (asks_afterHits topic s).trans (asks_summary _ _)

theorem asks_of_isUsable (found : Found topic s given after) {record : Summary}
    (direct : (summary topic s).1 = .ok record) (usable : isUsable record = true) :
    s.Asks 1 0 after := by
  have content := not_searches direct usable
  cases found with
  | directly | summaryFails => exact asks_summary topic s
  | nowhere searches | searchFails searches | isUntitled searches => exact absurd searches content
  | elsewhere retries | inVain retries | retryFails retries => exact absurd retries.1 content

theorem present (found : Found topic s given after) {title : Text} {entry : τ × Summary}
    (present : Entries.get? after.client.cache title = some entry) :
    Entries.get? s.client.cache title = some entry ∨
      title = Topic.normalize topic ∧ (summary topic s).1 = .ok entry.2 ∨
        ∃ other, Retries topic s other ∧ title = Topic.normalize other ∧
          (summary other (afterHits topic s)).1 = .ok entry.2 := by
  cases found with
  | directly | summaryFails => exact (present_of_summary present).imp_right .inl
  | nowhere | searchFails | isUntitled => exact (present_of_afterHits present).imp_right .inl
  | elsewhere retries | inVain retries | retryFails retries =>
    rcases present_of_summary present with present | ⟨same, brought⟩
    · exact (present_of_afterHits present).imp_right .inl
    · exact .inr (.inr ⟨_, retries, same, brought⟩)

end Found

theorem isUnfailing_iff : IsUnfailing topic s ↔ ∃ value, (factOrSearch topic s).1 = .ok value := by
  have found := found topic s
  generalize (factOrSearch topic s).1 = given at found ⊢
  generalize (factOrSearch topic s).2 = after at found
  constructor
  · intro unfailing
    cases found with
    | directly | nowhere | elsewhere | inVain => exact ⟨_, rfl⟩
    | summaryFails failed =>
      obtain ⟨record, given⟩ := unfailing.direct
      rw [given] at failed
      contradiction
    | searchFails searches failed =>
      obtain ⟨found, listed⟩ := unfailing.search searches
      rw [listed] at failed
      contradiction
    | isUntitled searches listed untitled =>
      obtain ⟨title, titled⟩ := unfailing.titled searches _ _ listed
      exact absurd titled (untitled title)
    | retryFails retries failed =>
      obtain ⟨record, given⟩ := unfailing.retry _ retries
      rw [given] at failed
      contradiction
  · rintro ⟨value, rfl⟩
    cases found with
    | directly given usable =>
      have content := not_searches given usable
      exact
        { direct := ⟨_, given⟩
          search := fun searches => absurd searches content
          titled := fun searches => absurd searches content
          retry := fun _ retries => absurd retries.1 content }
    | nowhere searches none =>
      have empty : ∀ hit others, hits topic s ≠ .ok (hit :: others) := by simp [none]
      exact
        { direct := searches.imp fun _ => And.left
          search := fun _ => ⟨[], none⟩
          titled := fun _ hit others listed => absurd listed (empty hit others)
          retry := fun _ ⟨_, hit, others, listed, _⟩ => absurd listed (empty hit others) }
    | elsewhere retries given | inVain retries given =>
      obtain ⟨searches, hit, others, listed, titled⟩ := retries
      exact
        { direct := searches.imp fun _ => And.left
          search := fun _ => ⟨hit :: others, listed⟩
          titled := fun _ hit' others' listed' => by
            rw [listed] at listed'
            cases listed'
            exact ⟨_, titled⟩
          retry := fun title retries => by
            rw [retries.unique ⟨searches, hit, others, listed, titled⟩]
            exact ⟨_, given⟩ }

/-- What a fact comes to: the extract of a whole record, of the topic or of the title that is tried then, or
that neither has one. -/
inductive Answers (topic : Text) (s : Session τ) : Value → Prop
  | direct {record : Summary} {text : Text} (given : (summary topic s).1 = .ok record)
      (tells : record.Tells text) : Answers topic s (.text text)
  | retried {title : Text} {record : Summary} {text : Text} (retries : Retries topic s title)
      (given : (summary title (afterHits topic s)).1 = .ok record) (tells : record.Tells text) :
    Answers topic s (.text text)
  | nothing (searches : Searches topic s)
      (useless : ∀ title record, Retries topic s title →
        (summary title (afterHits topic s)).1 = .ok record → isUsable record = false) :
    Answers topic s (notFound topic)

theorem Found.answers {value : Value} {after : Session τ} (found : Found topic s (.ok value) after)
    (hasTexts : s.HasTexts) : Answers topic s value := by
  cases found with
  | directly given usable =>
    obtain ⟨text, extract⟩ := exists_extract hasTexts given
    rw [extract]
    exact .direct given (Summary.tells_of_isUsable extract usable)
  | nowhere searches none =>
    refine .nothing searches fun title record retries => ?_
    obtain ⟨-, hit, others, tried, -⟩ := retries
    rw [none] at tried
    nomatch tried
  | elsewhere retries given usable =>
    have later : (afterHits topic s).HasTexts :=
      hasTexts_search _ _ _ (hasTexts_summary topic s hasTexts)
    obtain ⟨text, extract⟩ := exists_extract later given
    rw [extract]
    exact .retried retries given (Summary.tells_of_isUsable extract usable)
  | inVain retries given useless =>
    refine .nothing retries.1 fun title record retries' given' => ?_
    rw [retries'.unique retries, given] at given'
    cases given'
    exact useless

end FactOrSearch

/-- If no lookup fails, a fact is the extract of a whole record or tells that there is none. What a degraded
record tells is no fact. Two pages are asked for at most and one search, none for a topic whose own record
will do, and no other records get into the cache. -/
theorem fact_of_whole_record {start s : Session τ} (empty : start.client.cache = [])
    (sends : start.world.SendsTexts) (reached : Reached start s) {topic : Text}
    (unfailing : IsUnfailing topic s) :
    let after := (factOrSearch topic s).2
    (∃ value, (factOrSearch topic s).1 = .ok value ∧ Answers topic s value) ∧
      (∀ name today, (Summary.degraded name today).extract ≠ notFound topic) ∧
      s.Asks 2 1 after ∧
      (∀ record, (summary topic s).1 = .ok record → isUsable record = true → s.Asks 1 0 after) ∧
      ∀ title entry, Entries.get? after.client.cache title = some entry →
        Entries.get? s.client.cache title = some entry ∨
          title = Topic.normalize topic ∧ (summary topic s).1 = .ok entry.2 ∨
            ∃ other, Retries topic s other ∧ title = Topic.normalize other ∧
              (summary other (afterHits topic s)).1 = .ok entry.2 := by
  have none : ∀ title entry, Entries.get? start.client.cache title = some entry →
      ∃ text, entry.2.extract = .text text := by
    rw [empty]
    exact nofun
  have hasTexts : s.HasTexts := reached.hasTexts ⟨sends, none⟩
  have found := found topic s
  obtain ⟨value, given⟩ := isUnfailing_iff.1 unfailing
  have succeeds : Found topic s (.ok value) (factOrSearch topic s).2 := by rwa [given] at found
  exact ⟨⟨value, given, succeeds.answers hasTexts⟩,
    fun name today => Summary.extract_degraded_ne_notFound name today topic, found.asks,
    fun record => found.asks_of_isUsable, fun title entry => found.present⟩

-- Only one page is there. It is young when it is found, and past its lifetime when it is asked for again.
def renamed : Session Rat :=
  .facing fun _ request =>
    match request with
    | .page _ title =>
      if title = "Felis".toList then
        ⟨.ok ⟨200, Text.utf8 "\x7b\"extract\": \"They purr.\"\x7d".toList⟩, 1⟩
      else ⟨.ok ⟨404, []⟩, 1⟩
    | .search _ _ _ => ⟨.ok ⟨200, Text.utf8 "[\"Cats\", [\"Felis\"]]".toList⟩, 1⟩

theorem sendsTexts_renamed : renamed.world.SendsTexts := by
  intro earlier request response value answer brings
  have expected (all : (Json.decode 970 response.body).toOption.all Value.hasText = true) :
      value.hasText = true := by
    have read : Json.decode 970 response.body = .ok value := brings.2
    rwa [read] at all
  apply expected
  cases request with
  | page base title =>
    by_cases there : title = "Felis".toList
    · simp only [renamed, Session.facing, there, if_true] at answer
      cases answer
      decide +kernel
    · simp only [renamed, Session.facing, there, if_false] at answer
      cases answer
      decide +kernel
  | search address query limit =>
    cases answer
    decide +kernel

theorem fact_of_whole_record_renamed :
    let s := perform (perform renamed (.fact "Felis".toList)) (.wait 60)
    renamed.client.cache = [] ∧ renamed.world.SendsTexts ∧ Reached renamed s ∧
      IsUnfailing "Cats".toList s ∧ s.Asks 2 1 (factOrSearch "Cats".toList s).2 ∧
      ∃ value, (factOrSearch "Cats".toList s).1 = .ok value ∧ Answers "Cats".toList s value := by
  intro s
  have reached : Reached renamed s := .perform (.perform .start _) _
  have answered : (factOrSearch "Cats".toList s).1.isOk = true := by decide +kernel
  have unfailing : IsUnfailing "Cats".toList s := by
    refine isUnfailing_iff.2 ?_
    cases given : (factOrSearch "Cats".toList s).1 with
    | ok value => exact ⟨value, rfl⟩
    | error failure =>
      rw [given] at answered
      contradiction
  obtain ⟨answers, -, asks, -⟩ := fact_of_whole_record rfl sendsTexts_renamed reached unfailing
  exact ⟨rfl, sendsTexts_renamed, reached, unfailing, asks, answers⟩

end Lookup

end DocMarkers
