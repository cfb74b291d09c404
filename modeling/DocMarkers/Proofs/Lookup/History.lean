import DocMarkers.Proofs.Lookup.Journal
import DocMarkers.Proofs.Lookup.Sending
import DocMarkers.Proofs.Lookup.Topic

set_option autoImplicit false

namespace DocMarkers

namespace Lookup

def latest? {τ : Type} (title : Text) (arrivals : List (Arrival τ)) : Option (Arrival τ) :=
  arrivals.find? (·.title == title)

namespace Inquiry

variable (inquiry : Inquiry Rat)

/-- A summary has arrived under the title that is younger than the lifetime. -/
def IsProvided : Prop :=
  ∃ arrival ∈ inquiry.arrivals, arrival.title = Topic.normalize inquiry.topic ∧
    inquiry.session.world.clock - arrival.time < inquiry.session.client.settings.lifetime

def after : Session Rat := (Lookup.summary inquiry.topic inquiry.session).2

/-- What is answered and what is kept, given what has arrived. -/
structure IsExact : Prop where
  kept : inquiry.IsProvided →
    ∃ arrival, latest? (Topic.normalize inquiry.topic) inquiry.arrivals = some arrival ∧
      Lookup.summary inquiry.topic inquiry.session = (.ok arrival.summary, inquiry.session)
  asks : ¬ inquiry.IsProvided → CanAsk inquiry.topic inquiry.session →
    inquiry.after.world.requests =
      inquiry.session.world.requests ++ [inquiry.session.page inquiry.topic]
  refuses : ¬ inquiry.IsProvided → ¬ CanAsk inquiry.topic inquiry.session →
    inquiry.after.world.requests = inquiry.session.world.requests ∧
      ∃ failure, (Lookup.summary inquiry.topic inquiry.session).1 = .error failure
  stores : ¬ inquiry.IsProvided → ∀ summary, inquiry.session.Delivers inquiry.topic summary →
    (Lookup.summary inquiry.topic inquiry.session).1 = .ok summary ∧
      inquiry.after.client.cache = Cache.store
        (Entries.erase inquiry.session.client.cache (Topic.normalize inquiry.topic))
        (Topic.normalize inquiry.topic) inquiry.after.world.clock summary
  forgets : ¬ inquiry.IsProvided → (∀ summary, ¬ inquiry.session.Delivers inquiry.topic summary) →
    inquiry.session.Misses inquiry.topic ∧
      inquiry.after.client.cache =
        Entries.erase inquiry.session.client.cache (Topic.normalize inquiry.topic)

end Inquiry

/-- An entry of the cache is a whole summary, under a normal title, that an inquiry has brought. -/
structure Journal.IsFounded (j : Journal Rat) (title : Text) (stored : Rat) (summary : Summary) :
    Prop where
  title_normal : Topic.normalize title = title
  whole : summary.isDegraded = false
  past : stored ≤ j.session.world.clock
  origin : ∃ inquiry ∈ j.inquiries, Topic.normalize inquiry.topic = title ∧
    inquiry.session.Delivers inquiry.topic summary ∧ stored = inquiry.after.world.clock

structure Journal.Accurate (j : Journal Rat) : Prop where
  delays : ∀ earlier request, 0 ≤ (j.session.world.server earlier request).delay
  past : ∀ arrival ∈ j.arrivals, arrival.time ≤ j.session.world.clock
  kept : ∀ {title stored summary},
    Entries.get? j.session.client.cache title = some (stored, summary) →
      latest? title j.arrivals = some ⟨title, stored, summary⟩
  fresh : ∀ arrival ∈ j.arrivals,
    j.session.world.clock - arrival.time < j.session.client.settings.lifetime →
      ∃ stored summary,
        Entries.get? j.session.client.cache arrival.title = some (stored, summary) ∧
          arrival.time ≤ stored
  founded : ∀ {title stored summary}, (title, stored, summary) ∈ j.session.client.cache →
    j.IsFounded title stored summary
  exact : ∀ inquiry ∈ j.inquiries, inquiry.IsExact

theorem isExpired_eq_false_iff {lifetime now stored : Rat} :
    Cache.isExpired lifetime now stored = false ↔ now - stored < lifetime := by
  have expired : Cache.isExpired lifetime now stored = decide (lifetime ≤ now - stored) := rfl
  rw [expired, decide_eq_false_iff_not, Rat.not_le]

theorem le_clock_afterExchange {s : Session Rat} (request : Request)
    (delays : ∀ earlier request, 0 ≤ (s.world.server earlier request).delay) :
    s.world.clock ≤ (s.afterExchange request).world.clock := by
  have delay := delays s.world.requests request
  rw [Session.clock_afterExchange]
  split
  next => simp only [Quantity.add]; grind
  next => exact Rat.le_refl

namespace Journal.Accurate

variable {j : Journal Rat}

theorem later (accurate : j.Accurate) {s : Session Rat} (client : s.client = j.session.client)
    (server : s.world.server = j.session.world.server)
    (clock : j.session.world.clock ≤ s.world.clock) : { j with session := s }.Accurate where
  delays := by simpa only [server] using accurate.delays
  past arrival member := Rat.le_trans (accurate.past arrival member) clock
  kept {title stored summary} present := by
    simp only [client] at present
    exact accurate.kept present
  fresh arrival member young := by
    simp only [client] at young ⊢
    exact accurate.fresh arrival member (by grind)
  founded {title stored summary} member := by
    simp only [client] at member
    have founded := accurate.founded member
    exact { founded with past := Rat.le_trans founded.past clock }
  exact := accurate.exact

theorem misses_iff (accurate : j.Accurate) (topic : Text) :
    j.session.Misses topic ↔ ¬ (Inquiry.mk topic j.session j.arrivals).IsProvided := by
  constructor
  · rintro missed ⟨arrival, member, title, young⟩
    obtain ⟨stored, summary, present, le⟩ := accurate.fresh arrival member young
    have expired := missed stored summary (title ▸ present)
    have fresh : Cache.isExpired j.session.client.settings.lifetime j.session.world.clock stored =
        false := isExpired_eq_false_iff.2 (by simp only at young; grind)
    rw [expired] at fresh
    contradiction
  · intro bare stored summary present
    by_contra fresh
    -- What is kept is the latest arrival, so it would be one that is young enough.
    have young := isExpired_eq_false_iff.1 (by simpa using fresh)
    have latest := accurate.kept present
    exact bare ⟨_, List.mem_of_find?_eq_some latest, rfl, young⟩

theorem forgetting (accurate : j.Accurate) {topic : Text} (missed : j.session.Misses topic) :
    { j with session := j.session.forgetting topic }.Accurate := by
  have cache := cache_forgetting missed
  refine { accurate with kept := ?_, fresh := ?_, founded := ?_ }
  · intro title stored summary present
    exact accurate.kept (present_of_forgetting missed present)
  · intro arrival member young
    obtain ⟨stored, summary, present, le⟩ := accurate.fresh arrival member young
    refine ⟨stored, summary, ?_, le⟩
    rw [cache, Entries.get?_erase_of_ne ?_]
    · exact present
    · intro same
      exact (accurate.misses_iff topic).1 missed ⟨arrival, member, same, young⟩
  · intro title stored summary member
    rw [cache] at member
    have founded := accurate.founded (List.mem_of_mem_filter member)
    exact { founded with }

theorem arrives (accurate : j.Accurate) {inquiry : Inquiry Rat} {summary : Summary}
    (asked : inquiry ∈ j.inquiries) (delivered : inquiry.session.Delivers inquiry.topic summary)
    (now : inquiry.after.world.clock = j.session.world.clock) :
    { j with
      session := store (Topic.normalize inquiry.topic) summary j.session
      arrivals := ⟨Topic.normalize inquiry.topic, j.session.world.clock, summary⟩ :: j.arrivals
      : Journal Rat }.Accurate where
  delays := accurate.delays
  past arrival member := by
    rcases List.mem_cons.1 member with rfl | member
    · exact Rat.le_refl
    · exact accurate.past arrival member
  kept {title stored summary'} present := by
    rcases present_of_store present with ⟨rfl, same⟩ | ⟨apart, present⟩
    · cases same
      simp [latest?]
    · simpa [latest?, Ne.symm apart] using accurate.kept present
  fresh arrival member young := by
    by_cases same : arrival.title = Topic.normalize inquiry.topic
    · refine ⟨j.session.world.clock, summary, ?_, ?_⟩
      · simp only [store, Cache.store, same, Entries.get?_put_self]
      · rcases List.mem_cons.1 member with rfl | member
        · exact Rat.le_refl
        · exact accurate.past arrival member
    · simp only [store, Cache.store, Entries.get?_put_of_ne same]
      rcases List.mem_cons.1 member with rfl | member
      · exact absurd rfl same
      · exact accurate.fresh arrival member young
  founded {title stored summary'} member := by
    rcases Entries.mem_put member with member | same
    · exact { accurate.founded member with }
    · cases same
      exact
        { title_normal := Topic.normalize_normalize _
          whole := delivered.whole
          past := Rat.le_refl
          origin := ⟨inquiry, asked, rfl, delivered, now.symm⟩ }
  exact := accurate.exact

theorem exact_inquiry (accurate : j.Accurate) (topic : Text) :
    (Inquiry.mk topic j.session j.arrivals).IsExact := by
  have misses := accurate.misses_iff topic
  have asking : (j.session.afterAsking topic).client.cache =
      (j.session.forgetting topic).client.cache := by rw [Session.client_afterAsking]
  refine ⟨fun provided => ?_, fun bare canAsk => ?_, fun bare unsent => ?_,
    fun bare record delivered => ?_, fun bare lacking => ?_⟩
  · rcases misses_or_keeps topic j.session with missed | ⟨stored, record, present, fresh⟩
    · exact absurd provided (misses.1 missed)
    · exact ⟨_, accurate.kept present, summary_of_fresh present fresh⟩
  · rw [Inquiry.after, world_of_misses (misses.2 bare), Session.requests_afterExchange,
      Session.sent, if_pos (canSend_page_iff.2 canAsk)]
  · refine ⟨?_, summary_of_unsent (misses.2 bare) unsent⟩
    rw [Inquiry.after, world_of_misses (misses.2 bare), Session.requests_afterExchange,
      Session.sent, if_neg (canSend_page_iff.not.2 unsent), List.append_nil]
  · have missed := misses.2 bare
    simp only [Inquiry.after, summary_of_delivery missed delivered, store, asking,
      cache_forgetting missed, and_self]
  · have missed := misses.2 bare
    exact ⟨missed, by rw [Inquiry.after, session_of_lack missed lacking, asking,
      cache_forgetting missed]⟩

theorem inquire (accurate : j.Accurate) (topic : Text) :
    { j with inquiries := ⟨topic, j.session, j.arrivals⟩ :: j.inquiries : Journal Rat }.Accurate where
  delays := accurate.delays
  past := accurate.past
  kept := accurate.kept
  fresh := accurate.fresh
  founded member := by
    have founded := accurate.founded member
    obtain ⟨inquiry, asked, brought⟩ := founded.origin
    exact { founded with origin := ⟨inquiry, List.mem_cons_of_mem _ asked, brought⟩ }
  exact inquiry member := by
    rcases List.mem_cons.1 member with rfl | member
    · exact accurate.exact_inquiry topic
    · exact accurate.exact inquiry member

theorem summary (accurate : j.Accurate) (topic : Text) : (j.summary topic).2.Accurate := by
  -- The inquiry is noted first: what it brings has it for an origin.
  have inquired := accurate.inquire topic
  rcases misses_or_keeps topic j.session with missed | ⟨stored, record, present, fresh⟩
  · have asked := (inquired.forgetting missed).later (Session.client_afterAsking topic j.session)
      (by rw [Session.world_afterAsking, Session.server_afterExchange]; rfl)
      (by rw [Session.world_afterAsking]; exact le_clock_afterExchange _ accurate.delays)
    by_cases delivered : ∃ record, j.session.Delivers topic record
    · obtain ⟨record, delivered⟩ := delivered
      have arrived := asked.arrives List.mem_cons_self delivered
        (by rw [Inquiry.after, summary_of_delivery missed delivered]; rfl)
      simpa [Journal.summary, summary_of_delivery missed delivered,
        arrival?_of_delivery missed delivered] using arrived
    · have lacking := not_exists.1 delivered
      simpa [Journal.summary, session_of_lack missed lacking, arrival?_of_lack missed lacking]
        using asked
  · simpa [Journal.summary, summary_of_fresh present fresh, arrival?_of_fresh present fresh]
      using inquired

theorem search (accurate : j.Accurate) (query : Text) (limit : Value) :
    (j.search query limit).2.Accurate := by
  have after : (j.search query limit).2.session =
      j.session.afterExchange (j.session.searchFor query limit) := by
    rw [Journal.search, search_eq]
  have searched := accurate.later (s := (j.search query limit).2.session)
    (by rw [after, Session.client_afterExchange])
    (by rw [after, Session.server_afterExchange])
    (by rw [after]; exact le_clock_afterExchange _ accurate.delays)
  exact searched

theorem clearCache (accurate : j.Accurate) : j.clearCache.Accurate where
  delays := accurate.delays
  past _ member := nomatch member
  kept present := nomatch present
  fresh _ member := nomatch member
  founded member := nomatch member
  exact := accurate.exact

theorem wait (accurate : j.Accurate) {seconds : Rat} (forwards : 0 ≤ seconds) :
    (j.wait seconds).Accurate :=
  accurate.later rfl rfl (by simp only [World.wait, Quantity.add]; grind)

end Journal.Accurate

theorem accurate_start {start : Session Rat} (empty : start.client.cache = [])
    (delays : ∀ earlier request, 0 ≤ (start.world.server earlier request).delay) :
    { session := start : Journal Rat }.Accurate where
  delays := delays
  past _ member := nomatch member
  kept present := by simp [empty, Entries.get?] at present
  fresh _ member := nomatch member
  founded member := by simp [empty] at member
  exact _ member := nomatch member

/-- Whatever is asked for and whatever a server does, the cache is exact at every inquiry, and all that
it holds was brought by one. Where nothing fresh is kept a request goes out if one can be sent: at
the usual address, if the client is open and the address is not too long. -/
theorem cache_exact {start : Session Rat} (empty : start.client.cache = [])
    (delays : ∀ earlier request, 0 ≤ (start.world.server earlier request).delay)
    {operations : List (Operation Rat)}
    (forwards : ∀ seconds, .wait seconds ∈ operations → 0 ≤ seconds) :
    let journal := Journal.noteAll operations { session := start }
    journal.session = performAll operations start ∧
      (∀ inquiry ∈ journal.inquiries, inquiry.IsExact) ∧
      (∀ title stored record, (title, stored, record) ∈ journal.session.client.cache →
        journal.IsFounded title stored record) ∧
      ∀ (topic : Text) (s : Session Rat), s.world.addressOf = Request.address →
        s.client.settings.baseUrl = LookupSettings.defaults.baseUrl →
          (CanAsk topic s ↔
            s.client.isClosed = false ∧ (s.page topic).url.length ≤ Address.lengthLimit) := by
  have accurate : (Journal.noteAll operations { session := start }).Accurate :=
    Journal.holds_noteAll Journal.Accurate (fun topic _ accurate => accurate.summary topic)
      (fun query limit _ accurate => accurate.search query limit)
      (fun _ accurate => accurate.clearCache)
      (fun seconds asked _ accurate => accurate.wait (forwards seconds asked))
      (accurate_start empty delays)
  exact ⟨Journal.session_noteAll operations _, accurate.exact, fun _ _ _ => accurate.founded,
    fun topic s reader base => canAsk_iff reader base topic⟩

-- Pages take a second to come, and every third is missing.
def unsteady : Session Rat :=
  .facing fun earlier _ =>
    let status := if earlier.length % 3 = 2 then 404 else 200
    ⟨.ok ⟨status, Text.utf8 "\x7b\"extract\": \"They purr.\"\x7d".toList⟩, 1⟩

-- The second comes from the cache, at the age of a minute the third does not, and the fourth is
-- missing.
def visits : List (Operation Rat) :=
  [.summary "Big cats".toList, .wait 59, .fact " Big_cats ".toList, .wait 1,
    .description "Big cats".toList, .wait 60, .summary "Big cats".toList]

theorem cache_exact_over_visits :
    (performAll visits unsteady).world.requests.length = 3 ∧
      (performAll visits unsteady).client.cache.length = 0 ∧
      ∀ inquiry ∈ (Journal.noteAll visits { session := unsteady }).inquiries, inquiry.IsExact := by
  have delays : ∀ earlier request, 0 ≤ (unsteady.world.server earlier request).delay := by
    intro earlier request
    change (0 : Rat) ≤ 1
    decide
  have forwards : ∀ seconds, .wait seconds ∈ visits → 0 ≤ seconds := by
    intro seconds asked
    obtain rfl | rfl | rfl : seconds = 59 ∨ seconds = 1 ∨ seconds = 60 := by
      simpa [visits] using asked
    all_goals decide
  exact ⟨by decide +kernel, by decide +kernel, (cache_exact rfl delays forwards).2.1⟩

def endlessTopic : Text := List.replicate 70000 'a'

theorem normalize_endlessTopic : Topic.normalize endlessTopic = endlessTopic := by
  have letters {drops : Char → Bool} (kept : drops 'a' = false) :
      ∀ c ∈ endlessTopic, drops c = false := by
    intro c member
    rwa [List.eq_of_mem_replicate member]
  rw [Topic.normalize, Text.trim, Text.trimBy_eq_self (letters (by decide)),
    Topic.joinWords_eq_self (letters (by decide)), Text.trimBy_eq_self (letters (by decide))]

theorem unsent_for_endless_topic :
    let answer := Lookup.summary endlessTopic unsteady
    ¬ (Inquiry.mk endlessTopic unsteady []).IsProvided ∧ unsteady.client.isClosed = false ∧
      unsteady.world.requests = [] ∧ answer.2.world.requests = [] ∧
      answer.1 = .error (.invalidAddress "URL too long".toList) := by
  have plain : ∀ c ∈ endlessTopic, Percent.isUnreserved c = true := by
    intro c member
    rw [List.eq_of_mem_replicate member]
    decide
  have long : Address.lengthLimit < (unsteady.page endlessTopic).url.length := by
    rw [Session.page, normalize_endlessTopic, Request.url, Percent.encode_eq_self plain,
      List.length_append, endlessTopic, List.length_replicate]
    decide
  have unread : unsteady.world.addressOf (unsteady.page endlessTopic) = .error .tooLong :=
    Request.address_of_long long
  have missed : unsteady.Misses endlessTopic := by
    intro stored record present
    simp [unsteady, Session.facing, Entries.get?] at present
  have failed : fetch (unsteady.page endlessTopic) unsteady =
      (.error (.invalidAddress "URL too long".toList), unsteady) := fetch_of_unread unread
  have unprovided : ¬ (Inquiry.mk endlessTopic unsteady []).IsProvided := by
    simp [Inquiry.IsProvided]
  refine ⟨unprovided, rfl, rfl, ?_, ?_⟩
  · rw [world_of_misses missed, ← fetch_snd, failed]
    rfl
  · rw [summary_of_misses missed, failed]

end Lookup

end DocMarkers
