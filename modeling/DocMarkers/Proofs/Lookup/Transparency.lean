import DocMarkers.Proofs.Lookup.Journal

set_option autoImplicit false

namespace DocMarkers

namespace Summary

variable {fields : List (Text × Value)} {topic today : Text} {record : Summary}

theorem ofFields_respelled (other : Text) (built : ofFields fields topic today = .ok record) :
    ofFields fields other today =
      .ok { record with title := (Value.field fields "title".toList).orElse (.text other) } := by
  simp only [ofFields, bind_eq_ok_iff, pure, Except.pure, Except.ok.injEq] at built ⊢
  obtain ⟨desktop, ofAddresses, short, ofExtract, thumbnail, ofThumbnail, page, ofDesktop, rfl⟩ := built
  exact ⟨desktop, ofAddresses, short, ofExtract, thumbnail, ofThumbnail, page, ofDesktop, rfl⟩

end Summary

variable {τ : Type} [Quantity τ]

/-- What is answered does not depend on what was asked for before. -/
def World.IsSteady (world : World τ) : Prop :=
  ∀ earlier request, (world.server earlier request).outcome = (world.server [] request).outcome

structure Session.Resembles (s start : Session τ) : Prop where
  addressOf : s.world.addressOf = start.world.addressOf
  server : s.world.server = start.world.server
  readDepth : s.world.readDepth = start.world.readDepth
  today : s.world.today = start.world.today
  settings : s.client.settings = start.client.settings
  isClosed : s.client.isClosed = start.client.isClosed

namespace Lookup

variable {s start : Session τ} {topic : Text}

namespace Inquiry

/-- The answer has the title of an earlier inquiry, which spelled the topic in another way: the page
gives no title. -/
def IsRespelled (inquiry : Inquiry τ) (start : Session τ) (earlier : List (Inquiry τ)) : Prop :=
  ∃ spelling ∈ earlier.map (·.topic), Topic.normalize spelling = Topic.normalize inquiry.topic ∧
    ∃ fields record, (fetch (start.page inquiry.topic) start).1 = .ok (some (.object fields)) ∧
      (Value.field fields "title".toList).isPresent = false ∧
      (Lookup.summary inquiry.topic start).1 = .ok record ∧
      record.title = .text inquiry.topic ∧
      (Lookup.summary inquiry.topic inquiry.session).1 = .ok { record with title := .text spelling }

def IsTransparent (inquiry : Inquiry τ) (start : Session τ) (earlier : List (Inquiry τ)) : Prop :=
  (Lookup.summary inquiry.topic inquiry.session).1 = (Lookup.summary inquiry.topic start).1 ∨
    inquiry.IsRespelled start earlier

end Inquiry

structure Journal.Faithful (j : Journal τ) (start : Session τ) : Prop where
  resembles : j.session.Resembles start
  kept : ∀ {title stored record},
    Entries.get? j.session.client.cache title = some (stored, record) →
      ∃ spelling ∈ j.inquiries.map (·.topic), Topic.normalize spelling = title ∧
        start.Delivers spelling record
  transparent : ∀ {inquiry earlier}, (inquiry :: earlier) <:+ j.inquiries →
    inquiry.IsTransparent start earlier

theorem resembles_afterExchange (resembles : s.Resembles start) (request : Request) :
    (s.afterExchange request).Resembles start := by
  obtain ⟨addressOf, server, readDepth, today, settings, isClosed⟩ := resembles
  constructor <;> simp only [Session.addressOf_afterExchange, Session.server_afterExchange,
    Session.readDepth_afterExchange, Session.today_afterExchange, Session.client_afterExchange] <;>
    assumption

theorem fetch_page (resembles : s.Resembles start) (steady : start.world.IsSteady) (topic : Text) :
    (fetch (s.page topic) s).1 = (fetch (start.page topic) start).1 := by
  have same : s.page topic = start.page topic := by rw [Session.page, resembles.settings]; rfl
  rw [same]
  exact fetch_congr resembles.isClosed (by rw [resembles.addressOf]) resembles.readDepth
    (by rw [resembles.server, steady, steady start.world.requests])

theorem delivers_iff_of_resembles (resembles : s.Resembles start) (steady : start.world.IsSteady)
    {record : Summary} : s.Delivers topic record ↔ start.Delivers topic record := by
  rw [delivers_iff, delivers_iff, fetch_page resembles steady, resembles.today]

theorem summary_of_resembles (resembles : s.Resembles start) (steady : start.world.IsSteady)
    (missed : s.Misses topic) (missed' : start.Misses topic) :
    (summary topic s).1 = (summary topic start).1 := by
  rw [summary_of_misses missed, summary_of_misses missed', fetch_page resembles steady,
    resembles.today]
  split
  next => rfl
  next => split <;> simp [*]
  next => simp [*]

theorem misses_of_empty (empty : s.client.cache = []) (topic : Text) : s.Misses topic := by
  simp [Session.Misses, empty, Entries.get?]

namespace Journal.Faithful

variable {j : Journal τ}

theorem answers (faithful : j.Faithful start) (steady : start.world.IsSteady)
    (empty : start.client.cache = []) (topic : Text) :
    (Inquiry.mk topic j.session j.arrivals).IsTransparent start j.inquiries := by
  have bare := misses_of_empty empty topic
  rcases misses_or_keeps topic j.session with missed | ⟨stored, record, present, fresh⟩
  · exact .inl (summary_of_resembles faithful.resembles steady missed bare)
  · obtain ⟨spelling, asked, same, delivered⟩ := faithful.kept present
    obtain ⟨fields, fetched, built⟩ := delivers_iff.1 delivered
    have page : start.page spelling = start.page topic := by rw [Session.page, same]; rfl
    rw [page] at fetched
    have respelled := Summary.ofFields_respelled topic built
    have plain := summary_of_delivery bare (delivers_iff.2 ⟨fields, fetched, respelled⟩)
    -- With a title on the page the two records are the same, else they differ in the spelling.
    have title := (Summary.isOf_of_ofFields built).title
    have given := summary_of_fresh present fresh
    cases titled : (Value.field fields "title".toList).isPresent with
    | true =>
      refine .inl ?_
      simp only [Value.orElse, titled, if_true] at title plain
      simp only [given, plain, ← title]
    | false =>
      simp only [Value.orElse, titled] at title plain
      refine .inr ⟨spelling, asked, same, fields, { record with title := .text topic }, fetched, titled,
        by rw [plain]; rfl, rfl, ?_⟩
      have title : record.title = .text spelling := title
      simp only [given, ← title]

theorem inquire (faithful : j.Faithful start) (steady : start.world.IsSteady)
    (empty : start.client.cache = []) (topic : Text) :
    { j with inquiries := ⟨topic, j.session, j.arrivals⟩ :: j.inquiries : Journal τ }.Faithful start where
  resembles := faithful.resembles
  kept present := by
    obtain ⟨spelling, asked, brought⟩ := faithful.kept present
    exact ⟨spelling, List.mem_cons_of_mem _ asked, brought⟩
  transparent suffix := by
    rcases List.suffix_cons_iff.1 suffix with same | suffix
    · obtain ⟨rfl, rfl⟩ := List.cons.inj same
      exact faithful.answers steady empty topic
    · exact faithful.transparent suffix

theorem later (faithful : j.Faithful start) (resembles : s.Resembles start)
    (cache : s.client.cache = j.session.client.cache) :
    { j with session := s : Journal τ }.Faithful start where
  resembles
  kept {title stored record} present := by
    simp only [cache] at present
    exact faithful.kept present
  transparent := faithful.transparent

theorem forgetting (faithful : j.Faithful start) (missed : j.session.Misses topic) :
    { j with session := j.session.forgetting topic : Journal τ }.Faithful start where
  resembles := { faithful.resembles with }
  kept present := faithful.kept (present_of_forgetting missed present)
  transparent := faithful.transparent

theorem arrives (faithful : j.Faithful start) {record : Summary}
    (asked : topic ∈ j.inquiries.map (·.topic)) (delivered : start.Delivers topic record)
    (arrivals : List (Arrival τ)) :
    { j with session := store (Topic.normalize topic) record j.session, arrivals
      : Journal τ }.Faithful start where
  resembles := { faithful.resembles with }
  kept present := by
    rcases present_of_store present with ⟨rfl, same⟩ | ⟨-, present⟩
    · cases same
      exact ⟨topic, asked, rfl, delivered⟩
    · exact faithful.kept present
  transparent := faithful.transparent

theorem summary (faithful : j.Faithful start) (steady : start.world.IsSteady)
    (empty : start.client.cache = []) (topic : Text) : (j.summary topic).2.Faithful start := by
  have inquired := faithful.inquire steady empty topic
  rcases misses_or_keeps topic j.session with missed | ⟨stored, record, present, fresh⟩
  · have forgotten := inquired.forgetting missed
    have asked := forgotten.later (s := j.session.afterAsking topic)
      (resembles_afterExchange forgotten.resembles _) (by rw [Session.client_afterAsking])
    by_cases delivered : ∃ record, j.session.Delivers topic record
    · obtain ⟨record, delivered⟩ := delivered
      have arrived := asked.arrives List.mem_cons_self
        ((delivers_iff_of_resembles faithful.resembles steady).1 delivered)
        ((arrival? topic j.session).toList ++ j.arrivals)
      simpa [Journal.summary, summary_of_delivery missed delivered] using arrived
    · have lacking := not_exists.1 delivered
      simpa [Journal.summary, session_of_lack missed lacking, arrival?_of_lack missed lacking]
        using asked
  · simpa [Journal.summary, summary_of_fresh present fresh, arrival?_of_fresh present fresh]
      using inquired

theorem search (faithful : j.Faithful start) (query : Text) (limit : Value) :
    (j.search query limit).2.Faithful start := by
  have after : (j.search query limit).2.session =
      j.session.afterExchange (j.session.searchFor query limit) := by
    rw [Journal.search, search_eq]
  have searched := faithful.later (s := (j.search query limit).2.session)
    (by rw [after]; exact resembles_afterExchange faithful.resembles _)
    (by rw [after, Session.client_afterExchange])
  exact searched

theorem clearCache (faithful : j.Faithful start) : j.clearCache.Faithful start where
  resembles := { faithful.resembles with }
  kept present := nomatch present
  transparent := faithful.transparent

theorem wait (faithful : j.Faithful start) (seconds : τ) : (j.wait seconds).Faithful start :=
  faithful.later { faithful.resembles with } rfl

end Journal.Faithful

theorem faithful_start (empty : start.client.cache = []) :
    { session := start : Journal τ }.Faithful start where
  resembles := ⟨rfl, rfl, rfl, rfl, rfl, rfl⟩
  kept present := by simp [empty, Entries.get?] at present
  transparent suffix := by simp at suffix

/-- Where pages stay as they are, whatever was asked for before, an answer is the one that a new client
gives, or differs from it in the spelling of a title that the page does not give. -/
theorem cache_transparent (steady : start.world.IsSteady) (empty : start.client.cache = [])
    (operations : List (Operation τ)) :
    let journal := Journal.noteAll operations { session := start }
    journal.session = performAll operations start ∧
      ∀ inquiry earlier, (inquiry :: earlier) <:+ journal.inquiries →
        inquiry.IsTransparent start earlier := by
  have faithful : (Journal.noteAll operations { session := start }).Faithful start :=
    Journal.holds_noteAll (fun j => j.Faithful start)
      (fun topic _ faithful => faithful.summary steady empty topic)
      (fun query limit _ faithful => faithful.search query limit)
      (fun _ faithful => faithful.clearCache)
      (fun seconds _ _ faithful => faithful.wait seconds) (faithful_start empty)
  exact ⟨Journal.session_noteAll operations _, fun _ _ => faithful.transparent⟩

theorem inquiries_pair (first second : Text) (s : Session τ) :
    (Journal.noteAll [.summary first, .summary second] { session := s }).inquiries =
      [⟨second, (summary first s).2, (arrival? first s).toList⟩, ⟨first, s, []⟩] := by
  simp [Journal.noteAll, Journal.note, Journal.summary]

def untitled : Session Rat :=
  .facing fun _ _ => ⟨.ok ⟨200, Text.utf8 "\x7b\"extract\": \"They purr.\"\x7d".toList⟩, 0⟩

def spellings : List (Operation Rat) := [.summary "big cats".toList, .summary "big_cats".toList]

def title? : Except Failure Summary → Option Text
  | .ok { title := .text title, .. } => some title
  | _ => none

def respelled : Inquiry Rat :=
  ⟨"big_cats".toList, (summary "big cats".toList untitled).2,
    (arrival? "big cats".toList untitled).toList⟩

theorem title_respelled :
    title? (summary respelled.topic respelled.session).1 = some "big cats".toList := by
  decide +kernel

theorem title_untitled : title? (summary respelled.topic untitled).1 = some "big_cats".toList := by
  decide +kernel

theorem cache_transparent_respelled :
    untitled.world.IsSteady ∧ respelled.IsRespelled untitled [⟨"big cats".toList, untitled, []⟩] := by
  have steady : untitled.world.IsSteady := fun _ _ => rfl
  refine ⟨steady, ?_⟩
  have asked := (cache_transparent steady rfl spellings).2 respelled [⟨"big cats".toList, untitled, []⟩]
  rw [spellings, inquiries_pair] at asked
  rcases asked List.suffix_rfl with same | other
  · have titles := title_respelled
    rw [same, title_untitled] at titles
    exact absurd titles (by decide)
  · exact other

theorem earlier_spelling_shows :
    ¬ ∀ start : Session Rat, start.world.IsSteady → start.client.cache = [] →
      ∀ operations, ∀ inquiry ∈ (Journal.noteAll operations { session := start }).inquiries,
        (summary inquiry.topic inquiry.session).1 = (summary inquiry.topic start).1 := by
  intro transparent
  have same := transparent untitled (fun _ _ => rfl) rfl spellings respelled
    (by rw [spellings, inquiries_pair]; exact List.mem_cons_self)
  have titles := title_respelled
  rw [same, title_untitled] at titles
  exact absurd titles (by decide)

end Lookup

end DocMarkers
