import DocMarkers.Proofs.Lookup.Answer

set_option autoImplicit false

namespace DocMarkers

theorem exists_error_iff {α : Type} {result : Except Failure α} :
    (∃ failure, result = .error failure) ↔ result.isOk = false := by
  cases result <;> simp [Except.isOk, Except.toBool]

namespace Value

def isObject : Value → Bool
  | object _ => true
  | _ => false

def isText : Value → Bool
  | text _ => true
  | _ => false

def isIterable : Value → Bool
  | list _ | text _ | object _ => true
  | _ => false

def isSequence : Value → Bool
  | list _ | text _ => true
  | object fields => fields.isEmpty
  | _ => false

def isMissingOr (kind : Value → Bool) (value : Value) : Bool := !value.isPresent || kind value

theorem exists_part_iff {value : Value} {name : Text} :
    (∃ part, (value.orElse (.object [])).part name = .ok part) ↔ value.isMissingOr isObject := by
  unfold orElse isMissingOr
  cases present : value.isPresent with
  | false => simp [part]
  | true => cases value <;> simp [part, isObject]

theorem exists_elements_iff {value : Value} :
    (∃ elements, value.elements = .ok elements) ↔ value.isIterable := by
  cases value <;> simp [elements, isIterable]

theorem exists_elementAt {value : Value} (sequence : value.isSequence = true) (index : Nat) :
    ∃ element, value.elementAt index = .ok element := by
  cases value with
  | object fields =>
    obtain rfl : fields = [] := by simpa [isSequence] using sequence
    simp [elementAt]
  | list | text => simp [elementAt]
  | _ => simp [isSequence] at sequence

theorem isSequence_of_elementAt {value element : Value} (found : value.elementAt 0 = .ok element) :
    value.isSequence = true := by
  cases value with
  | object fields => cases fields <;> simp_all [elementAt, isSequence]
  | list | text => rfl
  | _ => simp [elementAt] at found

end Value

namespace Summary

/-- The fields of a page as they are expected: where a part or a text of a field is needed, the field
is missing or of that kind. -/
structure IsShaped (fields : List (Text × Value)) : Prop where
  addresses : (Value.field fields "content_urls".toList).isMissingOr Value.isObject = true
  desktop : ∀ addresses, Value.field fields "content_urls".toList = .object addresses →
    (Value.field addresses "desktop".toList).isMissingOr Value.isObject = true
  thumbnail : (Value.field fields "thumbnail".toList).isMissingOr Value.isObject = true
  extract : (Value.field fields "extract_html".toList).isPresent = true →
    (Value.field fields "extract".toList).isMissingOr Value.isText = true

theorem exists_shorten_iff {extract markedUp : Value} :
    (∃ short, shorten (extract.orElse (.text [])) markedUp = .ok short) ↔
      (markedUp.isPresent = true → extract.isMissingOr Value.isText = true) := by
  unfold shorten Value.orElse Value.isMissingOr
  cases markedUp.isPresent with
  | false => simp
  | true =>
    cases present : extract.isPresent with
    | false => simp
    | true => cases extract <;> simp [Value.isText]

-- Addresses that are missing are no object, but then nothing is asked of them.
theorem exists_desktop_iff {addresses : Value} :
    (∃ desktop, (addresses.orElse (.object [])).part "desktop".toList = .ok desktop ∧
        desktop.isMissingOr Value.isObject = true) ↔
      addresses.isMissingOr Value.isObject = true ∧ ∀ fields, addresses = .object fields →
        (Value.field fields "desktop".toList).isMissingOr Value.isObject = true := by
  have nothing : (Value.field [] "desktop".toList).isMissingOr Value.isObject = true := rfl
  cases present : addresses.isPresent with
  | false =>
    have missing : ∀ fields, addresses = .object fields → fields = [] := by
      rintro fields rfl
      simpa [Value.isPresent] using present
    simp only [Value.orElse, present, Value.part, Value.isMissingOr]
    refine ⟨fun _ => ⟨rfl, fun fields same => ?_⟩, fun _ => ⟨_, rfl, nothing⟩⟩
    rw [missing fields same]
    exact nothing
  | true =>
    simp only [Value.orElse, present]
    cases addresses with
    | object fields => simp [Value.part, Value.isMissingOr, Value.isObject]
    | _ => simp [Value.part, Value.isMissingOr, Value.isObject, present]

theorem isShaped_iff {fields : List (Text × Value)} {topic today : Text} :
    (∃ summary, ofFields fields topic today = .ok summary) ↔ IsShaped fields := by
  have desktop := @exists_desktop_iff (Value.field fields "content_urls".toList)
  have thumbnail := @Value.exists_part_iff (Value.field fields "thumbnail".toList) "source".toList
  have short := @exists_shorten_iff (Value.field fields "extract".toList)
    (Value.field fields "extract_html".toList)
  simp only [ofFields, bind_eq_ok_iff, pure, Except.pure, Except.ok.injEq]
  constructor
  · rintro ⟨summary, given, ofAddresses, shortened, ofExtract, url, ofThumbnail, page, ofDesktop, -⟩
    obtain ⟨addresses, inside⟩ :=
      desktop.1 ⟨given, ofAddresses, Value.exists_part_iff.1 ⟨page, ofDesktop⟩⟩
    exact ⟨addresses, inside, thumbnail.1 ⟨url, ofThumbnail⟩, short.1 ⟨shortened, ofExtract⟩⟩
  · intro shaped
    obtain ⟨given, ofAddresses, inside⟩ := desktop.2 ⟨shaped.addresses, shaped.desktop⟩
    obtain ⟨shortened, ofExtract⟩ := short.2 shaped.extract
    obtain ⟨url, ofThumbnail⟩ := thumbnail.2 shaped.thumbnail
    obtain ⟨page, ofDesktop⟩ := (@Value.exists_part_iff given "page".toList).2 inside
    exact ⟨_, given, ofAddresses, shortened, ofExtract, url, ofThumbnail, page, ofDesktop, rfl⟩

end Summary

namespace SearchHit

structure IsShaped (items : List Value) : Prop where
  titles : (items.getD 1 (.list [])).isIterable = true
  columns : (items.getD 1 (.list [])).elements ≠ .ok [] →
    (items.getD 2 (.list [])).isSequence = true ∧ (items.getD 3 (.list [])).isSequence = true

theorem exists_ofColumnsFrom {descriptions urls : Value} (sequence : descriptions.isSequence = true)
    (sequence' : urls.isSequence = true) (index : Nat) (titles : List Value) :
    ∃ hits, ofColumnsFrom descriptions urls index titles = .ok hits := by
  induction titles generalizing index with
  | nil => exact ⟨[], rfl⟩
  | cons title titles ih =>
    obtain ⟨description, described⟩ := Value.exists_elementAt sequence index
    obtain ⟨url, addressed⟩ := Value.exists_elementAt sequence' index
    obtain ⟨hits, rest⟩ := ih (index + 1)
    refine ⟨⟨title, description, url⟩ :: hits, ?_⟩
    simp only [ofColumnsFrom, described, addressed, rest]
    rfl

theorem isShaped_iff {items : List Value} :
    (∃ hits, ofResult items = .ok hits) ↔ IsShaped items := by
  simp only [ofResult, bind_eq_ok_iff]
  constructor
  · rintro ⟨hits, titles, given, found⟩
    refine ⟨Value.exists_elements_iff.1 ⟨titles, given⟩, fun some => ?_⟩
    cases titles with
    | nil => exact absurd given some
    | cons title titles =>
      simp only [ofColumnsFrom, bind_eq_ok_iff] at found
      obtain ⟨description, described, url, addressed, -⟩ := found
      exact ⟨Value.isSequence_of_elementAt described, Value.isSequence_of_elementAt addressed⟩
  · rintro ⟨iterable, columns⟩
    obtain ⟨titles, given⟩ := Value.exists_elements_iff.2 iterable
    cases titles with
    | nil => exact ⟨[], [], given, rfl⟩
    | cons title titles =>
      obtain ⟨sequence, sequence'⟩ := columns (by rw [given]; simp)
      obtain ⟨hits, found⟩ := exists_ofColumnsFrom sequence sequence' 0 (title :: titles)
      exact ⟨hits, title :: titles, given, found⟩

end SearchHit

variable {τ : Type} [Quantity τ]

/-- An open client and a server that answers, or fails in a way that lookups are to make up for. -/
structure Session.IsOnline (s : Session τ) : Prop where
  opened : s.client.isClosed = false
  faults : ∀ earlier request failure, (s.world.server earlier request).outcome = .error failure →
    failure.isExchangeFault = true

namespace Lookup

variable {request : Request} {s : Session τ}

theorem isExchangeFault_of_exchange (online : s.IsOnline) (sent : s.canSend request = true)
    {failure : Failure} (failed : (exchange request s).1 = .error failure) :
    failure.isExchangeFault = true := by
  unfold exchange at failed
  cases address : s.world.addressOf request with
  | error fault => simp [Session.canSend, address, Except.isOk, Except.toBool] at sent
  | ok address' =>
    simp only [address, online.opened, World.send] at failed
    cases outcome : (s.world.server s.world.requests request).outcome with
    | error failure' =>
      obtain rfl : failure' = failure := by simpa [outcome, Except.bind] using failed
      exact online.faults _ _ _ outcome
    | ok response =>
      cases absolute : address'.isAbsolute with
      | true => simp [outcome, Except.bind, absolute] at failed
      | false =>
        obtain rfl : Failure.unknownScheme address'.text = failure := by
          simpa [outcome, Except.bind, absolute] using failed
        rfl

theorem exists_fetch_error_iff (online : s.IsOnline) (sent : s.canSend request = true) :
    (∃ failure, (fetch request s).1 = .error failure) ↔
      ∃ response, (exchange request s).1 = .ok response ∧ response.IsTooDeep s.world.readDepth := by
  rw [fetch_eq]
  cases answer : (exchange request s).1 with
  | error failure => simp [isExchangeFault_of_exchange online sent answer]
  | ok response => simp [payload_eq_error_iff]

theorem exists_summary_error_iff {topic : Text} (online : s.IsOnline)
    (sent : s.canSend (s.page topic) = true) :
    (∃ failure, (summary topic s).1 = .error failure) ↔
      s.Misses topic ∧ ∃ response, (exchange (s.page topic) s).1 = .ok response ∧
        (response.IsTooDeep s.world.readDepth ∨
          ∃ fields, response.Brings s.world.readDepth (.object fields) ∧ ¬ Summary.IsShaped fields) := by
  constructor
  · rintro ⟨failure, failed⟩
    have answered := answered topic s
    rw [failed] at answered
    generalize (summary topic s).2 = next at answered
    cases answered with
    | isMisshapen missed fetched unbuilt =>
      obtain ⟨response, answer, brings⟩ := fetch_eq_some_iff.1 fetched
      refine ⟨missed, response, answer, .inr ⟨_, brings, fun shaped => ?_⟩⟩
      obtain ⟨summary, built⟩ := Summary.isShaped_iff.2 shaped
      rw [unbuilt] at built
      contradiction
    | fails missed failed =>
      obtain ⟨response, answer, deep⟩ := (exists_fetch_error_iff online sent).1 ⟨_, failed⟩
      exact ⟨missed, response, answer, .inl deep⟩
  · rintro ⟨missed, response, answer, deep | ⟨fields, brings, misshapen⟩⟩
    · obtain ⟨failure, failed⟩ := (exists_fetch_error_iff online sent).2 ⟨response, answer, deep⟩
      exact ⟨failure, by rw [summary_of_misses missed, failed]⟩
    · have fetched := fetch_eq_some_iff.2 ⟨response, answer, brings⟩
      rw [summary_of_misses missed, fetched]
      cases built : Summary.ofFields fields topic s.world.today with
      | error failure => exact ⟨failure, by simp only [built]⟩
      | ok summary => exact absurd (Summary.isShaped_iff.1 ⟨summary, built⟩) misshapen

theorem exists_search_error_iff {query : Text} {limit : Value} (online : s.IsOnline)
    (sent : s.canSend (s.searchFor query limit) = true) :
    (∃ failure, (search query limit s).1 = .error failure) ↔
      ∃ response, (exchange (s.searchFor query limit) s).1 = .ok response ∧
        (response.IsTooDeep s.world.readDepth ∨
          ∃ items, response.Brings s.world.readDepth (.list items) ∧ ¬ SearchHit.IsShaped items) := by
  rw [search_eq]
  dsimp only
  constructor
  · rintro ⟨failure, failed⟩
    rcases fetched : (fetch (s.searchFor query limit) s).1 with failure' | _ | value
    · obtain ⟨response, answer, deep⟩ := (exists_fetch_error_iff online sent).1 ⟨_, fetched⟩
      exact ⟨response, answer, .inl deep⟩
    · simp [fetched] at failed
    · cases value with
      | list items =>
        obtain ⟨response, answer, brings⟩ := fetch_eq_some_iff.1 fetched
        refine ⟨response, answer, .inr ⟨items, brings, fun shaped => ?_⟩⟩
        obtain ⟨hits, found⟩ := SearchHit.isShaped_iff.2 shaped
        simp [fetched, found] at failed
      | _ => simp [fetched] at failed
  · rintro ⟨response, answer, deep | ⟨items, brings, misshapen⟩⟩
    · obtain ⟨failure, failed⟩ := (exists_fetch_error_iff online sent).2 ⟨response, answer, deep⟩
      exact ⟨failure, by rw [failed]⟩
    · rw [fetch_eq_some_iff.2 ⟨response, answer, brings⟩]
      cases found : SearchHit.ofResult items with
      | error failure => exact ⟨failure, found⟩
      | ok hits => exact absurd (SearchHit.isShaped_iff.1 ⟨hits, found⟩) misshapen

/-- Lookups make up for whatever the server does, but for values that are misshapen or nested too
deep: on these, and on nothing else, they fail. -/
theorem fails_iff_misshapen (online : s.IsOnline) :
    (∀ topic, s.canSend (s.page topic) = true →
      ((∃ failure, (summary topic s).1 = .error failure) ↔
        s.Misses topic ∧ ∃ response, (exchange (s.page topic) s).1 = .ok response ∧
          (response.IsTooDeep s.world.readDepth ∨
            ∃ fields, response.Brings s.world.readDepth (.object fields) ∧
              ¬ Summary.IsShaped fields))) ∧
    ∀ query limit, s.canSend (s.searchFor query limit) = true →
      ((∃ failure, (search query limit s).1 = .error failure) ↔
        ∃ response, (exchange (s.searchFor query limit) s).1 = .ok response ∧
          (response.IsTooDeep s.world.readDepth ∨
            ∃ items, response.Brings s.world.readDepth (.list items) ∧ ¬ SearchHit.IsShaped items)) :=
  ⟨fun _ sent => exists_summary_error_iff online sent,
    fun _ _ sent => exists_search_error_iff online sent⟩

-- Every page has a text for a thumbnail, and every search a number for titles.
def misshapen : Session Rat :=
  .facing fun _ request =>
    let body := match request with
      | .page _ _ => "\x7b\"thumbnail\": \"cat.png\"\x7d"
      | .search _ _ _ => "[\"Cats\", 5]"
    ⟨.ok ⟨200, Text.utf8 body.toList⟩, 1⟩

theorem isOnline_misshapen : misshapen.IsOnline where
  opened := rfl
  faults _ _ _ failed := nomatch failed

theorem fails_iff_misshapen_thumbnail :
    misshapen.IsOnline ∧
      misshapen.canSend (misshapen.page "Cats".toList) = true ∧
      misshapen.canSend (misshapen.searchFor "Cats".toList searchLimit) = true ∧
      (∃ response,
        (exchange (misshapen.page "Cats".toList) misshapen).1 = .ok response ∧
          (response.IsTooDeep misshapen.world.readDepth ∨
            ∃ fields, response.Brings misshapen.world.readDepth (.object fields) ∧
              ¬ Summary.IsShaped fields)) ∧
      ∃ response,
        (exchange (misshapen.searchFor "Cats".toList searchLimit) misshapen).1 = .ok response ∧
          (response.IsTooDeep misshapen.world.readDepth ∨
            ∃ items, response.Brings misshapen.world.readDepth (.list items) ∧
              ¬ SearchHit.IsShaped items) := by
  have sent : misshapen.canSend (misshapen.page "Cats".toList) = true := by decide +kernel
  have sent' : misshapen.canSend (misshapen.searchFor "Cats".toList searchLimit) = true := by
    decide +kernel
  have failed : ∃ failure, (summary "Cats".toList misshapen).1 = .error failure :=
    exists_error_iff.2 (by decide +kernel)
  have failed' : ∃ failure, (search "Cats".toList searchLimit misshapen).1 = .error failure :=
    exists_error_iff.2 (by decide +kernel)
  exact ⟨isOnline_misshapen, sent, sent',
    (((fails_iff_misshapen isOnline_misshapen).1 _ sent).1 failed).2,
    ((fails_iff_misshapen isOnline_misshapen).2 _ _ sent').1 failed'⟩

theorem fails_on_textual_thumbnail :
    ¬ ∀ s : Session Rat, s.IsOnline → ∀ topic, s.canSend (s.page topic) = true →
      ∃ record, (summary topic s).1 = .ok record := by
  intro answers
  obtain ⟨record, found⟩ := answers misshapen isOnline_misshapen "Cats".toList (by decide +kernel)
  have failed : (summary "Cats".toList misshapen).1.isOk = false := by decide +kernel
  rw [found] at failed
  exact Bool.noConfusion failed

end Lookup

end DocMarkers
