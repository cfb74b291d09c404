import DocMarkers.Marker.Builtin
import DocMarkers.Proofs.Lookup.Answer
import DocMarkers.Proofs.Scanning.Parameters
import DocMarkers.Proofs.Scanning.Percent

set_option autoImplicit false

namespace DocMarkers

namespace Text

theorem cut_snd_eq_none_iff {separator : Char} {text : Text} :
    (cut separator text).2 = none ↔ separator ∉ text := by
  constructor
  · intro uncut
    have whole := cut_append separator text
    rw [uncut, Option.elim_none, List.append_nil] at whole
    exact whole ▸ not_mem_cut separator text
  · intro free
    rw [cut_of_not_mem free]

end Text

namespace Address

-- Neither a query nor a fragment begins in the text.
def IsUnmarked (text : Text) : Prop := '?' ∉ text ∧ '#' ∉ text

instance (text : Text) : Decidable (IsUnmarked text) := inferInstanceAs (Decidable (_ ∧ _))

theorem isUnmarked_append {front rest : Text} :
    IsUnmarked (front ++ rest) ↔ IsUnmarked front ∧ IsUnmarked rest := by
  simp only [IsUnmarked, List.mem_append, not_or]
  tauto

theorem isUnmarked_of_all {text : Text} {keeps : Char → Bool} (each : text.all keeps = true)
    (marks : keeps '?' = false ∧ keeps '#' = false) : IsUnmarked text := by
  have apart {mark : Char} (refused : keeps mark = false) : mark ∉ text := fun member => by
    simpa [refused] using List.all_eq_true.1 each mark member
  exact ⟨apart marks.1, apart marks.2⟩

theorem isUnmarked_of_isScheme {text : Text} (isScheme : isScheme text = true) : IsUnmarked text := by
  cases text with
  | nil => decide
  | cons c rest =>
    obtain ⟨first, others⟩ := Bool.and_eq_true_iff.1 isScheme
    have single : [c].all Char.isAlpha = true := by simpa using first
    exact isUnmarked_append.2
      ⟨isUnmarked_of_all single (by decide), isUnmarked_of_all others (by decide)⟩

-- What is cut off an address before its path holds no mark.
theorem isUnmarked_cutScheme (text : Text) : IsUnmarked (cutScheme text).2 ↔ IsUnmarked text := by
  have whole := Text.cut_append ':' text
  unfold cutScheme
  rcases cut : Text.cut ':' text with ⟨scheme, _ | rest⟩
  · rfl
  · rw [cut] at whole
    dsimp only
    split
    next isScheme =>
      have front : IsUnmarked (scheme ++ [':']) :=
        isUnmarked_append.2 ⟨isUnmarked_of_isScheme isScheme, by decide⟩
      have split : text = scheme ++ [':'] ++ rest := by simpa using whole.symm
      rw [split, isUnmarked_append, and_iff_right front]
    next => rfl

theorem isUnmarked_cutAuthority (text : Text) :
    IsUnmarked (cutAuthority text).2 ↔ IsUnmarked text := by
  unfold cutAuthority
  split
  next rest =>
    let ends (c : Char) : Bool := c == '/' || c == '?' || c == '#'
    have outside : IsUnmarked (rest.takeWhile fun c => !ends c) :=
      isUnmarked_of_all List.all_takeWhile (by decide)
    have split : '/' :: '/' :: rest =
        ['/', '/'] ++ (rest.takeWhile (fun c => !ends c) ++ rest.dropWhile fun c => !ends c) := by
      rw [List.takeWhile_append_dropWhile]
      rfl
    rw [split, isUnmarked_append, isUnmarked_append, and_iff_right outside]
    exact (and_iff_right (by decide)).symm
  next => rfl

theorem isUnmarked_iff (text : Text) :
    IsUnmarked text ↔ (Parts.ofText text).query = none ∧ (Parts.ofText text).fragment = none := by
  rw [← isUnmarked_cutScheme, ← isUnmarked_cutAuthority]
  simp only [Parts.ofText, IsUnmarked]
  generalize (cutAuthority (cutScheme text).2).2 = rest
  rw [Text.cut_snd_eq_none_iff, Text.cut_snd_eq_none_iff]
  constructor
  · rintro ⟨noQuery, noFragment⟩
    rw [Text.cut_of_not_mem noFragment]
    exact ⟨noQuery, noFragment⟩
  · rintro ⟨noQuery, noFragment⟩
    rw [Text.cut_of_not_mem noFragment] at noQuery
    exact ⟨noQuery, noFragment⟩

end Address

namespace Lookup

/-- Read as an address the link has no query and no fragment, and behind the base it spells the title. -/
structure LeadsTo (link base title : Text) : Prop where
  noQuery : (Address.Parts.ofText link).query = none
  noFragment : (Address.Parts.ofText link).fragment = none
  spelled : ∃ written, link = base ++ '/' :: written ∧ Percent.decode? written = some title

theorem leadsTo_iff {base written title : Text} (plain : Address.IsUnmarked base) :
    LeadsTo (base ++ '/' :: written) base title ↔
      Address.IsUnmarked written ∧ Percent.decode? written = some title := by
  have unmarked : Address.IsUnmarked (base ++ '/' :: written) ↔ Address.IsUnmarked written := by
    have slash : Address.IsUnmarked (['/'] ++ written) ↔ Address.IsUnmarked written := by
      rw [Address.isUnmarked_append]
      exact and_iff_right (by decide)
    rw [Address.isUnmarked_append, and_iff_right plain]
    exact slash
  constructor
  · rintro ⟨noQuery, noFragment, other, same, decoded⟩
    obtain ⟨-, rfl⟩ := List.cons.inj (List.append_cancel_left same)
    exact ⟨unmarked.1 ((Address.isUnmarked_iff _).2 ⟨noQuery, noFragment⟩), decoded⟩
  · rintro ⟨bare, decoded⟩
    obtain ⟨noQuery, noFragment⟩ := (Address.isUnmarked_iff _).1 (unmarked.2 bare)
    exact ⟨noQuery, noFragment, written, rfl, decoded⟩

theorem leadsTo_encode {base : Text} (plain : Address.IsUnmarked base) (title : Text) :
    LeadsTo (base ++ '/' :: Percent.encode title) base title := by
  have encoded := Percent.isEncoded_encode title
  exact (leadsTo_iff plain).2
    ⟨⟨encoded.not_mem (by decide), encoded.not_mem (by decide)⟩, Percent.decode?_encode title⟩

variable {τ : Type} [Quantity τ] {topic : Text} {s : Session τ}

theorem settings_summary (topic : Text) (s : Session τ) :
    (summary topic s).2.client.settings = s.client.settings := by
  have kept : (s.afterAsking topic).client.settings = s.client.settings := by
    rw [Session.client_afterAsking]
    rfl
  have answered := answered topic s
  generalize (summary topic s).1 = result at answered
  generalize (summary topic s).2 = next at answered ⊢
  cases answered with
  | kept => rfl
  | arrives | isMisshapen | degrades | fails => exact kept

theorem get?_summary_of_ne {other : Text} (apart : other ≠ Topic.normalize topic) :
    Entries.get? (summary topic s).2.client.cache other = Entries.get? s.client.cache other := by
  have forgotten (missed : s.Misses topic) :
      Entries.get? (s.afterAsking topic).client.cache other = Entries.get? s.client.cache other := by
    rw [Session.client_afterAsking, cache_forgetting missed, Entries.get?_erase_of_ne apart]
  have answered := answered topic s
  generalize (summary topic s).1 = result at answered
  generalize (summary topic s).2 = next at answered ⊢
  cases answered with
  | kept => rfl
  | arrives missed => exact (Entries.get?_put_of_ne apart _ _).trans (forgotten missed)
  | isMisshapen missed | degrades missed | fails missed => exact forgotten missed

structure UsesKey (key topic : Text) (s : Session τ) : Prop where
  finds : ∀ stored record, Entries.get? s.client.cache key = some (stored, record) →
    Cache.isExpired s.client.settings.lifetime s.world.clock stored = false →
      summary topic s = (.ok record, s)
  keeps : ∀ record, s.Misses topic → s.Delivers topic record →
    ∃ stored, Entries.get? (summary topic s).2.client.cache key = some (stored, record)
  spares : ∀ other, other ≠ key →
    Entries.get? (summary topic s).2.client.cache other = Entries.get? s.client.cache other

theorem usesKey_normalize (topic : Text) (s : Session τ) : UsesKey (Topic.normalize topic) topic s where
  finds _ _ present fresh := summary_of_fresh present fresh
  keeps record missed delivered := by
    rw [summary_of_delivery missed delivered]
    exact ⟨_, Entries.get?_put_self _ _ _⟩
  spares _ apart := get?_summary_of_ne apart

omit [Quantity τ] in
theorem page_url_eq_iff {other : Text} :
    (s.page other).url = (s.page topic).url ↔ Topic.normalize other = Topic.normalize topic := by
  simp only [Session.page, Request.url, List.append_cancel_left_eq]
  exact Percent.encode_injective.eq_iff

/-- A topic is asked for at an address from which its key in the cache is read back, so that two topics have
one address if and only if they have one key. This is the address as it is written: a title of one or two
points alone is a step in the path to the server. -/
theorem addressed_by_key (topic : Text) (s : Session τ) :
    let key := Topic.normalize topic
    let written := Percent.encode key
    (s.page topic).url = s.client.settings.baseUrl ++ "/page/summary/".toList ++ written ∧
      Percent.IsEncoded written ∧ Percent.bytes written = Text.utf8 key ∧
      Percent.decode? written = some key ∧ (∀ mark ∈ ['/', '?', '#'], mark ∉ written) ∧
      (∀ other, (s.page other).url = (s.page topic).url ↔ Topic.normalize other = key) ∧
      (s.Misses topic → (summary topic s).2.world.requests =
        s.world.requests ++ s.sent (s.page topic)) ∧
      (¬ s.Misses topic → (summary topic s).2 = s) ∧ UsesKey key topic s := by
  intro key written
  have encoded := Percent.isEncoded_encode key
  refine ⟨rfl, encoded, Percent.bytes_encode key, Percent.decode?_encode key,
    fun mark isMark => encoded.not_mem isMark, fun other => page_url_eq_iff, fun missed => ?_,
    fun present => ?_, usesKey_normalize topic s⟩
  · rw [world_of_misses missed, Session.requests_afterExchange]
  · obtain ⟨stored, record, present, fresh⟩ := (misses_or_keeps topic s).resolve_left present
    rw [summary_of_fresh present fresh]

def pageless : Session Rat :=
  { Session.facing fun _ _ => ⟨.ok ⟨404, []⟩, 0⟩ with
    client.settings.pageBaseUrl := "https://a.b/wiki".toList }

theorem addressed_by_key_of_marks :
    let topic := " C#/100%?".toList
    let url := "https://a.b/page/summary/C%23%2F100%25%3F".toList
    (pageless.page topic).url = url ∧
      (summary topic pageless).2.world.requests.map Request.url = [url] ∧
      (∀ other, (pageless.page other).url = url ↔ Topic.normalize other = "C#/100%?".toList) ∧
      Percent.decode? "C%23%2F100%25%3F".toList = some "C#/100%?".toList := by
  intro topic url
  have spelled : (pageless.page topic).url = url := by decide
  have missed : pageless.Misses topic := by simp [Session.Misses, pageless, Session.facing, Entries.get?]
  obtain ⟨-, -, -, decoded, -, alike, sent, -⟩ := addressed_by_key topic pageless
  refine ⟨spelled, ?_, spelled ▸ alike, decoded⟩
  rw [sent missed]
  decide

/-- The link leads to the title that is asked for if nothing in the title is read as a mark or as an escaped
byte. Escaped as it is in a request, every title would be reached. -/
theorem link_leads_iff (topic : Text) (s : Session τ)
    (plain : Address.IsUnmarked s.client.settings.pageBaseUrl) :
    let title := Topic.normalize topic
    let base := s.client.settings.pageBaseUrl
    let link := pageUrl topic s.client
    (LeadsTo link base title ↔ Address.IsUnmarked title ∧ ¬ Percent.HasEscape title) ∧
      LeadsTo (base ++ '/' :: Percent.encode title) base title ∧
      (Address.IsUnmarked s.client.settings.baseUrl →
        LeadsTo (s.page topic).url (s.client.settings.baseUrl ++ "/page/summary".toList) title) ∧
      ∀ record next, summary topic s = (.ok record, next) → record.canonicalUrl.isPresent = false →
        Builtin.link [topic] s = (.ok (.text link), next) := by
  intro title base link
  refine ⟨?_, leadsTo_encode plain title, fun plain' => ?_, fun record next given bare => ?_⟩
  · rw [← Percent.decode?_eq_self_iff]
    exact leadsTo_iff plain
  · have front : Address.IsUnmarked (s.client.settings.baseUrl ++ "/page/summary".toList) :=
      Address.isUnmarked_append.2 ⟨plain', by decide⟩
    have split : (s.page topic).url =
        s.client.settings.baseUrl ++ "/page/summary".toList ++ '/' :: Percent.encode title := by
      simp [Session.page, Request.url, title]
    rw [split]
    exact leadsTo_encode front title
  · have settings : next.client.settings = s.client.settings := by
      rw [← settings_summary topic s, given]
    simp only [Builtin.link, Builtin.withSummary, given, Value.orElse, bare, link, pageUrl, settings]
    rfl

theorem link_leads_iff_of_words :
    let link := "https://a.b/wiki/Node_js".toList
    Address.IsUnmarked pageless.client.settings.pageBaseUrl ∧
      pageUrl "Node js".toList pageless.client = link ∧
      LeadsTo link "https://a.b/wiki".toList "Node_js".toList ∧
      (Builtin.link ["Node js".toList] pageless).1 = .ok (.text link) := by
  intro link
  have plain : Address.IsUnmarked pageless.client.settings.pageBaseUrl := by decide
  have unlinked : ((summary "Node js".toList pageless).1.toOption.any fun record =>
      !record.canonicalUrl.isPresent) = true := by decide +kernel
  obtain ⟨leads, -, -, linked⟩ := link_leads_iff "Node js".toList pageless plain
  have whole : ¬ Percent.HasEscape "Node_js".toList := Percent.decode?_eq_self_iff.1 (by decide +kernel)
  refine ⟨plain, by decide, leads.2 ⟨by decide, whole⟩, ?_⟩
  obtain ⟨record, given, bare⟩ := exists_ok_of_any unlinked
  rw [linked record _ (Prod.ext given rfl) (by simpa using bare)]
  exact congrArg (fun link => Except.ok (Value.text link)) (by decide)

-- A fragment begins inside the first title and a query inside the second. The third is decoded to "100%".
theorem link_lost_at_marks :
    let base := pageless.client.settings.pageBaseUrl
    Address.IsUnmarked base ∧
      ∀ title ∈ ["C#".toList, "What?".toList, "100%25".toList],
        ¬ LeadsTo (pageUrl title pageless.client) base (Topic.normalize title) := by
  intro base
  have plain : Address.IsUnmarked base := by decide
  have misspelled : ∀ title ∈ ["C#".toList, "What?".toList, "100%25".toList],
      ¬ (Address.IsUnmarked (Topic.normalize title) ∧
        Percent.decode? (Topic.normalize title) = some (Topic.normalize title)) := by decide +kernel
  exact ⟨plain, fun title member leads => misspelled title member ((leadsTo_iff plain).1 leads)⟩

end Lookup

end DocMarkers
