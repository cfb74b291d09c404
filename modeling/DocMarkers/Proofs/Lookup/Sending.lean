import DocMarkers.Proofs.Lookup.Addresses

set_option autoImplicit false

namespace DocMarkers

namespace Address

theorem isControl_of_isAlphanum {c : Char} (plain : c.isAlphanum = true) :
    isControl c = false := by
  have ascii : ∀ n < 128, isControl (Char.ofNat n) = true → (Char.ofNat n).isAlphanum = false := by
    decide +kernel
  rw [Bool.eq_false_iff]
  intro control
  have small : c.toNat < 128 := by
    simp only [isControl, Bool.or_eq_true, decide_eq_true_eq] at control
    omega
  have excluded := ascii c.toNat small
  rw [Char.ofNat_toNat] at excluded
  exact absurd plain (by simp [excluded control])

theorem isControl_of_isEncoded {text : Text} (encoded : Percent.IsEncoded text) :
    ∀ c ∈ text, isControl c = false := by
  intro c member
  rcases encoded.written c member with plain | sign
  · exact isControl_of_isAlphanum plain
  · obtain rfl | rfl | rfl | rfl | rfl :
        c = '_' ∨ c = '.' ∨ c = '-' ∨ c = '~' ∨ c = '%' := by simpa using sign
    all_goals decide

theorem ofText_site {path : Text} (unmarked : IsUnmarked path) :
    Parts.ofText ("https://en.wikipedia.org/".toList ++ path) =
      { scheme := "https".toList, authority := "en.wikipedia.org".toList, path := '/' :: path } := by
  have scheme : cutScheme ("https://en.wikipedia.org/".toList ++ path) =
      ("https".toList, "//en.wikipedia.org/".toList ++ path) := rfl
  have authority : cutAuthority ("//en.wikipedia.org/".toList ++ path) =
      ("en.wikipedia.org".toList, '/' :: path) := rfl
  have noFragment : '#' ∉ '/' :: path := by simp [unmarked.2]
  have noQuery : '?' ∉ '/' :: path := by simp [unmarked.1]
  simp only [Parts.ofText, scheme, authority, Text.cut_of_not_mem noFragment,
    Text.cut_of_not_mem noQuery]

theorem ofParts_site (path : Text) :
    ∃ address, address.isAbsolute = true ∧
      ofParts { scheme := "https".toList, authority := "en.wikipedia.org".toList
                path := '/' :: path } = .ok address := by
  have server : cutLast '@' "en.wikipedia.org".toList = (none, "en.wikipedia.org".toList) := by
    decide
  have host : cutPortNumber "en.wikipedia.org".toList = ("en.wikipedia.org".toList, []) := by decide
  have normal : Host.normalize "en.wikipedia.org".toList = .ok "en.wikipedia.org".toList := by
    decide +kernel
  simp only [ofParts, server, host, normal]
  exact ⟨_, rfl, rfl⟩

end Address

namespace Request

open Address (lengthLimit)

theorem address_of_long {request : Request} (long : lengthLimit < request.url.length) :
    request.address = .error .tooLong := by
  have unread : Address.read request.url = .error .tooLong := if_pos long
  rw [address, unread]
  rfl

theorem address_page (title : Text) :
    let request := Request.page "https://en.wikipedia.org/api/rest_v1".toList title
    (∃ address, request.address = .ok address) ↔ request.url.length ≤ lengthLimit := by
  intro request
  constructor
  · rintro ⟨address, given⟩
    by_contra long
    rw [address_of_long (Nat.lt_of_not_le long)] at given
    contradiction
  · intro short
    have encoded := Percent.isEncoded_encode title
    let path := "api/rest_v1/page/summary/".toList ++ Percent.encode title
    have spelled : request.url = "https://en.wikipedia.org/".toList ++ path := rfl
    have unmarked : Address.IsUnmarked path :=
      Address.isUnmarked_append.2
        ⟨by decide, encoded.not_mem (by decide), encoded.not_mem (by decide)⟩
    have plain : request.url.find? Address.isControl = none := by
      refine List.find?_eq_none.2 fun c member => ?_
      have site := List.any_eq_false.1
        (show "https://en.wikipedia.org/api/rest_v1/page/summary/".toList.any Address.isControl =
          false by decide)
      rcases List.mem_append.1 member with fixed | written
      · exact site c fixed
      · simp [Address.isControl_of_isEncoded encoded c written]
    obtain ⟨address, isAbsolute, read⟩ := Address.ofParts_site path
    have given : Address.read request.url = .ok address := by
      rw [Address.read, if_neg (Nat.not_lt.2 short), plain, spelled, Address.ofText_site unmarked]
      exact read
    refine ⟨address, ?_⟩
    rw [Request.address, given]
    simp [Address.onServer, isAbsolute, bind, Except.bind, pure, Except.pure, request]

end Request

namespace Lookup

variable {τ : Type} [Quantity τ] {topic : Text} {s : Session τ}

/-- A request for the topic goes out: the client is open, and there is an address to send it to. -/
def CanAsk (topic : Text) (s : Session τ) : Prop :=
  s.client.isClosed = false ∧ ∃ address, s.world.addressOf (s.page topic) = .ok address

omit [Quantity τ] in
theorem canSend_page_iff : s.canSend (s.page topic) = true ↔ CanAsk topic s := by
  unfold Session.canSend CanAsk
  cases s.world.addressOf (s.page topic) <;> simp [Except.isOk, Except.toBool]

omit [Quantity τ] in
theorem canAsk_iff (reader : s.world.addressOf = Request.address)
    (base : s.client.settings.baseUrl = LookupSettings.defaults.baseUrl) (topic : Text) :
    CanAsk topic s ↔
      s.client.isClosed = false ∧ (s.page topic).url.length ≤ Address.lengthLimit := by
  have spelled : s.page topic =
      .page "https://en.wikipedia.org/api/rest_v1".toList (Topic.normalize topic) := by
    rw [Session.page, base]
    rfl
  rw [CanAsk, reader, spelled]
  exact and_congr_right fun _ => Request.address_page (Topic.normalize topic)

theorem fetch_of_unread {request : Request} {fault : Address.Fault}
    (unread : s.world.addressOf request = .error fault) :
    fetch request s = (.error (.invalidAddress fault.message), s) := by
  simp only [fetch, exchange, unread]
  rfl

-- Neither fault of an unsent request is answered by a degraded summary.
theorem summary_of_unsent (missed : s.Misses topic) (unsent : ¬ CanAsk topic s) :
    ∃ failure, (summary topic s).1 = .error failure := by
  obtain ⟨failure, failed⟩ : ∃ failure, (fetch (s.page topic) s).1 = .error failure := by
    cases address : s.world.addressOf (s.page topic) with
    | error fault => exact ⟨_, congrArg Prod.fst (fetch_of_unread address)⟩
    | ok address' =>
      cases closed : s.client.isClosed with
      | false => exact absurd ⟨closed, address', address⟩ unsent
      | true =>
        rw [fetch_eq]
        simp only [exchange, address, closed]
        exact ⟨_, rfl⟩
  rw [summary_of_misses missed, failed]
  exact ⟨failure, rfl⟩

end Lookup

end DocMarkers
