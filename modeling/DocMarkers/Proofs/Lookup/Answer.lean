import DocMarkers.Reference.Lookup

set_option autoImplicit false

namespace DocMarkers

theorem bind_eq_ok_iff {α β : Type} {result : Except Failure α} {next : α → Except Failure β}
    {value : β} :
    (result >>= next) = .ok value ↔ ∃ given, result = .ok given ∧ next given = .ok value := by
  cases result <;> simp [bind, Except.bind]

theorem exists_ok_of_any {α : Type} {result : Except Failure α} {holds : α → Bool}
    (checked : result.toOption.any holds = true) :
    ∃ value, result = .ok value ∧ holds value = true := by
  cases result with
  | error failure => exact absurd checked Bool.false_ne_true
  | ok value => exact ⟨value, rfl, checked⟩

structure Summary.IsOf (record : Summary) (fields : List (Text × Value)) (topic today : Text) :
    Prop where
  title : record.title = (Value.field fields "title".toList).orElse (.text topic)
  extract : record.extract = (Value.field fields "extract".toList).orElse (.text [])
  timestamp : record.timestamp = (Value.field fields "timestamp".toList).orElse (.text today)
  whole : record.isDegraded = false

theorem Summary.isOf_of_ofFields {fields : List (Text × Value)} {topic today : Text}
    {record : Summary} (built : ofFields fields topic today = .ok record) :
    record.IsOf fields topic today := by
  simp only [ofFields, bind_eq_ok_iff, pure, Except.pure, Except.ok.injEq] at built
  obtain ⟨_, -, _, -, _, -, _, -, rfl⟩ := built
  exact ⟨rfl, rfl, rfl, rfl⟩

variable {τ : Type} [Quantity τ]

def Response.Brings (depth : Nat) (response : Response) (value : Value) : Prop :=
  response.isSuccess = true ∧ Json.decode depth response.body = .ok value

def Response.IsTooDeep (depth : Nat) (response : Response) : Prop :=
  response.isSuccess = true ∧
    ∃ inObject, Json.decode depth response.body = .error (.nestedTooDeep inObject)

namespace Session

def canSend (request : Request) (s : Session τ) : Bool :=
  !s.client.isClosed && (s.world.addressOf request).isOk

def sent (request : Request) (s : Session τ) : List Request :=
  if s.canSend request then [request] else []

def afterExchange (request : Request) (s : Session τ) : Session τ :=
  if s.canSend request then { s with world := (s.world.send request).2 } else s

section AfterExchange

variable (request : Request) (s : Session τ)

@[simp] theorem client_afterExchange : (s.afterExchange request).client = s.client := by
  unfold afterExchange
  split <;> rfl

@[simp] theorem server_afterExchange :
    (s.afterExchange request).world.server = s.world.server := by
  unfold afterExchange
  split <;> rfl

@[simp] theorem addressOf_afterExchange :
    (s.afterExchange request).world.addressOf = s.world.addressOf := by
  unfold afterExchange
  split <;> rfl

@[simp] theorem readDepth_afterExchange :
    (s.afterExchange request).world.readDepth = s.world.readDepth := by
  unfold afterExchange
  split <;> rfl

@[simp] theorem today_afterExchange : (s.afterExchange request).world.today = s.world.today := by
  unfold afterExchange
  split <;> rfl

@[simp] theorem requests_afterExchange :
    (s.afterExchange request).world.requests = s.world.requests ++ s.sent request := by
  unfold afterExchange sent
  split
  next => rfl
  next => exact (List.append_nil _).symm

theorem clock_afterExchange :
    (s.afterExchange request).world.clock =
      if s.canSend request then
        Quantity.add s.world.clock (s.world.server s.world.requests request).delay
      else s.world.clock := by
  unfold afterExchange
  split <;> rfl

end AfterExchange

def page (topic : Text) (s : Session τ) : Request :=
  .page s.client.settings.baseUrl (Topic.normalize topic)

def searchFor (query : Text) (limit : Value) (s : Session τ) : Request :=
  .search s.client.settings.searchUrl query limit.render

/-- No summary of the topic is kept that is not too old. -/
def Misses (topic : Text) (s : Session τ) : Prop :=
  ∀ stored summary, Entries.get? s.client.cache (Topic.normalize topic) = some (stored, summary) →
    Cache.isExpired s.client.settings.lifetime s.world.clock stored = true

def forgetting (topic : Text) (s : Session τ) : Session τ :=
  (Lookup.cached (Topic.normalize topic) s).2

def afterAsking (topic : Text) (s : Session τ) : Session τ :=
  (s.forgetting topic).afterExchange (s.page topic)

theorem client_afterAsking (topic : Text) (s : Session τ) :
    (s.afterAsking topic).client = (s.forgetting topic).client :=
  client_afterExchange _ _

theorem world_afterAsking (topic : Text) (s : Session τ) :
    (s.afterAsking topic).world = (s.afterExchange (s.page topic)).world := by
  have same : (s.forgetting topic).canSend (s.page topic) = s.canSend (s.page topic) := rfl
  unfold afterAsking afterExchange
  rw [same]
  split <;> rfl

end Session

namespace Lookup

variable {request : Request} {topic : Text} {s other : Session τ}

theorem payload_eq_some_iff {depth : Nat} {response : Response} {value : Value} :
    payload depth response = .ok (some value) ↔ response.Brings depth value := by
  unfold payload Response.Brings
  cases response.isSuccess with
  | false => simp
  | true => rcases Json.decode depth response.body with (_ | _ | _ | _) | _ <;> simp

theorem payload_eq_error_iff {depth : Nat} {response : Response} :
    (∃ failure, payload depth response = .error failure) ↔ response.IsTooDeep depth := by
  unfold payload Response.IsTooDeep
  cases response.isSuccess with
  | false => simp
  | true => rcases Json.decode depth response.body with (_ | _ | _ | _) | _ <;> simp

theorem exchange_snd (request : Request) (s : Session τ) :
    (exchange request s).2 = s.afterExchange request := by
  unfold exchange Session.afterExchange Session.canSend
  cases s.world.addressOf request with
  | error fault => simp [Except.isOk, Except.toBool]
  | ok address => cases s.client.isClosed <;> simp [Except.isOk, Except.toBool, World.send]

-- What an exchange comes to depends on the server alone, once the client is open.
theorem exchange_congr (closed : s.client.isClosed = other.client.isClosed)
    (address : s.world.addressOf request = other.world.addressOf request)
    (answer : (s.world.server s.world.requests request).outcome =
      (other.world.server other.world.requests request).outcome) :
    (exchange request s).1 = (exchange request other).1 := by
  unfold exchange
  rw [closed, address]
  cases other.world.addressOf request with
  | error fault => rfl
  | ok address => cases other.client.isClosed <;> simp [World.send, answer]

theorem fetch_eq (request : Request) (s : Session τ) :
    fetch request s =
      (match (exchange request s).1 with
        | .ok response => payload s.world.readDepth response
        | .error failure => if failure.isExchangeFault then .ok none else .error failure,
       s.afterExchange request) := by
  have depth := Session.readDepth_afterExchange request s
  rw [← exchange_snd] at depth ⊢
  unfold fetch
  rcases answer : exchange request s with ⟨failure | response, next⟩ <;> rw [answer] at depth
  · dsimp only
    split <;> rfl
  · exact congrArg (payload · response, next) depth

theorem fetch_snd (request : Request) (s : Session τ) :
    (fetch request s).2 = s.afterExchange request := by
  rw [fetch_eq]

theorem search_eq (query : Text) (limit : Value) (s : Session τ) :
    search query limit s =
      (match (fetch (s.searchFor query limit) s).1 with
        | .error failure => .error failure
        | .ok (some (.list items)) => SearchHit.ofResult items
        | .ok _ => .ok [],
       s.afterExchange (s.searchFor query limit)) := by
  rw [← fetch_snd]
  unfold search Session.searchFor
  rcases fetch (.search s.client.settings.searchUrl query limit.render) s with
    ⟨failure | _ | value, next⟩
  · rfl
  · rfl
  · cases value <;> rfl

theorem fetch_congr (closed : s.client.isClosed = other.client.isClosed)
    (address : s.world.addressOf request = other.world.addressOf request)
    (depth : s.world.readDepth = other.world.readDepth)
    (answer : (s.world.server s.world.requests request).outcome =
      (other.world.server other.world.requests request).outcome) :
    (fetch request s).1 = (fetch request other).1 := by
  rw [fetch_eq, fetch_eq, exchange_congr closed address answer, depth]

theorem fetch_eq_some_iff {value : Value} :
    (fetch request s).1 = .ok (some value) ↔
      ∃ response, (exchange request s).1 = .ok response ∧
        response.Brings s.world.readDepth value := by
  rw [fetch_eq]
  rcases (exchange request s).1 with failure | response
  · dsimp only
    split <;> simp
  · simp [payload_eq_some_iff]

theorem answer_of_exchange {response : Response} (answered : (exchange request s).1 = .ok response) :
    s.canSend request = true ∧
      (s.world.server s.world.requests request).outcome = .ok response := by
  unfold exchange at answered
  unfold Session.canSend
  cases address : s.world.addressOf request with
  | error fault => simp [address] at answered
  | ok address' =>
    cases closed : s.client.isClosed with
    | true => simp [address, closed] at answered
    | false =>
      refine ⟨rfl, ?_⟩
      simp only [address, closed, World.send] at answered
      cases outcome : (s.world.server s.world.requests request).outcome with
      | error failure => simp [outcome, Except.bind] at answered
      | ok response' =>
        cases absolute : address'.isAbsolute with
        | false => simp [outcome, Except.bind, absolute] at answered
        | true => simpa [outcome, Except.bind, absolute] using answered

end Lookup

def Session.Delivers (topic : Text) (s : Session τ) (summary : Summary) : Prop :=
  ∃ response fields, (Lookup.exchange (s.page topic) s).1 = .ok response ∧
    response.Brings s.world.readDepth (.object fields) ∧ Summary.ofFields fields topic s.world.today = .ok summary

theorem Session.Delivers.whole {topic : Text} {s : Session τ} {summary : Summary}
    (delivered : s.Delivers topic summary) : summary.isDegraded = false := by
  obtain ⟨_, _, _, _, built⟩ := delivered
  exact (Summary.isOf_of_ofFields built).whole

namespace Lookup

variable {request : Request} {topic : Text} {s other : Session τ}

theorem delivers_iff {record : Summary} :
    s.Delivers topic record ↔
      ∃ fields, (fetch (s.page topic) s).1 = .ok (some (.object fields)) ∧
        Summary.ofFields fields topic s.world.today = .ok record := by
  simp only [Session.Delivers, fetch_eq_some_iff]
  constructor
  · rintro ⟨response, fields, answer, brings, built⟩
    exact ⟨fields, ⟨response, answer, brings⟩, built⟩
  · rintro ⟨fields, ⟨response, answer, brings⟩, built⟩
    exact ⟨response, fields, answer, brings, built⟩

inductive Answered (topic : Text) (s : Session τ) : Except Failure Summary → Session τ → Prop
  | kept {stored : τ} {summary : Summary}
      (present : Entries.get? s.client.cache (Topic.normalize topic) = some (stored, summary))
      (fresh : Cache.isExpired s.client.settings.lifetime s.world.clock stored = false) :
    Answered topic s (.ok summary) s
  | arrives {fields : List (Text × Value)} {summary : Summary} (missed : s.Misses topic)
      (fetched : (fetch (s.page topic) s).1 = .ok (some (.object fields)))
      (built : Summary.ofFields fields topic s.world.today = .ok summary) :
    Answered topic s (.ok summary) (store (Topic.normalize topic) summary (s.afterAsking topic))
  | isMisshapen {fields : List (Text × Value)} {failure : Failure} (missed : s.Misses topic)
      (fetched : (fetch (s.page topic) s).1 = .ok (some (.object fields)))
      (unbuilt : Summary.ofFields fields topic s.world.today = .error failure) :
    Answered topic s (.error failure) (s.afterAsking topic)
  | degrades {value : Option Value} (missed : s.Misses topic)
      (fetched : (fetch (s.page topic) s).1 = .ok value)
      (bare : ∀ fields, value ≠ some (.object fields)) :
    Answered topic s (.ok (.degraded topic s.world.today)) (s.afterAsking topic)
  | fails {failure : Failure} (missed : s.Misses topic)
      (failed : (fetch (s.page topic) s).1 = .error failure) :
    Answered topic s (.error failure) (s.afterAsking topic)

theorem cached_of_fresh {stored : τ} {summary : Summary}
    (present : Entries.get? s.client.cache (Topic.normalize topic) = some (stored, summary))
    (fresh : Cache.isExpired s.client.settings.lifetime s.world.clock stored = false) :
    cached (Topic.normalize topic) s = (some summary, s) := by
  simp [cached, Cache.lookUp, present, fresh]

theorem cached_of_misses (missed : s.Misses topic) :
    cached (Topic.normalize topic) s = (none, s.forgetting topic) := by
  refine Prod.ext ?_ rfl
  unfold cached Cache.lookUp
  rcases present : Entries.get? s.client.cache (Topic.normalize topic) with _ | ⟨stored, summary⟩
  · rfl
  · simp [missed stored summary present]

theorem summary_of_fresh {stored : τ} {record : Summary}
    (present : Entries.get? s.client.cache (Topic.normalize topic) = some (stored, record))
    (fresh : Cache.isExpired s.client.settings.lifetime s.world.clock stored = false) :
    summary topic s = (.ok record, s) := by
  simp only [summary, cached_of_fresh present fresh]

theorem summary_of_misses (missed : s.Misses topic) :
    summary topic s =
      match (fetch (s.page topic) s).1 with
      | .error failure => (.error failure, s.afterAsking topic)
      | .ok (some (.object fields)) =>
        match Summary.ofFields fields topic s.world.today with
        | .error failure => (.error failure, s.afterAsking topic)
        | .ok summary =>
          (.ok summary, store (Topic.normalize topic) summary (s.afterAsking topic))
      | .ok _ => (.ok (.degraded topic s.world.today), s.afterAsking topic) := by
  have after : fetch (s.page topic) (s.forgetting topic) =
      ((fetch (s.page topic) s).1, s.afterAsking topic) :=
    Prod.ext (fetch_congr rfl rfl rfl rfl) (fetch_snd _ _)
  have today : (s.afterAsking topic).world.today = s.world.today := by
    rw [Session.world_afterAsking, Session.today_afterExchange]
  have request : Request.page (s.forgetting topic).client.settings.baseUrl (Topic.normalize topic) =
      s.page topic := rfl
  simp only [summary, cached_of_misses missed, request, after]
  rcases (fetch (s.page topic) s).1 with failure | _ | value
  · rfl
  · simp only [today]
  · cases value with
    | object fields =>
      have builds : Summary.ofFields fields topic (s.afterAsking topic).world.today =
          Summary.ofFields fields topic s.world.today := by rw [today]
      cases built : Summary.ofFields fields topic s.world.today <;> simp only [builds, built]
    | _ => simp only [today]

theorem summary_of_delivery (missed : s.Misses topic) {record : Summary}
    (delivered : s.Delivers topic record) :
    summary topic s =
      (.ok record, store (Topic.normalize topic) record (s.afterAsking topic)) := by
  obtain ⟨fields, fetched, built⟩ := delivers_iff.1 delivered
  rw [summary_of_misses missed, fetched]
  simp only [built]

theorem session_of_lack (missed : s.Misses topic) (lacking : ∀ record, ¬ s.Delivers topic record) :
    (summary topic s).2 = s.afterAsking topic := by
  rw [summary_of_misses missed]
  split
  next => rfl
  next fields fetched =>
    split
    next => rfl
    next built => exact absurd (delivers_iff.2 ⟨fields, fetched, built⟩) (lacking _)
  next => rfl

theorem world_of_misses (missed : s.Misses topic) :
    (summary topic s).2.world = (s.afterExchange (s.page topic)).world := by
  rw [← Session.world_afterAsking]
  by_cases delivered : ∃ record, s.Delivers topic record
  · obtain ⟨record, delivered⟩ := delivered
    rw [summary_of_delivery missed delivered]
    rfl
  · rw [session_of_lack missed (not_exists.1 delivered)]

theorem cache_forgetting (missed : s.Misses topic) :
    (s.forgetting topic).client.cache = Entries.erase s.client.cache (Topic.normalize topic) := by
  simp only [Session.forgetting, cached, Cache.lookUp]
  rcases present : Entries.get? s.client.cache (Topic.normalize topic) with _ | ⟨stored, summary⟩
  · exact (Entries.erase_of_get?_eq_none present).symm
  · simp [missed stored summary present]

theorem present_of_forgetting (missed : s.Misses topic) {title : Text} {entry : τ × Summary}
    (present : Entries.get? (s.forgetting topic).client.cache title = some entry) :
    Entries.get? s.client.cache title = some entry := by
  rw [cache_forgetting missed] at present
  by_cases same : title = Topic.normalize topic
  · rw [same, Entries.get?_erase_self] at present
    contradiction
  · rwa [Entries.get?_erase_of_ne same] at present

omit [Quantity τ] in
theorem present_of_store {title other : Text} {record : Summary} {entry : τ × Summary}
    (present : Entries.get? (store title record s).client.cache other = some entry) :
    other = title ∧ entry = (s.world.clock, record) ∨
      other ≠ title ∧ Entries.get? s.client.cache other = some entry := by
  by_cases same : other = title
  · subst same
    rw [store, Cache.store, Entries.get?_put_self] at present
    exact .inl ⟨rfl, (Option.some.inj present).symm⟩
  · rw [store, Cache.store, Entries.get?_put_of_ne same] at present
    exact .inr ⟨same, present⟩

theorem misses_or_keeps (topic : Text) (s : Session τ) :
    s.Misses topic ∨ ∃ stored summary,
      Entries.get? s.client.cache (Topic.normalize topic) = some (stored, summary) ∧
        Cache.isExpired s.client.settings.lifetime s.world.clock stored = false := by
  rcases present : Entries.get? s.client.cache (Topic.normalize topic) with _ | ⟨stored, summary⟩
  · exact .inl (by simp [Session.Misses, present])
  · cases expired : Cache.isExpired s.client.settings.lifetime s.world.clock stored with
    | true => exact .inl (by simp [Session.Misses, present, expired])
    | false => exact .inr ⟨stored, summary, rfl, expired⟩

theorem answered (topic : Text) (s : Session τ) :
    Answered topic s (summary topic s).1 (summary topic s).2 := by
  rcases misses_or_keeps topic s with missed | ⟨stored, record, present, fresh⟩
  · rw [summary_of_misses missed]
    rcases fetched : (fetch (s.page topic) s).1 with failure | _ | value
    · exact .fails missed fetched
    · exact .degrades missed fetched (by simp)
    · cases value with
      | object fields =>
        cases built : Summary.ofFields fields topic s.world.today with
        | error failure => simpa only [built] using Answered.isMisshapen missed fetched built
        | ok summary => simpa only [built] using Answered.arrives missed fetched built
      | _ => exact .degrades missed fetched (by simp)
  · rw [summary_of_fresh present fresh]
    exact .kept present fresh

end Lookup

def Session.facing (server : List Request → Request → Reply Failure Response Rat) : Session Rat where
  world :=
    { clock := 0, today := [], server
      loader := fun _ _ => none
      model := fun _ _ => ⟨.error (.told .modelGone), 0⟩ }
  client :=
    { settings :=
        { baseUrl := "https://a.b".toList, searchUrl := "https://a.b/search".toList
          pageBaseUrl := [], lifetime := 60, timeout := 1, userAgent := [] } }

end DocMarkers
