import DocMarkers.Settings.Field

set_option autoImplicit false

namespace DocMarkers

structure LookupSettings (τ : Type) where
  baseUrl : Text
  searchUrl : Text
  pageBaseUrl : Text
  lifetime : τ
  timeout : τ
  userAgent : Text

structure GeneratorSettings where
  model : Text
  temperature : Float
  maxNewTokens : Int

structure ResolutionSettings where
  maxIterations : Nat
  -- Whether the markers of an iteration may be dispatched together. Handlers that never wait answer
  -- the same either way.
  concurrent : Bool
  searchFallback : Bool
  maxIterations_pos : 0 < maxIterations := by decide

namespace LookupSettings

def defaults : LookupSettings Float where
  baseUrl := "https://en.wikipedia.org/api/rest_v1".toList
  searchUrl := "https://en.wikipedia.org/w/api.php".toList
  pageBaseUrl := "https://en.wikipedia.org/wiki".toList
  lifetime := 3600.0
  timeout := 10.0
  userAgent := "DocuFresh-AI/0.1.0 (https://github.com/manthenavamsi/docufresh-ai)".toList

def lifetimeOf (value : Value) : Field.Read Float :=
  Field.checked (fun x => 0.0 ≤ x) .atLeast (Field.float value)

def read (fields : List (Text × Value)) : Checked (LookupSettings Float) :=
  let baseUrl := Field.withDefault fields "base_url".toList defaults.baseUrl Field.text
  let searchUrl := Field.withDefault fields "search_url".toList defaults.searchUrl Field.text
  let pageBaseUrl := Field.withDefault fields "page_base_url".toList defaults.pageBaseUrl Field.text
  let lifetime := Field.withDefault fields "cache_ttl_seconds".toList defaults.lifetime lifetimeOf
  let timeout := Field.withDefault fields "timeout_seconds".toList defaults.timeout fun value =>
    Field.checked (fun x => 0.0 < x) .above (Field.float value)
  let userAgent := Field.withDefault fields "user_agent".toList defaults.userAgent Field.text
  match baseUrl, searchUrl, pageBaseUrl, lifetime, timeout, userAgent with
  | .ok baseUrl, .ok searchUrl, .ok pageBaseUrl, .ok lifetime, .ok timeout, .ok userAgent =>
    .ok { baseUrl, searchUrl, pageBaseUrl, lifetime, timeout, userAgent }
  | _, _, _, _, _, _ =>
    .error (Field.issues "base_url".toList baseUrl ++ Field.issues "search_url".toList searchUrl ++
      Field.issues "page_base_url".toList pageBaseUrl ++
      Field.issues "cache_ttl_seconds".toList lifetime ++
      Field.issues "timeout_seconds".toList timeout ++ Field.issues "user_agent".toList userAgent)

def toFields (s : LookupSettings Float) : List (Text × Value) :=
  [("base_url".toList, .text s.baseUrl), ("search_url".toList, .text s.searchUrl),
    ("page_base_url".toList, .text s.pageBaseUrl),
    ("cache_ttl_seconds".toList, .float s.lifetime), ("timeout_seconds".toList, .float s.timeout),
    ("user_agent".toList, .text s.userAgent)]

end LookupSettings

namespace GeneratorSettings

def defaults : GeneratorSettings where
  model := "small".toList
  temperature := 0.0
  maxNewTokens := 100

def temperatureOf (value : Value) : Field.Read Float :=
  Field.checked (fun x => 0.0 ≤ x) .atLeast
    (Field.checked (fun x => x ≤ 1.0) .atMost (Field.float value))

def read (fields : List (Text × Value)) : Checked GeneratorSettings :=
  let model := Field.withDefault fields "model".toList defaults.model Field.text
  let temperature :=
    Field.withDefault fields "temperature".toList defaults.temperature temperatureOf
  let maxNewTokens :=
    Field.withDefault fields "default_max_new_tokens".toList defaults.maxNewTokens fun value =>
      Field.checked (fun i => 1 ≤ i) .atLeast (Field.int value)
  match model, temperature, maxNewTokens with
  | .ok model, .ok temperature, .ok maxNewTokens => .ok { model, temperature, maxNewTokens }
  | _, _, _ =>
    .error (Field.issues "model".toList model ++ Field.issues "temperature".toList temperature ++
      Field.issues "default_max_new_tokens".toList maxNewTokens)

def toFields (s : GeneratorSettings) : List (Text × Value) :=
  [("model".toList, .text s.model), ("temperature".toList, .float s.temperature),
    ("default_max_new_tokens".toList, .int s.maxNewTokens)]

end GeneratorSettings

namespace ResolutionSettings

def defaults : ResolutionSettings where
  maxIterations := 10
  concurrent := false
  searchFallback := true

def iterationsOf (value : Value) : Field.Read { n : Nat // 0 < n } :=
  match Field.int value with
  | .error kind => .error kind
  | .ok (.ofNat (n + 1)) => .ok ⟨n + 1, Nat.succ_pos n⟩
  | .ok _ => .error .atLeast

def read (fields : List (Text × Value)) : Checked ResolutionSettings :=
  let maxIterations :=
    Field.withDefault fields "max_iterations".toList
      ⟨defaults.maxIterations, defaults.maxIterations_pos⟩ iterationsOf
  let concurrent :=
    Field.withDefault fields "concurrent_dispatch".toList defaults.concurrent Field.bool
  let searchFallback :=
    Field.withDefault fields "search_fallback".toList defaults.searchFallback Field.bool
  match maxIterations, concurrent, searchFallback with
  | .ok maxIterations, .ok concurrent, .ok searchFallback =>
    .ok { maxIterations := maxIterations.1, concurrent, searchFallback,
          maxIterations_pos := maxIterations.2 }
  | _, _, _ =>
    .error (Field.issues "max_iterations".toList maxIterations ++
      Field.issues "concurrent_dispatch".toList concurrent ++
      Field.issues "search_fallback".toList searchFallback)

def toFields (s : ResolutionSettings) : List (Text × Value) :=
  [("max_iterations".toList, .int s.maxIterations),
    ("concurrent_dispatch".toList, .bool s.concurrent),
    ("search_fallback".toList, .bool s.searchFallback)]

end ResolutionSettings

end DocMarkers
