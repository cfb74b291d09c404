import DocMarkers.Generation.Generator
import DocMarkers.Settings.Basic

set_option autoImplicit false

namespace DocMarkers

inductive Refusal where
  | failure (failure : Failure)
  | issues (issues : List Issue)

namespace Environment

def generator (environment : Entries Text Text) : Checked (Option Generator) :=
  match Entries.get? environment "OPENAI_API_KEY".toList with
  | none => .ok none
  | some [] => .ok none
  | some _ =>
    let model :=
      (Entries.get? environment "DOCUFRESH_MODEL".toList).getD GeneratorSettings.defaults.model
    (GeneratorSettings.read [("model".toList, .text model)]).map fun settings =>
      some (Generator.ofSettings settings)

def lookupSettings (environment : Entries Text Text) : Except Refusal (LookupSettings Float) :=
  match Entries.get? environment "DOCUFRESH_CACHE_TTL".toList with
  | none => .ok LookupSettings.defaults
  | some text =>
    match Decimal.handwritten? text with
    | none => .error (.failure (.unreadableNumber text))
    | some lifetime =>
      (LookupSettings.read [("cache_ttl_seconds".toList, .float lifetime)]).mapError .issues

def read (environment : Entries Text Text) :
    Except Refusal (Option Generator × LookupSettings Float) :=
  match generator environment with
  | .error issues => .error (.issues issues)
  | .ok generator => (lookupSettings environment).map fun settings => (generator, settings)

end Environment

end DocMarkers
