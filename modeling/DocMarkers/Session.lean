import DocMarkers.Reference.Cache
import DocMarkers.Settings.Basic
import DocMarkers.World

set_option autoImplicit false

namespace DocMarkers

-- The client of the reference server. A shared connection stays open when the client is closed.
structure Client (τ : Type) where
  settings : LookupSettings τ
  cache : Cache τ := []
  isShared : Bool := false
  isClosed : Bool := false

-- A client with an empty cache. One with a connection of its own names its user agent, which takes
-- characters of ASCII only.
def Client.ofSettings {τ : Type} (settings : LookupSettings τ) (isShared : Bool) :
    Except Failure (Client τ) :=
  if isShared || settings.userAgent.all fun c => c.toNat < 0x80 then .ok { settings, isShared }
  else .error (.beyondAscii settings.userAgent)

structure Generator where
  modelId : Text
  temperature : Float
  maxNewTokens : Int
  loaded : Option Text := none
  announces : Bool := true

def Generator.isReady (g : Generator) : Bool := g.loaded.isSome

structure Session (τ : Type) where
  world : World τ
  client : Client τ
  generator : Option Generator := none

end DocMarkers
