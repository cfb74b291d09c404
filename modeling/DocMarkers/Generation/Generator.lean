import DocMarkers.Generation.Catalog
import DocMarkers.Session
import DocMarkers.Value.Text

set_option autoImplicit false

namespace DocMarkers

namespace Generator

def ofSettings (settings : GeneratorSettings) : Generator where
  modelId := ModelInfo.resolve settings.model
  temperature := settings.temperature
  maxNewTokens := settings.maxNewTokens

-- A temperature between 0 and 1. What is not below 1 becomes 1.
def clamp (value : Number) : Float :=
  if value.lt (.float 1.0) then (if (Number.float 0.0).lt value then value.toFloat else 0.0)
  else 1.0

def setTemperature (g : Generator) (value : Value) : Except Failure Generator :=
  match value with
  | .int i => .ok { g with temperature := clamp (.int i) }
  | .float x => .ok { g with temperature := clamp (.float x) }
  | .bool b => .ok { g with temperature := clamp (.int (if b then 1 else 0)) }
  | _ => .error .wrongKind

def partText (depth : Nat) : Value → Except Failure Text
  | .object fields => ((Entries.get? fields "text".toList).getD (.object fields)).write depth
  | value => value.write depth

def messageText (depth : Nat) : Value → Except Failure Text
  | .list parts => (parts.mapM (partText depth)).map (Text.join [' '])
  | value => value.write depth

variable {τ : Type} [Quantity τ]

def announce (g : Generator) (event : Progress) (world : World τ) : World τ :=
  if g.announces then world.announce event else world

def endLoad (g : Generator) (model : Text) (world : World τ) :
    Except Failure Unit × Generator × World τ :=
  match world.load model with
  | (some failure, world) => (.error failure, g, world)
  | (none, world) => (.ok (), { g with loaded := some model }, g.announce (.ready model) world)

def load (g : Generator) (world : World τ) : Except Failure Unit × Generator × World τ :=
  if g.isReady then (.ok (), g, world)
  else g.endLoad g.modelId (g.announce (.initiate g.modelId) world)

def exchange (g : Generator) (name : Text) : Generator :=
  { g with modelId := ModelInfo.resolve name, loaded := none }

def setModel (g : Generator) (name : Text) (world : World τ) :
    Except Failure Unit × Generator × World τ :=
  (g.exchange name).load world

structure Options where
  maxNewTokens : Option Int := none
  temperature : Option Number := none
  deterministic : Option Bool := none

def callFor (g : Generator) (prompt : Text) (options : Options) : Call :=
  let temperature := options.temperature.getD (.float g.temperature)
  let deterministic := options.deterministic.getD (temperature.le (.int 0))
  { prompt
    maxTokens := match options.maxNewTokens with
      | none => g.maxNewTokens
      | some n => if n = 0 then g.maxNewTokens else n
    temperature := if deterministic then .float 0.0 else temperature }

-- A failure that cannot be told and a message that cannot be written are not told as a failed
-- generation.
def complete (g : Generator) (call : Call) (world : World τ) : Except Failure Text × World τ :=
  match world.complete call with
  | (.error (.told failure), world) => (.error (.generationFailed g.modelId failure.message), world)
  | (.error (.untold fault), world) => (.error fault, world)
  | (.ok message, world) => ((messageText world.writeDepth message).map Text.trim, world)

def unavailable (g : Generator) (failure : Failure) : Failure :=
  .modelUnavailable g.modelId failure.message

def generate (g : Generator) (prompt : Text) (options : Options) (world : World τ) :
    Except Failure Text × Generator × World τ :=
  match g.load world with
  | (.error failure, g, world) => (.error (g.unavailable failure), g, world)
  | (.ok (), g, world) =>
    let (result, world) := g.complete (g.callFor prompt options) world
    (result, g, world)

end Generator

end DocMarkers
