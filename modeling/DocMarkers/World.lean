import DocMarkers.Address.Reader
import DocMarkers.Failure
import DocMarkers.Number
import DocMarkers.Text.Percent
import DocMarkers.Value.Basic

set_option autoImplicit false

namespace DocMarkers

inductive Request where
  | page (base title : Text)
  | search (address query limit : Text)
deriving DecidableEq, Repr

namespace Request

def url : Request → Text
  | page base title => base ++ "/page/summary/".toList ++ Percent.encode title
  | search address _ _ => address

def parameters : Request → List (Text × Text)
  | page _ _ => []
  | search _ query limit =>
    [("action".toList, "opensearch".toList), ("search".toList, query), ("limit".toList, limit),
      ("format".toList, "json".toList), ("origin".toList, "*".toList)]

def query (request : Request) : Text :=
  Text.join ['&'] (request.parameters.map fun (name, value) =>
    Percent.encodeField name ++ '=' :: Percent.encodeField value)

-- The address that the request is sent to. One that is not absolute has no server, and parameters
-- replace the query of a written address.
def address (request : Request) : Except Address.Fault Address := do
  let address ← (← Address.read request.url).onServer [] []
  match request with
  | page _ _ => return address
  | search _ _ _ => address.withQuery request.query

end Request

structure Response where
  status : Nat
  body : Bytes
deriving DecidableEq, Repr

def Response.isSuccess (response : Response) : Bool :=
  200 ≤ response.status && response.status ≤ 299

structure Reply (ε α τ : Type) where
  outcome : Except ε α
  delay : τ

structure Call where
  prompt : Text
  maxTokens : Int
  temperature : Number

inductive Progress where
  | initiate (model : Text)
  | ready (model : Text)
deriving DecidableEq, Repr

structure World (τ : Type) where
  clock : τ
  today : Text
  -- Reads the address that a request is sent to.
  addressOf : Request → Except Address.Fault Address := Request.address
  server : List Request → Request → Reply Failure Response τ
  requests : List Request := []
  -- How deep lists and objects may lie in each other to be read, and to be written.
  readDepth : Nat := 970
  writeDepth : Nat := 970
  -- Tells why a model cannot be loaded, given the models that were asked for before. A failure of
  -- a load is told at once, so one that cannot be told is here the fault that telling it meets.
  loader : List Text → Text → Option Failure
  loads : List Text := []
  model : List Call → Call → Reply Raised Value τ
  calls : List Call := []
  progress : List Progress := []

namespace World

variable {τ : Type} [Quantity τ]

def wait (world : World τ) (seconds : τ) : World τ :=
  { world with clock := Quantity.add world.clock seconds }

def send (world : World τ) (request : Request) : Except Failure Response × World τ :=
  let reply := world.server world.requests request
  (reply.outcome, { world.wait reply.delay with requests := world.requests ++ [request] })

def load (world : World τ) (model : Text) : Option Failure × World τ :=
  (world.loader world.loads model, { world with loads := world.loads ++ [model] })

def complete (world : World τ) (call : Call) : Except Raised Value × World τ :=
  let reply := world.model world.calls call
  (reply.outcome, { world.wait reply.delay with calls := world.calls ++ [call] })

def announce (world : World τ) (event : Progress) : World τ :=
  { world with progress := world.progress ++ [event] }

end World

end DocMarkers
