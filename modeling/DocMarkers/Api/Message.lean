import DocMarkers.Address.Reader
import DocMarkers.Failure
import DocMarkers.Settings.Field
import DocMarkers.Text.Percent

set_option autoImplicit false

namespace DocMarkers

namespace Api

structure Message where
  method : Text
  path : Text
  query : List (Text × Text)
  body : Bytes

structure Complaint where
  issue : Issue
  shown : Value

inductive Answer where
  | value (status : Nat) (body : Value)
  | issues (issues : List Issue)
  | failed (failure : Failure)

namespace Answer

def detail (status : Nat) (text : Text) : Answer :=
  value status (.object [("detail".toList, .text text)])

def notFound : Answer := detail 404 "Not Found".toList

def methodNotAllowed : Answer := detail 405 "Method Not Allowed".toList

def unreadable : Answer := detail 400 "There was an error parsing the body".toList

def ofComplaints (complaints : List Complaint) : Answer :=
  if complaints.all fun complaint => complaint.shown.isFinite then
    issues (complaints.map Complaint.issue)
  else failed .unwritableNumber

end Answer

namespace Message

def queryText (text : Text) : Text :=
  Percent.decode (text.map fun c => if c = '+' then ' ' else c)

def queryPairs (query : Text) : List (Text × Text) :=
  ((Text.splitOn '&' query).filter fun part => !part.isEmpty).map fun part =>
    match Text.cut '=' part with
    | (name, value) => (queryText name, queryText (value.getD []))

def ofTarget (method target : Text) (body : Bytes) : Except Address.Fault Message := do
  let address ← (← Address.read target).onServer "http".toList "localhost".toList
  return { method := method.map Char.toUpper, body
           path := Percent.decode address.path
           query := queryPairs (address.query.getD []) }

def query? (message : Message) (name : Text) : Option Text :=
  (message.query.reverse.find? fun pair => pair.1 == name).map Prod.snd

end Message

end Api

end DocMarkers
