import DocMarkers.Marker.Builtin
import DocMarkers.Resolution.Together

set_option autoImplicit false

namespace DocMarkers

namespace Builtin

variable {τ : Type} [Quantity τ]

def lookUpFirst {α : Type} (look : Session τ → Except Failure α × Session τ)
    (next : α → Session τ → Except Failure Value × Session τ) : Beginning (Session τ) := fun s =>
  match look s with
  | (.error failure, s) => (.done (.error (.told failure)), s)
  | (.ok found, s) => (.waits (telling (next found)), s)

def waitFor (act : Session τ → Except Failure Value × Session τ) : Beginning (Session τ) :=
  fun s => (.waits (telling act), s)

def doAtOnce (act : Session τ → Except Raised Value × Session τ) : Beginning (Session τ) :=
  fun s =>
    let (result, s) := act s
    (.done result, s)

def refuse : Beginning (Session τ) := doAtOnce fun s => (.error (.told .wrongKind), s)

def beginFact (searches : Bool) : List Text → Beginning (Session τ)
  | [topic] =>
    lookUpFirst (facts searches topic) fun value => fromPassage value (Writer.keyFact none)
  | _ => refuse

def beginDescribe : List Text → Beginning (Session τ)
  | [topic] =>
    lookUpFirst (Lookup.summary topic) fun summary =>
      fromText summary.extract (Writer.describe none topic)
  | _ => refuse

def beginEnrich (searches : Bool) : List Text → Beginning (Session τ)
  | [topic, sentence] => lookUpFirst (facts searches topic) (enrichFrom sentence)
  | _ => refuse

def beginParagraph : List Text → Beginning (Session τ)
  | [topic] =>
    lookUpFirst (Lookup.summary topic) fun summary =>
      fromPassage summary.extract (Writer.paragraph none summary.title.render)
  | _ => refuse

def beginSummary : List Text → Beginning (Session τ)
  | [topic] =>
    lookUpFirst (Lookup.summary topic) fun summary =>
      fromPassage summary.extract fun passage =>
        Writer.summarize none passage (some Writer.summaryLength)
  | _ => refuse

def beginAnswer (searches : Bool) : List Text → Beginning (Session τ)
  | [question] => waitFor (answerSimple question)
  | [topic, question] =>
    if question.isEmpty then waitFor (answerSimple topic)
    else lookUpFirst (facts searches topic) fun value =>
      fromPassage value (Writer.answerQuestion none question)
  | _ => refuse

-- Narrower than a scheduler may be: a handler waits once at most, for a text to be generated, and what
-- it looks up is answered before anyone else goes on.
def beginnings (searches : Bool) : Beginnings (Session τ) := fun spec arguments =>
  match String.ofList spec.name with
  | "ai_fact" => beginFact searches arguments
  | "ai_describe" => beginDescribe arguments
  | "ai_rewrite" => beginEnrich searches arguments
  | "ai_paragraph" => beginParagraph arguments
  | "ai_summary" => beginSummary arguments
  | "ai_answer" => beginAnswer searches arguments
  | _ => doAtOnce (spec.handler arguments)

end Builtin

end DocMarkers
