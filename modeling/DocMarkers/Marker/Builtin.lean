import DocMarkers.Calendar.Timestamp
import DocMarkers.Generation.Writer
import DocMarkers.Marker.Registry
import DocMarkers.Reference.Lookup

set_option autoImplicit false

namespace DocMarkers

namespace Builtin

variable {τ : Type} [Quantity τ]

abbrev Written (τ : Type) := Except Failure Text × Session τ

abbrev Act (τ : Type) := List Text → Session τ → Except Failure Value × Session τ

def written (result : Written τ) : Except Failure Value × Session τ :=
  (result.1.map .text, result.2)

def fromPassage (value : Value) (write : Passage → Session τ → Written τ) (s : Session τ) :
    Except Failure Value × Session τ :=
  match Passage.ofValue value with
  | .error failure => (.error failure, s)
  | .ok passage => written (write passage s)

def fromText (value : Value) (write : Text → Session τ → Written τ) (s : Session τ) :
    Except Failure Value × Session τ :=
  match (Passage.ofValue value).bind Passage.text? with
  | .error failure => (.error failure, s)
  | .ok text => written (write text s)

def withSummary (topic : Text) (next : Summary → Session τ → Except Failure Value × Session τ)
    (s : Session τ) : Except Failure Value × Session τ :=
  match Lookup.summary topic s with
  | (.error failure, s) => (.error failure, s)
  | (.ok summary, s) => next summary s

def facts (searches : Bool) (topic : Text) (s : Session τ) : Except Failure Value × Session τ :=
  if searches then Lookup.factOrSearch topic s else Lookup.fact topic s

def withFacts (searches : Bool) (topic : Text)
    (next : Value → Session τ → Except Failure Value × Session τ) (s : Session τ) :
    Except Failure Value × Session τ :=
  match facts searches topic s with
  | (.error failure, s) => (.error failure, s)
  | (.ok value, s) => next value s

def fact (searches : Bool) : Act τ
  | [topic], s => withFacts searches topic (fun value => fromPassage value (Writer.keyFact none)) s
  | _, s => (.error .wrongKind, s)

def describe : Act τ
  | [topic], s =>
    withSummary topic (fun summary => fromText summary.extract (Writer.describe none topic)) s
  | _, s => (.error .wrongKind, s)

-- A template for a fact has to be filled from text, and then a list will not do.
def enrichFrom (sentence : Text) (value : Value) (s : Session τ) :
    Except Failure Value × Session τ :=
  if Extraction.hasPlaceholder sentence then
    match value with
    | .text fact => written (Writer.fillSentence fact sentence none s)
    | _ => (.error .wrongKind, s)
  else fromPassage value (Writer.enrich none sentence) s

def enrich (searches : Bool) : Act τ
  | [topic, sentence], s => withFacts searches topic (enrichFrom sentence) s
  | _, s => (.error .wrongKind, s)

def complete : Act τ
  | [], s => (.ok (.text []), s)
  | [content], s => (.ok (.text content), s)
  | _, s => (.error .wrongKind, s)

def paragraph : Act τ
  | [topic], s =>
    withSummary topic (fun summary =>
      fromPassage summary.extract (Writer.paragraph none summary.title.render)) s
  | _, s => (.error .wrongKind, s)

def summary : Act τ
  | [topic], s =>
    withSummary topic (fun summary =>
      fromPassage summary.extract fun passage =>
        Writer.summarize none passage (some Writer.summaryLength)) s
  | _, s => (.error .wrongKind, s)

def answerSimple (question : Text) (s : Session τ) : Except Failure Value × Session τ :=
  written (Writer.answerSimple none question s)

def answer (searches : Bool) : Act τ
  | [question], s => answerSimple question s
  | [topic, question], s =>
    if question.isEmpty then answerSimple topic s
    else withFacts searches topic
      (fun value => fromPassage value (Writer.answerQuestion none question)) s
  | _, s => (.error .wrongKind, s)

def link : Act τ
  | [topic], s =>
    withSummary topic (fun summary s =>
      (.ok (summary.canonicalUrl.orElse (.text (Lookup.pageUrl topic s.client))), s)) s
  | _, s => (.error .wrongKind, s)

def unknownDate : Text := "Unknown".toList

def dateOf (summary : Summary) : Except Failure Value :=
  if summary.isDegraded || !summary.timestamp.isPresent then .ok (.text unknownDate)
  else match summary.timestamp with
    | .text timestamp =>
      .ok (.text ((Timestamp.readZulu? timestamp).elim unknownDate Date.slashed))
    | _ => .error .noSuchPart

def updated : Act τ
  | [topic], s => withSummary topic (fun summary s => (dateOf summary, s)) s
  | _, s => (.error .wrongKind, s)

def lookupTag : Text := "lookup".toList

def generationTag : Text := "generation".toList

def specs (searches : Bool) : List (MarkerSpec (Session τ)) :=
  [{ name := "ai_fact".toList
     description := "Extract the key fact about a topic.".toList
     handler := fun arguments => telling (fact searches arguments)
     usage := "\x7b\x7bai_fact:topic\x7d\x7d".toList
     tags := [lookupTag, generationTag] },
   { name := "ai_describe".toList
     description := "Generate a one-sentence description of a topic.".toList
     handler := fun arguments => telling (describe arguments)
     usage := "\x7b\x7bai_describe:topic\x7d\x7d".toList
     tags := [lookupTag, generationTag] },
   { name := "ai_rewrite".toList
     description := "Rewrite a sentence using facts about a topic.".toList
     handler := fun arguments => telling (enrich searches arguments)
     splitMode := .firstColon
     usage := "\x7b\x7bai_rewrite:topic:sentence\x7d\x7d".toList
     tags := [lookupTag, generationTag] },
   { name := "ai_complete".toList
     description := "Keep sentence structure around nested markers.".toList
     handler := fun arguments => telling (complete arguments)
     splitMode := .whole
     usage :=
      "\x7b\x7bai_complete:text with \x7b\x7bai_answer:question\x7d\x7d inside\x7d\x7d".toList
     tags := ["structure".toList] },
   { name := "ai_paragraph".toList
     description := "Generate a short paragraph about a topic.".toList
     handler := fun arguments => telling (paragraph arguments)
     usage := "\x7b\x7bai_paragraph:topic\x7d\x7d".toList
     tags := [lookupTag, generationTag] },
   { name := "ai_summary".toList
     description := "Condense a topic summary into one sentence.".toList
     handler := fun arguments => telling (summary arguments)
     usage := "\x7b\x7bai_summary:topic\x7d\x7d".toList
     tags := [lookupTag, generationTag] },
   { name := "ai_answer".toList
     description := "Answer a question, optionally using a topic as context.".toList
     handler := fun arguments => telling (answer searches arguments)
     splitMode := .firstColon
     usage := ("\x7b\x7bai_answer:question\x7d\x7d or " ++
       "\x7b\x7bai_answer:topic:question\x7d\x7d").toList
     tags := [lookupTag, generationTag] },
   { name := "ai_link".toList
     description := "Return the article URL for a topic.".toList
     handler := fun arguments => telling (link arguments)
     usage := "\x7b\x7bai_link:topic\x7d\x7d".toList
     tags := [lookupTag] },
   { name := "ai_updated".toList
     description := "Return the last modified date of a topic's article.".toList
     handler := fun arguments => telling (updated arguments)
     usage := "\x7b\x7bai_updated:topic\x7d\x7d".toList
     tags := [lookupTag] }]

end Builtin

end DocMarkers
