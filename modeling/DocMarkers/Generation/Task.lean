import DocMarkers.Generation.Writer

set_option autoImplicit false

namespace DocMarkers

namespace Writer

variable {τ : Type} [Quantity τ]

inductive Task where
  | keyFact (passage : Passage) (temperature : Option Number)
  | describe (topic context : Text) (temperature : Option Number)
  | enrich (sentence : Text) (facts : Passage) (temperature : Option Number)
  | paragraph (topic : Text) (facts : Passage) (temperature : Option Number)
  | summarize (passage : Passage) (maxLength : Option Int) (temperature : Option Number)
  | answerQuestion (question : Text) (context : Passage) (temperature : Option Number)
  | answerSimple (question : Text) (temperature : Option Number)
  | fillSentence (fact template : Text) (polish : Option Bool)

structure Plan where
  prompt : Prompt
  value? : Slot → Option Text
  options : Generator.Options
  answer : Text
  asks : Bool := true
  accepts : Text → Bool := fun _ => true

namespace Plan

def text (plan : Plan) : Text := plan.prompt.write fun slot => (plan.value? slot).getD []

def carryOut (plan : Plan) (s : Session τ) : Except Failure Text × Session τ :=
  match plan.prompt.write? plan.value? with
  | .error failure => (.error failure, s)
  | .ok prompt =>
    if plan.asks then
      let (output, s) := completion? prompt plan.options s
      (output.map fun output => (output.filter plan.accepts).getD plan.answer, s)
    else (.ok plan.answer, s)

end Plan

namespace Task

def perform : Task → Session τ → Except Failure Text × Session τ
  | keyFact passage temperature => Writer.keyFact temperature passage
  | describe topic context temperature => Writer.describe temperature topic context
  | enrich sentence facts temperature => Writer.enrich temperature sentence facts
  | paragraph topic facts temperature => Writer.paragraph temperature topic facts
  | summarize passage maxLength temperature => Writer.summarize temperature passage maxLength
  | answerQuestion question context temperature =>
    Writer.answerQuestion temperature question context
  | answerSimple question temperature => Writer.answerSimple temperature question
  | fillSentence fact template polish => Writer.fillSentence fact template polish

def plan : Task → Plan
  | keyFact passage temperature =>
    { prompt := .keyFact
      value? := fun
        | .text => some (passage.upTo 800)
        | _ => none
      options := { maxNewTokens := some 100, temperature }
      answer := passage.upTo 200 }
  | describe topic context temperature =>
    { prompt := .description
      value? := fun
        | .topic => some topic
        | .context => some (context.take 600)
        | _ => none
      options := { maxNewTokens := some 60, temperature }
      answer := Extraction.firstSentence context }
  | enrich sentence facts temperature =>
    { prompt := .enrichment
      value? := fun
        | .sentence => some sentence
        | .facts => some (facts.upTo 600)
        | _ => none
      options := { maxNewTokens := some 150, temperature }
      answer := sentence }
  | paragraph topic facts temperature =>
    { prompt := .paragraph
      value? := fun
        | .topic => some topic
        | .facts => some (facts.upTo 800)
        | _ => none
      options := { maxNewTokens := some 150, temperature }
      answer := facts.upTo 200 }
  | summarize passage maxLength temperature =>
    { prompt := .summary
      value? := fun
        | .text => some (passage.upTo 1000)
        | _ => none
      options := { maxNewTokens := maxLength, temperature }
      answer := maxLength.elim passage.all passage.upTo }
  | answerQuestion question context temperature =>
    { prompt := .answerWithContext
      value? := fun
        | .context => some (context.upTo 800)
        | .question => some question
        | _ => none
      options := { maxNewTokens := some 100, temperature }
      answer := unableToAnswer }
  | answerSimple question temperature =>
    { prompt := .answerSimple
      value? := fun
        | .question => some question
        | _ => none
      options := { maxNewTokens := some 50, temperature }
      answer := unableToAnswer }
  | fillSentence fact template polish =>
    { prompt := .polish
      value? := fun
        | .sentence => some (filled fact template)
        | _ => none
      options := polishOptions
      answer := filled fact template
      asks := polish.getD true
      accepts := isAccepted (filled fact template) }

end Task

end Writer

end DocMarkers
