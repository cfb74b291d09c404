import DocMarkers.Extraction.KeyInfo
import DocMarkers.Extraction.Placeholder
import DocMarkers.Generation.Generator
import DocMarkers.Generation.Passage
import DocMarkers.Generation.Prompt

set_option autoImplicit false

namespace DocMarkers

namespace Writer

variable {τ : Type} [Quantity τ]

def usesGenerator (s : Session τ) : Bool := s.generator.isSome

def completion? (prompt : Text) (options : Generator.Options) (s : Session τ) :
    Except Failure (Option Text) × Session τ :=
  match s.generator with
  | none => (.ok none, s)
  | some g =>
    match g.generate prompt options s.world with
    | (.error failure, g, world) =>
      (if failure.isGeneration then .ok none else .error failure,
        { s with generator := some g, world })
    | (.ok output, g, world) =>
      (.ok (if output.isEmpty then none else some output), { s with generator := some g, world })

def complete (prompt answer : Text) (tokens : Option Int) (temperature : Option Number)
    (s : Session τ) : Except Failure Text × Session τ :=
  let (output, s) := completion? prompt { maxNewTokens := tokens, temperature } s
  (output.map fun output => output.getD answer, s)

variable (temperature : Option Number)

def keyFact (passage : Passage) (s : Session τ) :
    Except Failure Text × Session τ :=
  complete (Prompt.keyFact.write fun _ => passage.upTo 800) (passage.upTo 200) (some 100)
    temperature s

def describe (topic context : Text) (s : Session τ) :
    Except Failure Text × Session τ :=
  let prompt := Prompt.description.write fun
    | .topic => topic
    | _ => context.take 600
  complete prompt (Extraction.firstSentence context) (some 60) temperature s

def enrich (sentence : Text) (facts : Passage) (s : Session τ) :
    Except Failure Text × Session τ :=
  let prompt := Prompt.enrichment.write fun
    | .sentence => sentence
    | _ => facts.upTo 600
  complete prompt sentence (some 150) temperature s

def paragraph (topic : Text) (facts : Passage) (s : Session τ) :
    Except Failure Text × Session τ :=
  let prompt := Prompt.paragraph.write fun
    | .topic => topic
    | _ => facts.upTo 800
  complete prompt (facts.upTo 200) (some 150) temperature s

def summaryLength : Int := 100

def summarize (passage : Passage) (maxLength : Option Int) (s : Session τ) :
    Except Failure Text × Session τ :=
  complete (Prompt.summary.write fun _ => passage.upTo 1000)
    (maxLength.elim passage.all passage.upTo) maxLength temperature s

def unableToAnswer : Text := "Unable to answer".toList

def answerQuestion (question : Text) (context : Passage) (s : Session τ) :
    Except Failure Text × Session τ :=
  let prompt := Prompt.answerWithContext.write fun
    | .question => question
    | _ => context.upTo 800
  complete prompt unableToAnswer (some 100) temperature s

def answerSimple (question : Text) (s : Session τ) :
    Except Failure Text × Session τ :=
  complete (Prompt.answerSimple.write fun _ => question) unableToAnswer (some 50)
    temperature s

omit temperature

def filled (fact template : Text) : Text :=
  if Extraction.hasPlaceholder template then
    Extraction.fillPlaceholder template (Extraction.keyInfo fact)
  else template

def isAccepted (text polished : Text) : Bool :=
  text.length < 2 * polished.length && polished.length < 2 * text.length

def polishOptions : Generator.Options where
  maxNewTokens := some 100
  temperature := some (.float 0.3)
  deterministic := some false

def fillSentence (fact template : Text) (polish : Option Bool) (s : Session τ) :
    Except Failure Text × Session τ :=
  let text := filled fact template
  if polish.getD (usesGenerator s) then
    let (output, s) := completion? (Prompt.polish.write fun _ => text) polishOptions s
    (output.map fun output => (output.filter (isAccepted text)).getD text, s)
  else (.ok text, s)

end Writer

end DocMarkers
