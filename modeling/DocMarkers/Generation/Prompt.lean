import DocMarkers.Failure

set_option autoImplicit false

namespace DocMarkers

inductive Slot where
  | context
  | facts
  | question
  | sentence
  | text
  | topic
deriving DecidableEq, Repr

namespace Slot

def all : List Slot := [context, facts, question, sentence, text, topic]

def name : Slot → Text
  | context => "context".toList
  | facts => "facts".toList
  | question => "question".toList
  | sentence => "sentence".toList
  | text => "text".toList
  | topic => "topic".toList

end Slot

inductive Piece where
  | words (words : String)
  | slot (slot : Slot)

inductive Prompt where
  | keyFact
  | description
  | enrichment
  | polish
  | paragraph
  | summary
  | answerWithContext
  | answerSimple
deriving DecidableEq, Repr

namespace Prompt

def pieces : Prompt → List Piece
  | keyFact =>
    [.words ("Extract the single most important fact from this text. " ++
        "Output only the fact in one sentence:\n"),
      .slot .text, .words "\n\nMost important fact:"]
  | description =>
    [.words "Write a brief, one-sentence description of ", .slot .topic,
      .words " based on this information:\n", .slot .context,
      .words "\n\nOne-sentence description:"]
  | enrichment =>
    [.words ("Rewrite this sentence to be more informative using the provided facts.\n\n" ++
        "Original sentence: "),
      .slot .sentence, .words "\n\nFacts to use: ", .slot .facts,
      .words "\n\nWrite a new, improved sentence that incorporates relevant facts:"]
  | polish =>
    [.words "Slightly polish this sentence while keeping its structure: \"", .slot .sentence,
      .words "\"\nKeep the same meaning. Output only the polished sentence:"]
  | paragraph =>
    [.words "Write a brief, informative paragraph about ", .slot .topic,
      .words " based on these facts:\n", .slot .facts,
      .words "\n\nWrite a 2-3 sentence summary:"]
  | summary => [.words "Summarize this in one sentence: ", .slot .text]
  | answerWithContext =>
    [.words "Answer this question based on the context.\nContext: ", .slot .context,
      .words "\nQuestion: ", .slot .question, .words "\nAnswer:"]
  | answerSimple =>
    [.words "Answer this question briefly and accurately:\nQuestion: ", .slot .question,
      .words "\nAnswer:"]

def slots (prompt : Prompt) : List Slot :=
  prompt.pieces.filterMap fun
    | .words _ => none
    | .slot slot => some slot

def slotNames (prompt : Prompt) : List Text :=
  (Slot.all.filter prompt.slots.contains).map Slot.name

def write (prompt : Prompt) (value : Slot → Text) : Text :=
  prompt.pieces.flatMap fun
    | .words words => words.toList
    | .slot slot => value slot

def write? (prompt : Prompt) (value? : Slot → Option Text) : Except Failure Text :=
  match prompt.slots.find? fun slot => (value? slot).isNone with
  | some slot => .error (.missingKey slot.name)
  | none => .ok (prompt.write fun slot => (value? slot).getD [])

end Prompt

end DocMarkers
