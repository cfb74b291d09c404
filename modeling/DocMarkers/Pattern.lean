import DocMarkers.Text.Basic

set_option autoImplicit false

namespace DocMarkers

inductive Pattern where
  | never
  | empty
  | one (test : Char → Bool)
  | seq (first second : Pattern)
  | either (first second : Pattern)
  | many (test : Char → Bool)

namespace Pattern

inductive Matches : Pattern → Text → Prop where
  | empty : Matches .empty []
  | one {test : Char → Bool} {c : Char} (holds : test c = true) : Matches (.one test) [c]
  | seq {p q : Pattern} {v w : Text} (first : Matches p v) (second : Matches q w) :
      Matches (.seq p q) (v ++ w)
  | left {p q : Pattern} {w : Text} (first : Matches p w) : Matches (.either p q) w
  | right {p q : Pattern} {w : Text} (second : Matches q w) : Matches (.either p q) w
  | stop {test : Char → Bool} : Matches (.many test) []
  | more {test : Char → Bool} {c : Char} {w : Text} (holds : test c = true)
      (rest : Matches (.many test) w) : Matches (.many test) (c :: w)

theorem matches_seq {p q : Pattern} {w : Text} :
    Matches (.seq p q) w ↔ ∃ u v, w = u ++ v ∧ Matches p u ∧ Matches q v := by
  constructor
  · intro whole
    cases whole with
    | seq front back => exact ⟨_, _, rfl, front, back⟩
  · rintro ⟨u, v, rfl, front, back⟩
    exact .seq front back

def nullable : Pattern → Bool
  | never => false
  | empty => true
  | one _ => false
  | seq p q => p.nullable && q.nullable
  | either p q => p.nullable || q.nullable
  | many _ => true

def andThen : Pattern → Pattern → Pattern
  | never, _ => never
  | empty, q => q
  | p, q => seq p q

def orElse : Pattern → Pattern → Pattern
  | never, q => q
  | p, never => p
  | p, q => either p q

def derive (c : Char) : Pattern → Pattern
  | never => never
  | empty => never
  | one test => if test c then empty else never
  | seq p q =>
    if p.nullable then ((p.derive c).andThen q).orElse (q.derive c) else (p.derive c).andThen q
  | either p q => (p.derive c).orElse (q.derive c)
  | many test => if test c then many test else never

def longest? : Pattern → Text → Option Text
  | never, _ => none
  | p, [] => if p.nullable then some [] else none
  | p, c :: rest =>
    match longest? (p.derive c) rest with
    | some word => some (c :: word)
    | none => if p.nullable then some [] else none

section Attempts

variable {α : Type}

-- Passes over as many characters as can be, and gives them back one by one while the rest fails.
def attemptMany (test : Char → Bool) (next : Text → Option α) : Text → Option α
  | [] => next []
  | c :: rest =>
    if test c then (attemptMany test next rest).orElse fun _ => next (c :: rest)
    else next (c :: rest)

/-- Tries the words that start a text in turn until what comes behind one does not fail. -/
def attempt : Pattern → (Text → Option α) → Text → Option α
  | never, _, _ => none
  | empty, next, text => next text
  | one _, _, [] => none
  | one test, next, c :: rest => if test c then next rest else none
  | seq p q, next, text => p.attempt (q.attempt next) text
  | either p q, next, text => (p.attempt next text).orElse fun _ => q.attempt next text
  | many test, next, text => attemptMany test next text

end Attempts

def first? (p : Pattern) (text : Text) : Option Text :=
  (p.attempt some text).map fun rest => text.take (text.length - rest.length)

def search? (p : Pattern) : Text → Option Text
  | [] => p.first? []
  | c :: rest => (p.first? (c :: rest)).orElse fun _ => p.search? rest

def optional (p : Pattern) : Pattern := either p empty

def atLeastOne (test : Char → Bool) : Pattern := seq (one test) (many test)

def times (p : Pattern) : Nat → Pattern
  | 0 => empty
  | n + 1 => seq p (p.times n)

def all : List Pattern → Pattern
  | [] => empty
  | [p] => p
  | p :: ps => seq p (all ps)

def any : List Pattern → Pattern
  | [] => never
  | [p] => p
  | p :: ps => either p (any ps)

def word (test : Char → Char → Bool) (letters : Text) : Pattern :=
  all (letters.map fun c => one (test c))

end Pattern

end DocMarkers
