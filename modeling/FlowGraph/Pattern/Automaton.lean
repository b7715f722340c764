import FlowGraph.Pattern.Basic

/-! # Patterns as automata

A pattern is written out as a list of states, with a copy of a repeated part for each repeat that is
asked for. The states that can be reached go through a text side by side: each place of the text is
looked at once and no state is entered twice at a place, so the time is bounded by the size of the
automaton times the length of the text.

`Pattern.isFoundIn` says whether some part of a text matches. -/

namespace FlowGraph

namespace Pattern

/-! ### States -/

/-- A state of an automaton; the states to go on in are named by their places in the list. -/
inductive State where
  /-- The end of the pattern. -/
  | done
  /-- Reads a character of a class. -/
  | read (ranges : CodeRanges) (next : Nat)
  /-- Goes on where an assertion holds. -/
  | check (a : Assertion) (next : Nat)
  /-- Goes on in two ways. -/
  | fork (next other : Nat)

/-- An automaton under construction: its states, and the one that the rest begins in. -/
abbrev Chain := Nat × Array State

/-- Puts a state in front of a chain. -/
def Chain.add (c : Chain) (state : Nat → State) : Chain := (c.2.size, c.2.push (state c.1))

/-- Applies a function some number of times. -/
def times {α : Type} : Nat → (α → α) → α → α
  | 0, _, x => x
  | n + 1, f, x => times n f (f x)

/-- Puts any number of repeats in front of a chain: each leads back to where they began. -/
def Chain.addLoop (c : Chain) (body : Chain → Chain) : Chain :=
  let (next, states) := c
  let loop := states.size
  let (start, states) := body (loop, states.push .done)
  (loop, states.setIfInBounds loop (.fork start next))

/-- Puts a part that may be left out in front of a chain; without it the rest goes on at `next`. -/
def Chain.addOptional (next : Nat) (body : Chain → Chain) (c : Chain) : Chain :=
  (body c).add (.fork · next)

/-- Puts a pattern in front of a chain. -/
def extend : Pattern → Chain → Chain
  | empty, c => c
  | chars ranges, c => c.add (.read ranges)
  | assert a, c => c.add (.check a)
  | seq a b, c => extend a (extend b c)
  | alt a b, (next, states) =>
    let (left, states) := extend a (next, states)
    (extend b (next, states)).add (.fork left)
  | rep least none body, c => times least (extend body) (c.addLoop (extend body))
  | rep least (some most) body, (next, states) =>
    times least (extend body)
      (times (most - least) (Chain.addOptional next (extend body)) (next, states))

/-- The states of a pattern. -/
def automaton (p : Pattern) : Chain := extend p (0, #[.done])

/-! ### Search -/

/-- What can be reached at one place of a text. -/
structure Reached where
  /-- For each state the last place that it was entered at, counted from 1. -/
  entered : Array Nat
  /-- The states that read a character: the class, and the state after it. -/
  readers : List (CodeRanges × Nat)
  /-- Whether the end of the pattern was reached. -/
  isDone : Bool

/-- Enters the states of a list and those that they lead to without reading. A state not entered
before at this place adds at most two to the list, so the fuel is twice the number of states and
the length of the list. -/
def explore (states : Array State) (place : Place) (time : Nat) :
    Nat → List Nat → Array Nat → List (CodeRanges × Nat) → Reached
  | 0, _, entered, readers => ⟨entered, readers, false⟩
  | _ + 1, [], entered, readers => ⟨entered, readers, false⟩
  | fuel + 1, s :: todo, entered, readers =>
    if entered.getD s time == time then explore states place time fuel todo entered readers
    else
      let entered := entered.setIfInBounds s time
      match states.getD s .done with
      | .done => ⟨entered, readers, true⟩
      | .read ranges next =>
        explore states place time fuel todo entered ((ranges, next) :: readers)
      | .check a next =>
        if a.holds place then explore states place time fuel (next :: todo) entered readers
        else explore states place time fuel todo entered readers
      | .fork next other =>
        explore states place time fuel (next :: other :: todo) entered readers

/-- The states after a character. -/
def readChar (readers : List (CodeRanges × Nat)) (c : Char) : List Nat :=
  (readers.filter fun r => r.1.has c).map (·.2)

/-- Goes through a text with the states reached so far; the pattern may start at any place. -/
def search (a : Chain) (time : Nat) (entered : Array Nat) (todo : List Nat)
    (before : Option Char) : List Char → Bool
  | [] =>
    (explore a.2 ⟨before, none⟩ time (2 * a.2.size + todo.length + 1) (a.1 :: todo) entered
      []).isDone
  | c :: cs =>
    let r := explore a.2 ⟨before, some c⟩ time (2 * a.2.size + todo.length + 1) (a.1 :: todo)
      entered []
    r.isDone || search a (time + 1) r.entered (readChar r.readers c) (some c) cs

/-- Whether some part of the text matches. -/
def isFoundIn (p : Pattern) (text : String) : Bool :=
  let a := p.automaton
  search a 1 (Array.replicate a.2.size 0) [] none text.toList

end Pattern

end FlowGraph
