import ScanRules.CharSet
import ScanRules.Pattern.Look

/-!
# Matching machines

A machine has numbered states. A thread stands in a state; it takes a character, waits for a
condition, splits, or accepts. All threads advance together, one character at a time, in the order
of their priority.

- `State`, `Machine`: the program.
- `Machine.explore`: the states that wait for a character, or accept, reached from a list of states
  without taking a character. The walk goes depth first in the order of preference and enters no
  state twice at one position.
- `Machine.match?`: how many characters the preferred match takes.

At a position where a thread accepts, the threads after it are dropped: whatever they find is less
preferred. The threads before it go on, and a match of theirs replaces the one found.
-/

namespace ScanRules.Pattern

/-- A state of a machine. The choices of a split are in order of preference. -/
inductive State where
  | accept
  | take (members : CharSet) (next : Nat)
  | split (choices : List Nat)
  | check (look : Look) (next : Nat)

/-- A program: its states and the one to start in. -/
structure Machine where
  states : Array State
  start : Nat

namespace Machine

/-- The state of a number. Numbers without a state stand for one that goes nowhere. -/
def state (m : Machine) (i : Nat) : State :=
  m.states.getD i (.split [])

/-- The states that follow a state without a character being taken. -/
def successors (m : Machine) (before after : Option Char) (i : Nat) : List Nat :=
  match m.state i with
  | .split choices => choices
  | .check look next => if look.holds before after then [next] else []
  | .take _ _ | .accept => []

/-- Does a thread rest in this state until the next character? -/
def rests (m : Machine) (i : Nat) : Bool :=
  match m.state i with
  | .take _ _ | .accept => true
  | .split _ | .check _ _ => false

/-- Is this the accepting state? -/
def accepts (m : Machine) (i : Nat) : Bool :=
  match m.state i with
  | .accept => true
  | _ => false

/-- A bound on the number of steps that exploring takes: one for each way into a state. -/
def effort (m : Machine) : Nat :=
  m.states.foldl (fun n s => n + match s with | .split choices => choices.length | _ => 1) 1

/-- Where exploring has got to at one position: the states seen, as the bits of a number, and the
resting ones among them, last first. -/
structure Frontier where
  seen : Nat
  threads : List Nat

/-- Walks from the states of a list, the first one first. `fuel` bounds the number of steps. -/
def explore (m : Machine) (before after : Option Char) :
    (fuel : Nat) → List Nat → Frontier → Frontier
  | _, [], f => f
  | 0, _ :: _, f => f
  | fuel + 1, i :: todo, f =>
    if f.seen.testBit i then m.explore before after fuel todo f
    else
      let seen := f.seen ||| 1 <<< i
      if m.rests i then m.explore before after fuel todo ⟨seen, i :: f.threads⟩
      else m.explore before after fuel (m.successors before after i ++ todo) ⟨seen, f.threads⟩

/-- Adds what can be reached from a state to a frontier. -/
def enter (m : Machine) (fuel : Nat) (before after : Option Char) (f : Frontier) (i : Nat) :
    Frontier :=
  m.explore before after fuel [i] f

/-- The state after a thread has taken a character, if it does. -/
def advance? (m : Machine) (c : Char) (i : Nat) : Option Nat :=
  match m.state i with
  | .take members next => if members.has c then some next else none
  | _ => none

/-- The threads after a character, `after` being the character that follows it. -/
def advance (m : Machine) (fuel : Nat) (c : Char) (after : Option Char) (threads : List Nat) :
    List Nat :=
  ((threads.filterMap (m.advance? c)).foldl (m.enter fuel (some c) after) ⟨0, []⟩).threads.reverse

/-- Runs threads over a text of which `count` characters have been taken. `best` is the match so
far. -/
def run (m : Machine) (fuel : Nat) (threads : List Nat) (count : Nat) (best : Option Nat) :
    List Char → Option Nat
  | [] => if threads.any m.accepts then some count else best
  | c :: rest =>
    let best := if threads.any m.accepts then some count else best
    match threads.takeWhile (!m.accepts ·) with
    | [] => best
    | preferred => m.run fuel (m.advance fuel c rest.head? preferred) (count + 1) best rest

/-- The number of characters that the preferred match takes from the start of a text that comes
after the character `before`. -/
def match? (m : Machine) (before : Option Char) (text : List Char) : Option Nat :=
  let fuel := m.effort + 1
  m.run fuel (m.enter fuel before text.head? ⟨0, []⟩ m.start).threads.reverse 0 none text

end Machine

end ScanRules.Pattern
