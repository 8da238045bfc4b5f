import Buildfile.Description.Reader
/-!
# A reader that is changed in place

Lines can also be given to a reader that stays in its place and is changed step by step: what is changed before
a fault is found stays changed. A refusal is noted, and reading goes on with what is offered next.

`Reader.offer` gives a reader one line or tells it that the description ends, and `Reader.offerAll` does so again
and again, whatever was refused.
-/

namespace Buildfile.Description

/-- What is done to a reader in its place. A fault ends it and takes nothing back. -/
abbrev Work := ExceptT Fault (StateM Reader)

namespace Work

variable {α : Type}

/-- The answer of some work on a reader, and the reader afterwards. -/
def on (w : Work α) (r : Reader) : Except Fault α × Reader := Id.run (StateT.run (ExceptT.run w) r)

/-- Turns the draft into rules, one after the other. -/
def finish : Work Unit := do
  match (← get).draft with
  | none => pure ()
  | some d =>
    modify fun r => { r with draft := none }
    forM d.rules fun rule => modify fun r => { r with rulebook := r.rulebook.add rule }

/-- Whether the command on a line is silent, and its text, both told from what is behind the tab. -/
def spoken (t : Text) : Bool × Text :=
  match t.trim with
  | '@' :: rest => (true, Text.trim rest)
  | text => (false, text)

/-- Adds the command on a line to the draft. -/
def command (number : Int) (l : Text) : Work Unit := do
  match (← get).draft with
  | none => throw .orphanCommand
  | some d =>
    let (silent, text) := spoken (l.drop 1)
    modify fun r =>
      let command : Command := { text := expand r.bindings text, silent, line := some number }
      { r with draft := some { d with commands := d.commands ++ [command] } }

/-- Refuses a name with more than one wildcard. -/
def check (x : Name) : Work Unit := if 1 < x.count wildcard then throw (.manyWildcards x) else pure ()

/-- Starts a new draft for the head of a rule, without its comment. -/
def heading (number : Int) (l : Text) : Work Unit := do
  let (head, tail) := Text.breakAt ':' l
  let names := Text.words head
  if names = [] then throw .missingTarget
  forM names check
  finish
  modify fun r => { r with draft := some { names, dependencies := Text.words tail, line := number } }

/-- Sets a variable. -/
def assignment (l : Text) : Work Unit := do
  let (head, tail) := Text.breakAt '=' l
  let name := Line.variableName head
  if name = [] then throw .missingVariable
  modify fun r => { r with bindings := r.bindings.set name (expand r.bindings (Text.trim tail)) }

/-- Reads one more line. -/
def feed (number : Int) (l : Text) : Work Unit :=
  match LineKind.of l with
  | .skip => pure ()
  | .command => command number l
  | .target => heading number (dropComment l)
  | .variable => assignment l
  | .invalid => throw (.unrecognised (l.head?.any isBlank))

end Work

/-- What a reader is given: a line with its number, or the end of the description. -/
inductive Offer where
  | line (number : Int) (text : Text)
  | close
  deriving DecidableEq, Repr, Inhabited

/-- The work that an offer asks for. -/
def Offer.work : Offer → Work Unit
  | line number text => .feed number text
  | close => .finish

/-- The offers of lines that are numbered from `number` on. -/
def Offer.lines (number : Int) : List Text → List Offer
  | [] => []
  | l :: ls => .line number l :: Offer.lines (number + 1) ls

namespace Reader

/-- The fault for which an offer is refused, if it is, and the reader afterwards. -/
def offer (r : Reader) (o : Offer) : Option Fault × Reader :=
  match o.work.on r with
  | (.ok (), r') => (none, r')
  | (.error f, r') => (some f, r')

/-- The answers to offers that are made one after the other, and the reader afterwards. -/
def offerAll (r : Reader) : List Offer → List (Option Fault) × Reader
  | [] => ([], r)
  | o :: os =>
    let (answer, r') := r.offer o
    let (answers, last) := r'.offerAll os
    (answer :: answers, last)

/-- The description as far as its rules are finished. -/
def soFar (r : Reader) : Description := { rulebook := r.rulebook, bindings := r.bindings }

end Reader

end Buildfile.Description
