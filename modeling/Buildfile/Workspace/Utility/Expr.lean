import Buildfile.Workspace.Regex.Reader
import Buildfile.Workspace.Utility.Basic
/-!
# Expressions

The words of an expression are operands and operators: alternatives, comparisons, sums, products, and texts
that are measured, cut and matched. What an alternative does not need is read but not evaluated.
-/

namespace Buildfile.Utility.Expr

/-- What is wrong with an expression. -/
inductive Fault where
  | missingAfter (word : Text)
  | unclosedAfter (word : Text)
  | unclosedAt (word : Text)
  | unexpectedClose
  | unexpected (word : Text)
  | noInteger
  | divisionByZero
  | badPattern (f : Regex.Fault)
  deriving DecidableEq, Inhabited

/-- An integer as it is written: digits after at most one minus sign. -/
def integer? (t : Text) : Option Int :=
  let digits (ds : Text) : Option Int :=
    if ds ≠ [] ∧ ds.all Char.isDigit then some (ds.foldl (fun n c => 10 * n + (c.toNat - '0'.toNat)) 0 : Nat) else none
  match t with
  | '-' :: ds => (digits ds).map (- ·)
  | ds => digits ds

/-- Whether a value counts as nothing: it is empty or zero. -/
def isNull (t : Text) : Bool :=
  let ds := if t.head? = some '-' then t.drop 1 else t
  t = [] || (ds ≠ [] && ds.all (· == '0'))

/-- A truth value as text. -/
def ofBool (b : Bool) : Text := if b then ['1'] else ['0']

/-- The part of a text that a pattern matches from its start, or that its first group does; without a group, the
number of characters. -/
def matched (t pattern : Text) : Except Fault Text :=
  let subject := Octets.decoded t
  match Regex.read .basic (Octets.decoded pattern) with
  | .error f => .error (.badPattern f)
  | .ok (r, groups) =>
    match Regex.matchAt? {} subject r { rest := subject } with
    | none => .ok (if groups = 0 then ['0'] else [])
    | some m =>
      .ok (if groups = 0 then Text.ofNat (m.last - m.first) else Octets.encoded ((m.groupText? subject 1).getD []))

/-- So many characters of a text from a position on; positions count from one. -/
def substring (t position length : Text) : Text :=
  match integer? position, integer? length with
  | some p, some n => if p ≤ 0 ∨ n ≤ 0 then [] else Octets.encoded (((Octets.decoded t).drop (p.toNat - 1)).take n.toNat)
  | _, _ => []

/-- The position of the first character of a text that is among others, or zero. -/
def position (t among : Text) : Nat :=
  let cs := Octets.decoded among
  ((Octets.decoded t).findIdx? cs.contains).elim 0 (· + 1)

/-- The value of a comparison. -/
def compare (op a b : Text) : Text :=
  let (less, equal) : Bool × Bool :=
    match integer? a, integer? b with
    | some m, some n => (decide (m < n), decide (m = n))
    | _, _ => (!b.precedes a, a == b)
  ofBool (if op = lit "<" then less
    else if op = lit "<=" then less || equal
    else if op = lit "!=" then !equal
    else if op = lit ">=" then !less
    else if op = lit ">" then !less && !equal
    else equal)

/-- The value of a sum or a product. -/
def calculate (op a b : Text) : Except Fault Text :=
  match integer? a, integer? b with
  | some m, some n =>
    if op = lit "+" then .ok (Text.ofInt (m + n))
    else if op = lit "-" then .ok (Text.ofInt (m - n))
    else if op = lit "*" then .ok (Text.ofInt (m * n))
    else if n = 0 then .error .divisionByZero
    else .ok (Text.ofInt (if op = lit "/" then m.tdiv n else m.tmod n))
  | _, _ => .error .noInteger

/-- What is left of an expression is read from its words, after the last one that has been taken. -/
abbrev Reading := StateT (Text × List Text) (Except Fault)

/-- Takes the next word if it is one of some words. -/
def next? (words : List Text) : Reading (Option Text) := do
  match ← get with
  | (_, w :: ws) =>
    if w ∈ words then
      set (w, ws)
      return some w
    else return none
  | _ => return none

/-- Takes the next word. -/
def word : Reading Text := do
  match ← get with
  | (_, w :: ws) =>
    set (w, ws)
    return w
  | (last, []) => throw (.missingAfter last)

/-- The operators of each level, the loosest first. -/
def levels : List (List Text) :=
  [[lit "|"], [lit "&"], [lit "<", lit "<=", lit "=", lit "==", lit "!=", lit ">=", lit ">"], [lit "+", lit "-"],
   [lit "*", lit "/", lit "%"], [lit ":"]]

/-- The value of an operator between two values. -/
def apply (op a b : Text) : Except Fault Text :=
  if op = lit "|" then .ok (if !isNull a then a else if !isNull b then b else ['0'])
  else if op = lit "&" then .ok (if isNull a ∨ isNull b then ['0'] else a)
  else if op = lit ":" then matched a b
  else if op ∈ [lit "+", lit "-", lit "*", lit "/", lit "%"] then calculate op a b
  else .ok (compare op a b)

mutual

/-- Values joined by the operators of some levels, in at most so many steps. Nothing is evaluated unless
`live`. -/
def joined : Nat → (live : Bool) → List (List Text) → Reading Text
  | 0, _, _ => throw .noInteger
  | k + 1, live, [] => measured k live
  | k + 1, live, os :: tighter => do
    let a ← joined k live tighter
    joinedAfter k live os tighter a

/-- Further values joined by the operators of a level, which are applied from the left. -/
def joinedAfter : Nat → (live : Bool) → List Text → List (List Text) → Text → Reading Text
  | 0, _, _, _, _ => throw .noInteger
  | k + 1, live, os, tighter, a => do
    match ← next? os with
    | none => return a
    | some op =>
      let needed := live && !(op = lit "|" && !isNull a) && !(op = lit "&" && isNull a)
      let b ← joined k needed tighter
      joinedAfter k live os tighter (← if live then apply op a b else pure a)

/-- A text that is measured, cut or matched, or a simple value. -/
def measured : Nat → (live : Bool) → Reading Text
  | 0, _ => throw .noInteger
  | k + 1, live => do
    match ← next? [lit "+", lit "length", lit "match", lit "index", lit "substr"] with
    | none => simple k live
    | some f =>
      if f = lit "+" then word
      else
        let a ← measured k live
        if f = lit "length" then return Text.ofNat (Octets.decoded a).length
        let b ← measured k live
        if f = lit "match" then if live then matched a b else return a
        else if f = lit "index" then return Text.ofNat (position a b)
        else return substring a b (← measured k live)

/-- A word, or an expression in parentheses. -/
def simple : Nat → (live : Bool) → Reading Text
  | 0, _ => throw .noInteger
  | k + 1, live => do
    if (← get).2 = [] then throw (.missingAfter (← get).1)
    if (← next? [['(']]).isSome then
      let v ← joined k live levels
      match ← get with
      | (last, []) => throw (.unclosedAfter last)
      | (_, [')'] :: ws) =>
        set (([')'] : Text), ws)
        return v
      | (_, w :: _) => throw (.unclosedAt w)
    else if (← next? [[')']]).isSome then throw .unexpectedClose
    else word

end

/-- The value of an expression. -/
def value (name : Text) (ws : List Text) : Except Fault Text := do
  let (v, rest) ← (joined (24 * (ws.length + 1)) true levels).run (name, ws)
  match rest.2 with
  | [] => return v
  | w :: _ => throw (.unexpected w)

/-- Shows the value of an expression; the status tells whether it is empty or zero. -/
def expr : Utility := fun name args => do
  match if args.head? = some ['-', '-'] then args.drop 1 else args with
  | [] => missingOperand name 2
  | ws =>
    match value name ws with
    | .ok v =>
      put name (v ++ ['\n']) 3
      return if isNull v then 1 else 0
    | .error f =>
      match f with
      | .missingAfter w => complainWith name (lit "syntax error: missing argument after ") w []
      | .unclosedAfter w => complainWith name (lit "syntax error: expecting ')' after ") w []
      | .unclosedAt w => complainWith name (lit "syntax error: expecting ')' instead of ") w []
      | .unexpectedClose => complain name (lit "syntax error: unexpected ')'")
      | .unexpected w => complainWith name (lit "syntax error: unexpected argument ") w []
      | .noInteger => complain name (lit "non-integer argument")
      | .divisionByZero => complain name (lit "division by zero")
      | .badPattern f => complain name f.message
      return 2

end Buildfile.Utility.Expr
