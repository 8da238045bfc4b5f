import Buildfile.Workspace.FileTest
import Buildfile.Workspace.Shell.Builtin.Output
/-!
# Conditions of the shell

`test` tells by its status whether a condition holds. A word may be an operator or an operand, which depends on the
words around it; what is read of the condition is what is left from the last word that was used on.
-/

namespace Buildfile.Shell

namespace Condition

/-- An operator. -/
inductive Operator where
  /-- A question about the word after it. -/
  | unary (letter : Char)
  /-- A relation between the words around it. -/
  | binary (name : Text)
  | negation
  | both
  | either
  | opening
  | closing
  deriving DecidableEq, Inhabited

/-- What a word is. -/
inductive Token where
  | finish
  | operand
  | operator (o : Operator)
  deriving DecidableEq, Inhabited

/-- The letters of the questions about one word. -/
def unaryLetters : List Char :=
  ['r', 'w', 'x', 'e', 'f', 'd', 'c', 'b', 'p', 'u', 'g', 'k', 's', 't', 'z', 'n', 'h', 'O', 'G', 'L', 'S']

/-- The names of the relations. -/
def binaryNames : List Text :=
  [['='], lit "!=", ['<'], ['>'], lit "-eq", lit "-ne", lit "-ge", lit "-gt", lit "-le", lit "-lt", lit "-nt",
   lit "-ot", lit "-ef"]

/-- The operator that a word may be. -/
def operator? (t : Text) : Option Operator :=
  if binaryNames.contains t then some (.binary t)
  else match t with
    | ['!'] => some .negation
    | ['('] => some .opening
    | [')'] => some .closing
    | ['-', 'a'] => some .both
    | ['-', 'o'] => some .either
    | ['-', c] => if unaryLetters.contains c then some (.unary c) else none
    | _ => none

/-- Whether a word is a relation. -/
def isBinary (t : Text) : Bool := operator? t matches some (.binary _)

/-- What the first of some words is. -/
def token : List Text → Token
  | [] => .finish
  | t :: rest =>
    match operator? t with
    | none => .operand
    | some o =>
      let isOperand : Bool := match o, rest with
        | .unary _, [] => true
        | .unary _, [_] => false
        | .unary _, next :: _ => isBinary next
        | .opening, [] => true
        | _, _ => false
      if isOperand then .operand else .operator o

/-- Ends with a complaint of a word. -/
def refuse {α : Type} (word message : Text) : Act α := abort (if word = [] then message else word ++ lit ": " ++ message)

/-- The number that an operand has to be. -/
def numberOf (t : Text) : Act Int := do
  let trimmed := ((t.dropWhile Floating.isSpace).reverse.dropWhile Floating.isSpace).reverse
  let (negative, digits) := match trimmed with
    | '-' :: r => (true, r)
    | '+' :: r => (false, r)
    | r => (false, r)
  match (digits? digits).map fun n => if negative then -(n : Int) else n with
  | some n =>
    if Format.clampSigned n = n then return n
  | none => pure ()
  abort (lit "Illegal number: " ++ t)

/-- The answer to a question about a word. -/
def unary (letter : Char) (t : Text) : Act Bool := do
  if letter = 'z' then return t = []
  else if letter = 'n' then return t ≠ []
  else if letter = 't' then
    discard <| numberOf t
    return false
  else (Program.inTree fun tree here => FileTest.holds tree here letter t : Program Bool)

/-- Whether two words are in a relation. -/
def binary (name a b : Text) : Act Bool := do
  let compare (f : Int → Int → Bool) : Act Bool := do
    let m ← numberOf a
    let n ← numberOf b
    return f m n
  let changed (f : Int → Int → Bool) : Act Bool :=
    (Program.inTree fun tree here =>
      match FileTest.modified? tree here a, FileTest.modified? tree here b with
      | some m, some n => f m n
      | _, _ => false : Program Bool)
  if name = ['='] then return a = b
  else if name = lit "!=" then return a ≠ b
  else if name = ['<'] then return a.precedes b && a ≠ b
  else if name = ['>'] then return b.precedes a && a ≠ b
  else if name = lit "-eq" then compare (· == ·)
  else if name = lit "-ne" then compare (· != ·)
  else if name = lit "-ge" then compare fun m n => n ≤ m
  else if name = lit "-gt" then compare fun m n => n < m
  else if name = lit "-le" then compare fun m n => m ≤ n
  else if name = lit "-lt" then compare fun m n => m < n
  else if name = lit "-nt" then changed fun m n => n < m
  else if name = lit "-ot" then changed fun m n => m < n
  else (Program.inTree fun tree here => FileTest.same tree here a b : Program Bool)

mutual

/-- Conditions of which one must hold, from words whose first one is a token; what is left from the last used word
on. The first argument bounds the words. -/
def alternatives : Nat → Token → List Text → Act (Bool × List Text)
  | 0, _, ws => return (false, ws)
  | n + 1, t, ws => do
    let (a, ws) ← conjuncts n t ws
    if token (ws.drop 1) = .operator .either then
      let (b, ws) ← alternatives n (token (ws.drop 2)) (ws.drop 2)
      return (a || b, ws)
    else return (a, ws)

/-- Conditions that must all hold. -/
def conjuncts : Nat → Token → List Text → Act (Bool × List Text)
  | 0, _, ws => return (false, ws)
  | n + 1, t, ws => do
    let (a, ws) ← negatable n t ws
    if token (ws.drop 1) = .operator .both then
      let (b, ws) ← conjuncts n (token (ws.drop 2)) (ws.drop 2)
      return (a && b, ws)
    else return (a, ws)

/-- A condition that may be negated. -/
def negatable : Nat → Token → List Text → Act (Bool × List Text)
  | 0, _, ws => return (false, ws)
  | n + 1, .operator .negation, ws => do
    let next := token (ws.drop 1)
    let (a, ws) ← negatable n next (if next = .finish then ws else ws.drop 1)
    return (!a, ws)
  | n + 1, t, ws => primary n t ws

/-- A question, a relation, a condition in parentheses, or a word that must not be empty. -/
def primary : Nat → Token → List Text → Act (Bool × List Text)
  | 0, _, ws => return (false, ws)
  | _ + 1, .finish, ws => return (false, ws)
  | n + 1, .operator .opening, ws => do
    let next := token (ws.drop 1)
    if next = .operator .closing then return (false, ws.drop 1)
    let (a, ws) ← alternatives n next (ws.drop 1)
    if token (ws.drop 1) ≠ .operator .closing then refuse [] (lit "closing paren expected")
    return (a, ws.drop 1)
  | _ + 1, .operator (.unary letter), ws => do
    match ws with
    | _ :: a :: rest => return (← unary letter a, a :: rest)
    | _ => refuse ['-', letter] (lit "argument expected")
  | _ + 1, _, ws => do
    match token (ws.drop 1), ws with
    | .operator (.binary name), a :: _ :: b :: rest => return (← binary name a b, b :: rest)
    | .operator (.binary name), _ => refuse name (lit "argument expected")
    | _, _ => return (ws.headD [] ≠ [], ws)

end

/-- Whether the condition that some words are holds, with the first of them as a token. -/
def whole (t : Token) (ws : List Text) : Act Bool := do
  let (a, ws) ← alternatives (4 * ws.length + 4) t ws
  match ws with
  | w :: _ :: _ => refuse w (lit "unexpected operator")
  | _ => return a

/-- Whether a condition holds; with three or four words, a relation, parentheses and a negation come first. -/
def holds : List Text → Act Bool
  | [] => return false
  | [a, op, b] =>
    if isBinary op then whole .operand [a, op, b]
    else if a = ['('] ∧ b = [')'] then whole (token [op]) [op]
    else if a = ['!'] then return !(← holds [op, b])
    else whole (token [a, op, b]) [a, op, b]
  | [a, b, c, d] =>
    if a = ['('] ∧ d = [')'] then whole (token [b, c]) [b, c]
    else if a = ['!'] then return !(← holds [b, c, d])
    else whole (token [a, b, c, d]) [a, b, c, d]
  | ws => whole (token ws) ws

end Condition

/-- Tells by its status whether a condition holds; under the name of a bracket, another bracket ends it. -/
def test (name : Text) : Builtin := fun args => do
  let bracketed := name.head? = some '['
  if bracketed ∧ args.getLast? ≠ some [']'] then abort (lit "missing ]")
  return if ← Condition.holds (if bracketed then args.dropLast else args) then 0 else 1

end Buildfile.Shell
