import Buildfile.Workspace.FileTest
import Buildfile.Workspace.Utility.Basic
/-!
# Conditions

A condition tests files, texts and integers, and joins such tests. Up to four words are understood by
their number, so that a word that looks like an operator can be tested too; more of them are read as
tests joined by `-a` and `-o`.
-/

namespace Buildfile

/-- What is wrong with a condition. -/
inductive ConditionFault where
  | missingAfter (word : Text)
  | binaryExpected (word : Text)
  | unaryExpected (word : Text)
  | extra (word : Text)
  | noInteger (word : Text)
  /-- The parenthesis that should stand at the end, or in place of a word. -/
  | unclosed (found : Option Text)
  | noLength (operator : Text)
  deriving DecidableEq, Inhabited

namespace Condition

/-- An integer with an optional sign, between blanks. -/
def integer? (t : Text) : Option Int :=
  let isSpace (c : Char) : Bool := c == ' ' || ('\t' ≤ c && c ≤ '\r')
  let core := ((t.dropWhile isSpace).reverse.dropWhile isSpace).reverse
  let digits (ds : Text) : Option Nat :=
    if ds ≠ [] ∧ ds.all Char.isDigit then some (ds.foldl (fun n c => 10 * n + (c.toNat - '0'.toNat)) 0) else none
  match core with
  | '-' :: ds => (digits ds).map fun n => -(n : Int)
  | '+' :: ds => (digits ds).map Int.ofNat
  | ds => (digits ds).map Int.ofNat

/-- Where the files are that a condition asks about. -/
structure Files where
  tree : Tree := {}
  here : Place := Tree.root
  deriving Inhabited

/-- The operators between two operands. -/
def operators : List Text :=
  [lit "=", lit "==", lit "!=", lit "-eq", lit "-ne", lit "-lt", lit "-le", lit "-gt", lit "-ge",
   lit "-ef", lit "-nt", lit "-ot"]

/-- An operand: a word, or the length of one. -/
inductive Operand where
  | word (t : Text)
  | length (t : Text)
  deriving DecidableEq, Inhabited

namespace Operand

/-- The word of an operand. -/
def text : Operand → Text
  | word t | length t => t

/-- The integer that an operand is. -/
def value : Operand → Except ConditionFault Int
  | length t => .ok t.length
  | word t => ((integer? t).map .ok).getD (.error (.noInteger t))

/-- Whether an operand is the length of a word. -/
def isLength : Operand → Bool
  | length _ => true
  | word _ => false

end Operand

/-- The truth of a test of two operands. -/
def compare (f : Files) (a : Operand) (op : Text) (b : Operand) : Except ConditionFault Bool :=
  let integers (r : Int → Int → Bool) : Except ConditionFault Bool := do return r (← a.value) (← b.value)
  let files (r : Text → Text → Bool) : Except ConditionFault Bool :=
    if a.isLength ∨ b.isLength then .error (.noLength op) else .ok (r a.text b.text)
  let time (path : Text) : Option Int := FileTest.modified? f.tree f.here path
  if op = lit "!=" then .ok (a.text ≠ b.text)
  else if op = lit "-eq" then integers (· == ·)
  else if op = lit "-ne" then integers (· != ·)
  else if op = lit "-lt" then integers (decide <| · < ·)
  else if op = lit "-le" then integers (decide <| · ≤ ·)
  else if op = lit "-gt" then integers fun m n => decide (n < m)
  else if op = lit "-ge" then integers fun m n => decide (n ≤ m)
  else if op = lit "-ef" then files (FileTest.same f.tree f.here)
  else if op = lit "-nt" then files fun x y => (time x).any fun m => (time y).all (· < m)
  else if op = lit "-ot" then files fun x y => (time y).any fun m => (time x).all (· < m)
  else .ok (a.text = b.text)

/-- The truth of a test of one operand. -/
def ask (f : Files) (op operand : Text) : Except ConditionFault Bool :=
  match op with
  | ['-', 'n'] => .ok (operand ≠ [])
  | ['-', 'z'] => .ok (operand = [])
  | ['-', 't'] => if (integer? operand).isSome then .ok false else .error (.noInteger operand)
  | ['-', c] => if c ∈ FileTest.letters then .ok (FileTest.holds f.tree f.here c operand) else .error (.unaryExpected op)
  | _ => .error (.unaryExpected op)

/-- Whether a word looks like a test of one operand. -/
def isDashed : Text → Bool
  | ['-', _] => true
  | _ => false

/-- What is left of a condition is read from its words. -/
abbrev Reading := StateT (List Text) (Except ConditionFault)

/-- Takes the next word; `last` is the last one of the condition. -/
def take (last : Text) : Reading Text := do
  match ← get with
  | [] => throw (.missingAfter last)
  | w :: ws =>
    set ws
    return w

/-- Whether a word is there at a position. -/
def isAt (ws : List Text) (n : Nat) (w : Text) : Bool := ws[n]? = some w

/-- Whether an operator between two operands is there at a position. -/
def hasOperator (ws : List Text) (n : Nat) : Bool := ws[n]?.any operators.contains

/-- A test of two operands. -/
def binary (f : Files) (lengthFirst : Bool) : Reading Bool := do
  let ws ← get
  let ws := if lengthFirst then ws.drop 1 else ws
  let a := ws.headD []
  let op := (ws.drop 1).headD []
  let rest := ws.drop 2
  let first : Operand := if lengthFirst then .length a else .word a
  match rest with
  | ['-', 'l'] :: b :: after =>
    set after
    compare f first op (.length b)
  | b :: after =>
    set after
    compare f first op (.word b)
  | [] => throw (.missingAfter op)

/-- A test of one operand. -/
def unary (f : Files) (last : Text) : Reading Bool := do
  let op ← take last
  match op with
  | ['-', c] =>
    if c = 'n' ∨ c = 'z' ∨ c = 't' ∨ c ∈ FileTest.letters then
      let operand ← take last
      ask f op operand
    else throw (.unaryExpected op)
  | _ => throw (.unaryExpected op)

/-- One word, which is true if it is not empty. -/
def one (last : Text) : Reading Bool := do return (← take last) ≠ []

/-- Two words. -/
def two (f : Files) (last : Text) : Reading Bool := do
  let ws ← get
  if isAt ws 0 ['!'] then
    set (ws.drop 1)
    return !(← one last)
  else if isDashed (ws.headD []) then unary f last
  else throw (.missingAfter last)

mutual

/-- So many words. -/
def counted (f : Files) (last : Text) : (depth count : Nat) → Reading Bool
  | 0, _ => throw (.missingAfter last)
  | k + 1, count => do
    let ws ← get
    match count with
    | 1 => one last
    | 2 => two f last
    | 3 => three f last k
    | _ =>
      if count = 4 ∧ isAt ws 0 ['!'] then
        set (ws.drop 1)
        return !(← three f last k)
      else if count = 4 ∧ isAt ws 0 ['('] ∧ isAt ws 3 [')'] then
        set (ws.drop 1)
        let r ← two f last
        modify (·.drop 1)
        return r
      else disjunction f last k

/-- Three words. -/
def three (f : Files) (last : Text) : Nat → Reading Bool
  | 0 => throw (.missingAfter last)
  | k + 1 => do
    let ws ← get
    if hasOperator ws 1 then binary f false
    else if isAt ws 0 ['!'] then
      set (ws.drop 1)
      return !(← two f last)
    else if isAt ws 0 ['('] ∧ isAt ws 2 [')'] then
      set (ws.drop 1)
      let r ← one last
      modify (·.drop 1)
      return r
    else if isAt ws 1 ['-', 'a'] ∨ isAt ws 1 ['-', 'o'] then disjunction f last k
    else throw (.binaryExpected (ws[1]?.getD []))

/-- Tests joined by `-o`. -/
def disjunction (f : Files) (last : Text) : Nat → Reading Bool
  | 0 => throw (.missingAfter last)
  | k + 1 => do
    if (← get) = [] then throw (.missingAfter last)
    let a ← conjunction f last k
    if isAt (← get) 0 ['-', 'o'] then
      modify (·.drop 1)
      let b ← disjunction f last k
      return a || b
    else return a

/-- Tests joined by `-a`. -/
def conjunction (f : Files) (last : Text) : Nat → Reading Bool
  | 0 => throw (.missingAfter last)
  | k + 1 => do
    let a ← term f last k
    if isAt (← get) 0 ['-', 'a'] then
      modify (·.drop 1)
      let b ← conjunction f last k
      return a && b
    else return a

/-- One test, turned around or in parentheses. -/
def term (f : Files) (last : Text) : Nat → Reading Bool
  | 0 => throw (.missingAfter last)
  | k + 1 => do
    match ← get with
    | [] => throw (.missingAfter last)
    | ['!'] :: rest =>
      if rest = [] then throw (.missingAfter last)
      set rest
      return !(← term f last k)
    | ['('] :: rest =>
      if rest = [] then throw (.missingAfter last)
      set rest
      let inner := (rest.drop 1).take 3
      let count := match inner.findIdx? (· = [')']) with
        | some i => i + 1
        | none => if rest.length ≤ 4 then rest.length else rest.length
      let r ← counted f last k count
      match ← get with
      | [')'] :: after =>
        set after
        return r
      | x :: _ => throw (.unclosed (some x))
      | [] => throw (.unclosed none)
    | ws =>
      if 4 ≤ ws.length ∧ isAt ws 0 ['-', 'l'] ∧ hasOperator ws 2 then binary f true
      else if 3 ≤ ws.length ∧ hasOperator ws 1 then binary f false
      else if isDashed (ws.headD []) then unary f last
      else one last

end

/-- The truth of a condition. -/
def evaluate (f : Files) (ws : List Text) : Except ConditionFault Bool := do
  if ws = [] then return false
  let (r, rest) ← (counted f (ws.getLastD []) (8 * (ws.length + 1)) ws.length).run ws
  match rest with
  | [] => return r
  | w :: _ => throw (.extra w)

end Condition

namespace Utility

/-- Complains of a fault in a condition. -/
def complainOfCondition (name : Text) : ConditionFault → Program Unit
  | .missingAfter w => complainWith name (lit "missing argument after ") w []
  | .binaryExpected w => complainWith name [] w (lit ": binary operator expected")
  | .unaryExpected w => complainWith name [] w (lit ": unary operator expected")
  | .extra w => complainWith name (lit "extra argument ") w []
  | .noInteger w => complainWith name (lit "invalid integer ") w []
  | .unclosed none => complainWith name [] [')'] (lit " expected")
  | .unclosed (some w) => do complainWith name [] [')'] (lit " expected, found " ++ (← quoted w))
  | .noLength op => complain name (op ++ lit " does not accept -l")

/-- Tells by its status whether a condition holds; under the name `[` it ends with `]`. -/
def test : Utility := fun name args => do
  let bracket := Path.base name = ['[']
  if bracket ∧ args.getLast? ≠ some [']'] then
    complainWith name (lit "missing ") [']'] []
    return 2
  let f : Condition.Files := { tree := ← Program.tree, here := ← Program.here }
  match Condition.evaluate f (if bracket then args.dropLast else args) with
  | .ok b => return if b then 0 else 1
  | .error fault =>
    complainOfCondition name fault
    return 2

end Utility

end Buildfile
