import Buildfile.Text.Basic
/-!
# Arithmetic expressions of a script

An expression is made of integers of 64 bits, variables and operators. It may set variables as it is
evaluated; what stands behind `&&`, `||` and `?` is evaluated only if it is needed. An expression that cannot be read
is evaluated up to where its fault is.

`Expression.read` reads an expression, and `Expression.value` evaluates it over variables of any kind.
-/

namespace Buildfile.Shell

/-- Why an expression has no value. -/
inductive ExpressionFault where
  | expected (what : Text)
  | divisionByZero
  /-- The value of a variable is no integer. -/
  | illegalNumber (value : Text)
  deriving DecidableEq, Repr, Inhabited

/-- The wording of a fault in an expression. -/
def ExpressionFault.message (expression : Text) : ExpressionFault → Text
  | expected what =>
    lit "arithmetic expression: expecting " ++ what ++ lit ": \"" ++ expression ++ ['"']
  | divisionByZero => lit "arithmetic expression: division by zero: \"" ++ expression ++ ['"']
  | illegalNumber v => lit "Illegal number: " ++ v

/-- An expression. -/
inductive Expression where
  | number (n : Int)
  | variable (name : Text)
  /-- A variable gets a value; with an operator, the value is put together with the old one. -/
  | assign (name : Text) (operator : Option Text) (value : Expression)
  | unary (operator : Char) (a : Expression)
  | binary (operator : Text) (a b : Expression)
  | both (a b : Expression)
  | either (a b : Expression)
  | choose (test yes no : Expression)
  /-- After an expression, the others cannot be read. -/
  | failing (before : Expression) (fault : ExpressionFault)
  deriving DecidableEq, Repr, Inhabited

namespace Expression

/-! ## Integers -/

/-- The greatest integer. -/
def greatest : Nat := 0x7FFFFFFFFFFFFFFF

/-- The integer of 64 bits that stands for another integer. -/
def wrap (n : Int) : Int := n.bmod 0x10000000000000000

/-- The value of a digit in a base up to sixteen. -/
def digit? (base : Nat) (c : Char) : Option Nat :=
  let value :=
    if c.isDigit then some (c.toNat - '0'.toNat)
    else if 'a' ≤ c ∧ c ≤ 'f' then some (c.toNat - 'a'.toNat + 10)
    else if 'A' ≤ c ∧ c ≤ 'F' then some (c.toNat - 'A'.toNat + 10)
    else none
  value.filter (· < base)

/-- The number that digits stand for, at most the greatest one. -/
def ofDigits (base : Nat) (ds : Text) : Nat :=
  min greatest (ds.foldl (fun n c => base * n + (digit? base c).getD 0) 0)

/-- The number at the start of a text, and the text after it: hexadecimal after `0x`, octal after `0`. -/
def number? (t : Text) : Option (Nat × Text) :=
  let digits (base : Nat) (t : Text) : Text := t.takeWhile fun c => (digit? base c).isSome
  let decimal := digits 10 t
  match t with
  | '0' :: x :: h =>
    if (x = 'x' ∨ x = 'X') ∧ digits 16 h ≠ [] then some (ofDigits 16 (digits 16 h), h.drop (digits 16 h).length)
    else some (ofDigits 8 (digits 8 t), t.drop (digits 8 t).length)
  | _ => if decimal = [] then none else some (ofDigits 10 decimal, t.drop decimal.length)

/-- A blank between the parts of an expression. -/
def isSpace (c : Char) : Bool := c == ' ' || c == '\t' || c == '\n'

/-- The integer that the value of a variable stands for; no value stands for zero. -/
def ofValue? (t : Text) : Option Int :=
  let sign := t.dropWhile isSpace
  let (negative, digits) := match sign with
    | '-' :: ds => (true, ds)
    | '+' :: ds => (false, ds)
    | ds => (false, ds)
  if t = [] then some 0
  else match number? digits with
    | some (n, rest) => if rest.all isSpace then some (if negative then -n else n) else none
    | none => none

/-! ## Signs -/

/-- A part of an expression. -/
inductive Sign where
  | number (n : Nat)
  | name (t : Text)
  | operator (t : Text)
  deriving DecidableEq, Repr, Inhabited

/-- The operators, each before those that it starts with. -/
def operators : List Text :=
  [lit "<<=", lit ">>=", lit "&&", lit "||", lit "==", lit "!=", lit "<=", lit ">=", lit "<<", lit ">>",
   lit "+=", lit "-=", lit "*=", lit "/=", lit "%=", lit "&=", lit "|=", lit "^="]

/-- The parts of an expression whose length the first argument bounds. -/
def signsWithin : Nat → Text → List Sign
  | 0, _ | _ + 1, [] => []
  | k + 1, c :: t =>
    if isSpace c then signsWithin k t
    else if c.isAlpha ∨ c = '_' then
      let name := c :: t.takeWhile fun c => c.isAlphanum || c == '_'
      .name name :: signsWithin k (t.drop (name.length - 1))
    else match number? (c :: t) with
      | some (n, rest) => .number n :: signsWithin k rest
      | none =>
        let o := (operators.find? (List.isPrefixOf · (c :: t))).getD [c]
        .operator o :: signsWithin k (t.drop (o.length - 1))

/-- The parts of an expression. -/
def signs (t : Text) : List Sign := signsWithin t.length t

/-! ## Reading -/

/-- What is left of an expression is read from its parts; nothing is left after a fault. -/
abbrev Reading := StateM (Option (List Sign))

/-- The operators that take two values, the tightest first. -/
def levels : List (List Text) :=
  [[lit "*", lit "/", lit "%"], [lit "+", lit "-"], [lit "<<", lit ">>"], [lit "<", lit ">", lit "<=", lit ">="],
   [lit "==", lit "!="], [lit "&"], [lit "^"], [lit "|"]]

/-- The operators that set a variable, with the operator that puts the values together. -/
def assignment? (o : Text) : Option (Option Text) :=
  if o = ['='] then some none
  else if o ∈ [lit "==", lit "!=", lit "<=", lit ">="] then none
  else if o.getLast? = some '=' then some (some o.dropLast)
  else none

/-- Takes the next part if it is one of some operators. -/
def operator? (os : List Text) : Reading (Option Text) := fun ss =>
  match ss with
  | some (.operator o :: rest) => if o ∈ os then (some o, some rest) else (none, ss)
  | _ => (none, ss)

/-- Leaves what follows an expression unread because of what is missing. -/
def missing (what : Text) (before : Expression := .number 0) : Reading Expression := do
  set (none : Option (List Sign))
  return .failing before (.expected what)

/-- Takes an operator after an expression, and no other part. -/
def expect (o : Text) (before : Expression) : Reading Expression := do
  if (← get).isNone ∨ (← operator? [o]).isSome then return before else missing ('\'' :: o ++ ['\'']) before

mutual

/-- An expression with its assignments. -/
def assignments : Nat → Reading Expression
  | 0 => missing (lit "EOF")
  | n + 1 => do
    match ← get with
    | some (.name x :: .operator o :: rest) =>
      match assignment? o with
      | some op =>
        set (some rest)
        return .assign x op (← assignments n)
      | none => choice n
    | _ => choice n

/-- An expression with a choice, if any. -/
def choice : Nat → Reading Expression
  | 0 => missing (lit "EOF")
  | n + 1 => do
    let test ← disjunction n
    if (← operator? [['?']]).isNone then return test
    let yes ← assignments n
    if (← get).isNone then return .choose test yes (.number 0)
    if (← operator? [[':']]).isNone then missing (lit "':'") (.choose test yes (.number 0))
    else return .choose test yes (← choice n)

/-- Expressions joined by `||`. -/
def disjunction : Nat → Reading Expression
  | 0 => missing (lit "EOF")
  | n + 1 => do
    let a ← conjunction n
    if (← operator? [lit "||"]).isSome then return .either a (← disjunction n) else return a

/-- Expressions joined by `&&`. -/
def conjunction : Nat → Reading Expression
  | 0 => missing (lit "EOF")
  | n + 1 => do
    let a ← chain n levels.reverse
    if (← operator? [lit "&&"]).isSome then return .both a (← conjunction n) else return a

/-- Expressions joined by operators, of which the tightest level comes last. -/
def chain : Nat → List (List Text) → Reading Expression
  | 0, _ => missing (lit "EOF")
  | n + 1, [] => operand n
  | n + 1, os :: tighter => do
    let a ← chain n tighter
    chainAfter n os tighter a

/-- The rest of expressions joined by the operators of a level, which are applied from the left. -/
def chainAfter : Nat → List Text → List (List Text) → Expression → Reading Expression
  | 0, _, _, _ => missing (lit "EOF")
  | n + 1, os, tighter, a => do
    match ← operator? os with
    | some o =>
      let b ← chain n tighter
      chainAfter n os tighter (.binary o a b)
    | none => return a

/-- A number, a variable, an expression in parentheses, or a sign before one of them. -/
def operand : Nat → Reading Expression
  | 0 => missing (lit "EOF")
  | n + 1 => do
    match ← get with
    | some (.number k :: rest) =>
      set (some rest)
      return .number k
    | some (.name x :: rest) =>
      set (some rest)
      return .variable x
    | some (.operator ['('] :: rest) =>
      set (some rest)
      expect [')'] (← assignments n)
    | some (.operator [c] :: rest) =>
      if c ∈ ['-', '+', '~', '!'] then
        set (some rest)
        return .unary c (← operand n)
      else missing (lit "primary")
    | _ => missing (lit "primary")

end

/-- Reads an expression. -/
def read (t : Text) : Expression :=
  let ss := signs t
  let (e, rest) := (assignments (16 * (ss.length + 1))).run (some ss)
  if rest.any (· ≠ []) then .failing e (.expected (lit "EOF")) else e

/-- The fault at which the reading of an expression ended, if there is one. -/
def fault? : Expression → Option ExpressionFault
  | number _ | .variable _ => none
  | assign _ _ e | unary _ e => fault? e
  | binary _ a b | both a b | either a b => (fault? a).orElse fun _ => fault? b
  | choose a b c => ((fault? a).orElse fun _ => fault? b).orElse fun _ => fault? c
  | failing _ f => some f

/-! ## Values -/

/-- A truth value as an integer. -/
def ofBool (b : Bool) : Int := if b then 1 else 0

/-- The value of an operator of one operand. -/
def applyUnary (operator : Char) (a : Int) : Int :=
  if operator = '-' then wrap (-a)
  else if operator = '~' then -a - 1
  else if operator = '!' then ofBool (a = 0)
  else a

/-- The value of an operator of two operands. -/
def applyBinary (operator : Text) (a b : Int) : Except ExpressionFault Int :=
  let word (n : Int) : BitVec 64 := BitVec.ofInt 64 n
  let shift := (b % 64).toNat
  if operator = ['*'] then .ok (wrap (a * b))
  else if operator = ['/'] then if b = 0 then .error .divisionByZero else .ok (wrap (a.tdiv b))
  else if operator = ['%'] then if b = 0 then .error .divisionByZero else .ok (a.tmod b)
  else if operator = ['+'] then .ok (wrap (a + b))
  else if operator = ['-'] then .ok (wrap (a - b))
  else if operator = ['<', '<'] then .ok ((word a <<< shift).toInt)
  else if operator = ['>', '>'] then .ok ((word a).sshiftRight shift).toInt
  else if operator = ['<'] then .ok (ofBool (a < b))
  else if operator = ['>'] then .ok (ofBool (b < a))
  else if operator = ['<', '='] then .ok (ofBool (a ≤ b))
  else if operator = ['>', '='] then .ok (ofBool (b ≤ a))
  else if operator = ['=', '='] then .ok (ofBool (a = b))
  else if operator = ['!', '='] then .ok (ofBool (a ≠ b))
  else if operator = ['&'] then .ok (word a &&& word b).toInt
  else if operator = ['^'] then .ok (word a ^^^ word b).toInt
  else .ok (word a ||| word b).toInt

variable {m : Type → Type} [Monad m]

/-- The value of an expression, where `get` and `set` look up and change variables and `fail` says what happens to
a fault. -/
def value (get : Text → m Text) (set : Text → Int → m Unit) (fail : ExpressionFault → m Int) : Expression → m Int
  | number n => return n
  | .variable x => look x
  | assign x op e => do
    let n ← value get set fail e
    let n ← match op with
      | none => pure n
      | some o => apply o (← look x) n
    set x n
    return n
  | unary o a => return applyUnary o (← value get set fail a)
  | binary o a b => do
    let k ← value get set fail a
    let n ← value get set fail b
    apply o k n
  | both a b => do
    if (← value get set fail a) = 0 then skip b 0 else return ofBool ((← value get set fail b) ≠ 0)
  | either a b => do
    if (← value get set fail a) ≠ 0 then skip b 1 else return ofBool ((← value get set fail b) ≠ 0)
  | choose a b c => do
    if (← value get set fail a) ≠ 0 then skip c (← value get set fail b)
    else
      discard <| skip b 0
      value get set fail c
  | failing e f => do
    discard <| value get set fail e
    fail f
where
  /-- A value, unless an expression that is not evaluated has a fault. -/
  skip (e : Expression) (n : Int) : m Int :=
    match fault? e with
    | some f => fail f
    | none => return n
  /-- The integer under a name. -/
  look (x : Text) : m Int := do
    let t ← get x
    match ofValue? t with
    | some n => return n
    | none => fail (.illegalNumber t)
  /-- The value of an operator of two operands. -/
  apply (o : Text) (k n : Int) : m Int :=
    match applyBinary o k n with
    | .ok v => return v
    | .error f => fail f

end Expression

end Buildfile.Shell
