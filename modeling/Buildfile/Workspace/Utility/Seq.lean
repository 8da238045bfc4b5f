import Buildfile.Workspace.Format
import Buildfile.Workspace.Utility.Basic
/-!
# Sequences of numbers

Shows the numbers from a first one on by a step, as far as a last one. Numbers have as many decimal places as
the first one and the step are written with.
-/

namespace Buildfile.Utility.Seq

/-- A number as it was written. -/
structure Written where
  value : Floating
  /-- The number of characters that it takes without an exponent. -/
  width : Int := 0
  /-- The decimal places, unless they do not tell how it is to be shown. -/
  places : Option Nat := some 0
  deriving Inhabited

/-- How a number is written, if it is one. -/
def Written.ofText? (t : Text) : Option Written :=
  match Floating.read? .extended t with
  | some (v, []) =>
    let core := t.dropWhile fun c => Floating.isSpace c || c == '+'
    let isFinite := match v with
      | .finite _ _ _ => true
      | _ => false
    let decimal := core.any (· == '.')
    if core.any (fun c => c == 'x' || c == 'X') ∨ !isFinite then
      some { value := v, places := if decimal ∨ core.contains 'p' then none else some 0 }
    else
      let digits := core.takeWhile fun c => c != 'e' && c != 'E'
      let exponent? := if digits.length < core.length then ((Format.integer? (core.drop (digits.length + 1))).map (·.1)) else none
      let exponent : Int := exponent?.getD 0
      let fraction := (digits.dropWhile (· != '.')).drop 1
      let bareWhole := (digits.takeWhile (· != '.')).getLast?.all fun c => !c.isDigit
      let places : Int := fraction.length
      let width : Int := digits.length
      let width := if decimal then (if fraction = [] then width - 1 else if bareWhole then width + 1 else width) else width
      let shownPlaces : Int := if exponent < 0 then places - exponent else places - min places exponent
      let width :=
        if exponent?.isNone then width
        else if exponent < 0 then (if decimal then (if fraction = [] then width + 1 else width) else width + 1) - exponent
        else
          (if decimal ∧ shownPlaces = 0 ∧ fraction ≠ [] then width - 1 else width) + (exponent - min places exponent)
      some { value := v, width, places := some shownPlaces.toNat }
  | _ => none

/-- A format with one conversion: the text before it, the conversion, and the text after it. -/
structure Shape where
  before : Text := []
  conversion : Format.Conversion
  after : Text := []
  deriving Inhabited

/-- A number as a shape shows it. -/
def Shape.text (s : Shape) (v : Floating) : Text := s.before ++ Format.floating .extended s.conversion v ++ s.after

/-- Text up to a conversion, with doubled percent signs made single, and the text after the sign of it. -/
def literal : Text → Text × Option Text
  | [] => ([], none)
  | '%' :: '%' :: t =>
    let (a, rest) := literal t
    ('%' :: a, rest)
  | '%' :: t => ([], some t)
  | c :: t =>
    let (a, rest) := literal t
    (c :: a, rest)

/-- What is wrong with a format: the words before and after it. -/
abbrev ShapeFault := Text

/-- The shape that a format is. -/
def Shape.ofText (t : Text) : Except ShapeFault Shape :=
  match literal t with
  | (_, none) => .error (lit " has no % directive")
  | (before, some rest) =>
    let flags := rest.takeWhile fun c => c ∈ (lit "-+#0 '")
    let (width, rest) := Format.number? (rest.drop flags.length)
    let (precision, rest) := match rest with
      | '.' :: r => ((Format.number? r).1.getD 0 |> some, (Format.number? r).2)
      | r => (none, r)
    let rest := if rest.head? = some 'L' then rest.drop 1 else rest
    match rest with
    | [] => .error (lit " ends in %")
    | c :: rest =>
      if c ∉ (lit "efgaEFGA") then .error (lit " has unknown %" ++ c :: lit " directive")
      else match literal rest with
        | (after, none) => .ok { before, conversion := { flags, width := width.getD 0, precision, letter := c }, after }
        | _ => .error (lit " has too many % directives")

/-- The shape of numbers that are written in a certain way. -/
def shapeFor (equalWidth : Bool) (first step last : Written) : Shape :=
  match first.places, step.places, last.places with
  | some p, some q, some r =>
    let places := max p q
    let firstWidth := first.width + ((places : Int) - p) + if p = 0 ∧ places ≠ 0 then 1 else 0
    let lastWidth := last.width + ((places : Int) - r) +
      (if r ≠ 0 ∧ places = 0 then -1 else 0) + if r = 0 ∧ places ≠ 0 then 1 else 0
    let width := if equalWidth then (max firstWidth lastWidth).toNat else 0
    { conversion := { flags := if equalWidth then ['0'] else [], width, precision := some places, letter := 'f' } }
  | _, _, _ => { conversion := { letter := 'g' } }

/-- The integers from `first` on by `step`, at most `n` of them, as far as `last`. -/
def progression (first step last : Nat) : Nat → List Nat
  | 0 => []
  | n + 1 => if last < first then [] else first :: progression (first + step) step last n

/-- How many numbers are written at once. -/
def chunk : Nat := 100

/-- Writes the numbers from the one after so many steps on, as many as the first argument says at most, after
text that has not been written yet. -/
def emit (name : Text) (shape : Shape) (separator : Text) (first step last : Floating) :
    Nat → (count : Nat) → (x : Floating) → (held : List Text) → Program Unit
  | 0, _, _, held => put name (held.reverse.flatten ++ ['\n'])
  | k + 1, count, x, held => do
    let shown := shape.text x
    let next := Floating.add .extended first (Floating.mul .extended (Floating.ofInt .extended count) step)
    let past := if step.isNegative then Floating.less next last else Floating.less last next
    let nextShown := shape.text next
    let core := ((nextShown.drop shape.before.length).reverse.drop shape.after.length).reverse
    let equalsLast : Bool := match Floating.read? .extended core with
      | some (v, []) => v.same last
      | _ => false
    if past ∧ ¬ (equalsLast ∧ shown ≠ nextShown) then put name ((shown :: held).reverse.flatten ++ ['\n'])
    else if past then put name ((nextShown :: separator :: shown :: held).reverse.flatten ++ ['\n'])
    else if chunk ≤ held.length then
      put name ((separator :: shown :: held).reverse.flatten)
      emit name shape separator first step last k (count + 1) next []
    else emit name shape separator first step last k (count + 1) next (separator :: shown :: held)

/-- The options and the other arguments; what looks like a number below zero is no option. -/
def split (args : List Text) : List Text × List Text :=
  let isNumber (a : Text) : Bool :=
    match a with
    | '-' :: c :: _ => c == '.' || c.isDigit
    | _ => false
  go isNumber false args
where
  /-- The options whose value is the next argument. -/
  takesNext : List Text := [lit "-s", lit "-f", lit "-ws", lit "-wf", lit "--separator", lit "--format"]
  /-- The arguments before the first operand, and the others; `waiting` tells whether the first one is a value. -/
  go (isNumber : Text → Bool) (waiting : Bool) : List Text → List Text × List Text
    | [] => ([], [])
    | a :: rest =>
      if !waiting ∧ (isNumber a ∨ a.head? ≠ some '-' ∨ a = ['-']) then ([], a :: rest)
      else if !waiting ∧ a = ['-', '-'] then ([], rest)
      else
        let (os, args) := if waiting then go isNumber false rest else go isNumber (takesNext.contains a) rest
        (a :: os, args)

/-- The options of the utility. -/
def known : List Known :=
  [valued 'f' (lit "format"), valued 's' (lit "separator"), flag 'w' (lit "equal-width")]

/-- A number among the operands. -/
def operand (name t : Text) : Program Written := do
  match Written.ofText? t with
  | none => misuseWith name (lit "invalid floating point argument: ") t []
  | some w =>
    match w.value with
    | .undefined _ => do
      let q ← quoted (lit "not-a-number")
      misuseWith name (lit "invalid " ++ q ++ lit " argument: ") t []
    | _ => return w

/-- Shows the numbers of a range. -/
def seq : Utility := fun name args => do
  let (optionArguments, operands) := split args
  let (given, _) ← options name known optionArguments false
  let equalWidth := hasLetter given 'w'
  let separator := (value? given ['s']).getD ['\n']
  match operands with
  | [] => missingOperand name
  | _ :: _ :: _ :: extra :: _ => extraOperand name extra
  | _ =>
    let shape? ← match value? given ['f'] with
      | none => pure none
      | some f =>
        match Shape.ofText f with
        | .ok s => pure (some s)
        | .error m => do
          complainWith name (lit "format ") f m
          Program.exit 1
    if shape?.isSome ∧ equalWidth then
      misuse name (lit "format string may not be specified when printing equal width strings")
    let isPlain (t : Text) : Bool := t ≠ [] && t.all Char.isDigit
    let number (t : Text) : Nat := Floating.ofDigits 10 t
    let (a, s, b) := match operands with
      | [b] => (['1'], ['1'], b)
      | [a, b] => (a, ['1'], b)
      | _ => (operands.headD [], (operands.drop 1).headD [], (operands.drop 2).headD [])
    if isPlain a ∧ isPlain s ∧ isPlain b ∧ number s ≠ 0 ∧ shape?.isNone ∧ !equalWidth then
      let ns := progression (number a) (number s) (number b) ((number b - number a) / number s + 1)
      if ns ≠ [] then put name (separator.intercalate (ns.map Text.ofNat) ++ ['\n'])
      return 0
    else
      let a ← operand name a
      let step ← operand name s
      if step.value.isZero then misuseWith name (lit "invalid Zero increment value: ") s []
      let b ← operand name b
      let shape := shape?.getD (shapeFor equalWidth a step b)
      let out := if step.value.isNegative then Floating.less a.value b.value else Floating.less b.value a.value
      if !out then emit name shape separator a.value step.value b.value 1000000000 1 a.value []
      return 0

end Buildfile.Utility.Seq
