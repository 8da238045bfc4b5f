import Buildfile.Workspace.Escape
import Buildfile.Workspace.Format
import Buildfile.Workspace.Utility.Basic
/-!
# Showing text by a format

A format is shown with its escapes replaced and with its conversions standing for arguments. It is used again
as long as it uses up arguments; a missing argument counts as empty or zero. What cannot be converted is
complained of, and a conversion that is none ends the utility.
-/

namespace Buildfile.Utility.Printf

/-- What happens while a format is shown. -/
inductive Event where
  | shown (t : Text)
  /-- An argument is no number. -/
  | noNumber (argument : Text)
  /-- An argument does not end with its number. -/
  | partNumber (argument : Text)
  /-- The number of an argument is too great or too small. -/
  | tooGreat (argument : Text)
  /-- What follows a character is left out. -/
  | leftOver (rest : Text)
  | badWidth (argument : Text)
  | badPrecision (argument : Text)
  | badConversion (directive : Text)
  /-- An escape lacks its number. -/
  | missingDigits
  | badCharacter (escape : Text)
  /-- Nothing more is shown. -/
  | stopped
  | excess (argument : Text)
  deriving DecidableEq, Inhabited

namespace Event

/-- Whether nothing comes after an event. -/
def isLast : Event → Bool
  | badWidth _ | badPrecision _ | badConversion _ | missingDigits | badCharacter _ | stopped => true
  | _ => false

end Event

/-! ## Escapes -/

/-- What an escape of a character by its number in so many digits shows, and the text after it. -/
def unicode (letter : Char) (count : Nat) (t : Text) : Event × Text :=
  let ds := (t.take count).takeWhile fun c => (Floating.hexDigit? c).isSome
  let n := Floating.ofDigits 16 ds
  if ds.length < count then (.missingDigits, [])
  else if (n ≤ 0x9F ∧ n ≠ 0x24 ∧ n ≠ 0x40 ∧ n ≠ 0x60) ∨ (0xD800 ≤ n ∧ n ≤ 0xDFFF) then
    (.badCharacter ('\\' :: letter :: ds.map Char.toLower), [])
  else (.shown (Octets.ofText [Char.ofNat n]), t.drop count)

/-- What a backslash shows with the text after it, and the rest. A zero before an octal number is no digit of
it if `leadingZero`. -/
def escape (leadingZero : Bool) (t : Text) : Event × Text :=
  match t with
  | [] => (.shown ['\\'], [])
  | 'c' :: _ => (.stopped, [])
  | '"' :: t => (.shown ['"'], t)
  | 'u' :: t => unicode 'u' 4 t
  | 'U' :: t => unicode 'U' 8 t
  | 'x' :: t => ((Escape.hexadecimal? t).map fun r => (.shown [r.1], r.2)).getD (.missingDigits, [])
  | c :: t =>
    match Escape.character? true leadingZero (c :: t) with
    | some (d, rest) => (.shown [d], rest)
    | none => (.shown ['\\', c], t)

/-- What a text of a bounded length shows with its escapes replaced. -/
def escapesWithin : Nat → Text → List Event
  | 0, _ | _ + 1, [] => []
  | k + 1, '\\' :: t =>
    let (e, rest) := escape true t
    e :: if e.isLast then [] else escapesWithin k rest
  | k + 1, c :: t => .shown [c] :: escapesWithin k t

/-! ## Numbers -/

/-- The number of the character after a quote, and what comes after it. -/
def quotedNumber? (argument : Text) : Option (Nat × Text) :=
  match argument with
  | q :: c :: t =>
    if q = '"' ∨ q = '\'' then
      match Octets.characters (c :: t) with
      | (octets, some d) :: _ => some (d.toNat, (c :: t).drop octets.length)
      | _ => some (c.toNat, t)
    else none
  | _ => none

/-- A number that an argument stands for, and what happens, given how a number is read. -/
def numberOf {α : Type} (read? : Text → Option (α × Text × Bool)) (ofNat : Nat → α) (argument : Text) : α × List Event :=
  match quotedNumber? argument with
  | some (n, rest) => (ofNat n, if rest = [] then [] else [.leftOver rest])
  | none =>
    match read? argument with
    | some (n, _, true) => (n, [.tooGreat argument])
    | some (n, rest, false) => (n, if rest = [] then [] else [.partNumber argument])
    | none => (ofNat 0, if argument = [] then [] else [.noNumber argument])

/-- An integer with a sign, the rest, and whether it is too great. -/
def readSigned? (t : Text) : Option (Int × Text × Bool) :=
  (Format.integer? t).map fun r => (Format.clampSigned r.1, r.2, Format.clampSigned r.1 ≠ r.1)

/-- An integer without a sign, the rest, and whether it is too great. -/
def readUnsigned? (t : Text) : Option (Nat × Text × Bool) :=
  (Format.integer? t).map fun r => (Format.clampUnsigned r.1, r.2, decide (Format.maxUnsigned < r.1.natAbs))

/-- A number with a floating point, the rest, and whether it is too great or too small. -/
def readFloating? (t : Text) : Option (Floating × Text × Bool) :=
  (Floating.read? .extended t).map fun r =>
    (r.1, r.2, Floating.isOutOfRange .extended (t.take (t.length - r.2.length)) r.1)

/-! ## Conversions -/

/-- The letters of conversions that may follow some flags. -/
def allowed (flags : Text) (letter : Char) : Bool :=
  letter ∈ (lit "aAcdeEfFgGiosuxX") &&
    !('\'' ∈ flags && letter ∈ (lit "aAceEosxX")) && !('#' ∈ flags && letter ∈ (lit "cdisu")) &&
    !('0' ∈ flags && letter ∈ (lit "cs"))

/-- A width or precision at the start of a text, which a star takes from the arguments. -/
def measure (t : Text) (args : List Text) : Option Int × List Event × Text × List Text :=
  match t with
  | '*' :: t =>
    match args with
    | [] => (some 0, [], t, [])
    | a :: rest =>
      let (n, es) := numberOf readSigned? (fun n => (n : Int)) a
      (some n, es, t, rest)
  | t =>
    let (n, rest) := Format.number? t
    (n.map Int.ofNat, [], rest, args)

/-- What a conversion shows of an argument. -/
def convert (c : Format.Conversion) (argument : Text) : List Event :=
  if c.letter = 's' then [.shown (Format.text c argument)]
  else if c.letter = 'c' then [.shown (Format.padded c [argument.headD '\x00'])]
  else if c.letter = 'd' ∨ c.letter = 'i' then
    let (n, es) := numberOf readSigned? (fun n => (n : Int)) argument
    es ++ [.shown (Format.integer c n)]
  else if c.letter ∈ (lit "ouxX") then
    let (n, es) := numberOf readUnsigned? id argument
    es ++ [.shown (Format.natural c n)]
  else
    let (v, es) := numberOf readFloating? (fun n => Floating.ofInt .extended n) argument
    es ++ [.shown (Format.floating .extended c v)]

/-- The greatest width or precision. -/
def maxMeasure : Int := 2147483647

/-- What the conversion after a percent sign shows, the text after it and the arguments that are left. -/
def conversion (t : Text) (args : List Text) : List Event × Text × List Text :=
  let flags := t.takeWhile fun c => c ∈ (lit " #+-0'")
  let starred := (t.drop flags.length).head? = some '*'
  let firstArg := args.headD []
  let (width, widthEvents, afterWidth, args) := measure (t.drop flags.length) args
  if starred ∧ (width.getD 0).natAbs > maxMeasure then (widthEvents ++ [.badWidth firstArg], [], [])
  else
    let dotted := afterWidth.head? = some '.'
    let secondArg := args.headD []
    let (precision, precisionEvents, afterPrecision, args) :=
      if dotted then
        let (p, es, rest, args) := measure (afterWidth.drop 1) args
        (some (p.getD 0), es, rest, args)
      else (none, [], afterWidth, args)
    if maxMeasure < precision.getD 0 then (widthEvents ++ precisionEvents ++ [.badPrecision secondArg], [], [])
    else
      let rest := afterPrecision.dropWhile fun c => c ∈ (lit "lLhjtz")
      let before := widthEvents ++ precisionEvents
      match rest with
      | [] => (before ++ [.badConversion ('%' :: t)], [], [])
      | letter :: after =>
        if allowed flags letter ∧ !(dotted ∧ letter = 'c') then
          let w := width.getD 0
          let c : Format.Conversion :=
            { flags := if w < 0 then '-' :: flags else flags, width := w.natAbs,
              precision := precision.bind fun p => if p < 0 then none else some p.toNat, letter }
          (before ++ convert c (args.headD []), after, args.drop 1)
        else (before ++ [.badConversion ('%' :: t.take (t.length - after.length))], [], [])

/-! ## Formats -/

/-- What one pass over a format of a bounded length shows, and the arguments that are left. -/
def once : Nat → Text → List Text → List Event × List Text
  | 0, _, args | _ + 1, [], args => ([], args)
  | k + 1, '%' :: '%' :: f, args =>
    let (es, args) := once k f args
    (.shown ['%'] :: es, args)
  | k + 1, '%' :: 'b' :: f, args =>
    let shown := escapesWithin ((args.headD []).length + 1) (args.headD [])
    if shown.any Event.isLast then (shown, [])
    else
      let (es, args) := once k f (args.drop 1)
      (shown ++ es, args)
  | k + 1, '%' :: 'q' :: f, args =>
    let shown := args.head?.toList.map fun a => Event.shown (Quoting.ifNeeded a)
    let (es, args) := once k f (args.drop 1)
    (shown ++ es, args)
  | k + 1, '%' :: f, args =>
    let (shown, f, args) := conversion f args
    if shown.any Event.isLast then (shown, [])
    else
      let (es, args) := once k f args
      (shown ++ es, args)
  | k + 1, '\\' :: f, args =>
    let (e, f) := escape false f
    if e.isLast then ([e], [])
    else
      let (es, args) := once k f args
      (e :: es, args)
  | k + 1, c :: f, args =>
    let (es, args) := once k f args
    (.shown [c] :: es, args)

/-- What a format shows that is used again as long as it uses up arguments, at most so often. -/
def again (format : Text) : Nat → List Text → List Event
  | 0, _ => []
  | k + 1, args =>
    let (es, left) := once (format.length + 1) format args
    if es.any Event.isLast then es
    else if left.length = args.length ∨ left = [] then es ++ left.head?.toList.map .excess
    else es ++ again format k left

/-- What a format shows of some arguments. -/
def events (format : Text) (args : List Text) : List Event := again format (args.length + 1) args

/-- Carries out events, with the status so far. -/
def carryOut (name : Text) : (status : Int) → List Event → Program Int
  | status, [] => return status
  | status, e :: es => do
    let go (before word after : Text) : Program Int := do
      complainWith name before word after
      if e.isLast then return 1 else carryOut name 1 es
    match e with
    | .shown t =>
      put name t
      carryOut name status es
    | .stopped => return 0
    | .noNumber a => go [] a (lit ": expected a numeric value")
    | .partNumber a => go [] a (lit ": value not completely converted")
    | .tooGreat a => go [] a (lit ": Numerical result out of range")
    | .badWidth a => go (lit "invalid field width: ") a []
    | .badPrecision a => go (lit "invalid precision: ") a []
    | .badConversion d =>
      complain name (d ++ lit ": invalid conversion specification")
      return 1
    | .missingDigits =>
      complain name (lit "missing hexadecimal number in escape")
      return 1
    | .badCharacter escape =>
      complain name (lit "invalid universal character name " ++ escape)
      return 1
    | .leftOver rest =>
      complain name (lit "warning: " ++ rest ++ lit ": character(s) following character constant have been ignored")
      carryOut name status es
    | .excess a =>
      complainWith name (lit "warning: ignoring excess arguments, starting with ") a []
      carryOut name status es

/-- Shown text that follows shown text is shown at once. -/
def merge : List Event → List Event
  | [] => []
  | .shown t :: es =>
    match merge es with
    | .shown u :: es => .shown (t ++ u) :: es
    | es => .shown t :: es
  | e :: es => e :: merge es

/-- Shows its arguments by a format. -/
def printf : Utility := fun name args =>
  match if args.head? = some ['-', '-'] then args.drop 1 else args with
  | [] => missingOperand name
  | format :: args => carryOut name 0 (merge (events format args))

end Buildfile.Utility.Printf

namespace Buildfile.Utility

/-- Whether an argument is made of the option letters of `echo`. -/
def isEchoOption (t : Text) : Bool :=
  match t with
  | '-' :: ls => ls ≠ [] && ls.all fun c => c == 'n' || c == 'e' || c == 'E'
  | _ => false

/-- Shows its arguments: options that are all letters `n`, `e` and `E` leave out the line end or
turn escapes on and off. -/
def echo : Utility := fun name args => do
  let options := args.takeWhile isEchoOption
  let words := args.drop options.length
  let letters := options.flatten
  let escapes := (letters.filter fun c => c == 'e' || c == 'E').getLast? = some 'e'
  let line := [' '].intercalate words
  let (line, on) := if escapes then Escape.unescape true line else (line, true)
  put name (line ++ if 'n' ∈ letters ∨ !on then [] else ['\n'])
  return 0

end Buildfile.Utility
