import Buildfile.Workspace.Escape
import Buildfile.Workspace.Format
import Buildfile.Workspace.Shell.State
/-!
# Builtins that show text

`echo` shows its arguments, and `printf` shows them by a format that is used again as long as it uses up
arguments. Both replace escapes; the escape `\c` ends what is shown.
-/

namespace Buildfile.Shell

/-- What a builtin does with its arguments, and the status that it comes to. -/
abbrev Builtin := List Text → Act Int

/-- Shows its arguments with their escapes replaced; a first argument `-n` leaves out the line end. -/
def echo : Builtin := fun args => do
  let bare := args.head? = some ['-', 'n']
  let (line, on) := Escape.unescape false ([' '].intercalate (if bare then args.drop 1 else args))
  say (line ++ if bare ∨ !on then [] else ['\n'])
  return 0

namespace Printf

/-- What is left of the arguments, and the status so far. -/
structure Progress where
  arguments : List Text
  status : Int := 0
  deriving Inhabited

/-- Complains of an argument. -/
def complain (p : Progress) (message : Text) : Act Progress := do
  warn message
  return { p with status := 1 }

/-- Complains of an argument unless all of it has been converted to a number that is in range. -/
def checked (p : Progress) (argument rest : Text) (converted outside : Bool) : Act Progress :=
  if rest ≠ [] then
    complain p (argument ++ if converted then lit ": not completely converted" else lit ": expected numeric value")
  else if outside then complain p (argument ++ lit ": " ++ lit "Numerical result out of range")
  else return p

/-- The next argument as a number: the one of the character after a quote, or one that `read?` reads, which also tells
whether it is out of range. A missing argument is zero. -/
def number {α : Type} (read? : Text → Option (α × Text × Bool)) (ofNat : Nat → α) (p : Progress) : Act (α × Progress) := do
  match p.arguments with
  | [] => return (ofNat 0, p)
  | a :: arguments =>
    let p := { p with arguments }
    let byte (t : Text) : Nat := (t.head?.map Char.toNat).getD 0
    match a with
    | '"' :: t | '\'' :: t => return (ofNat (byte t), p)
    | _ =>
      match read? a with
      | some (n, rest, outside) => return (n, ← checked p a rest true outside)
      | none => return (ofNat 0, ← checked p a a false false)

/-- The next argument as an integer with a sign. -/
def signed : Progress → Act (Int × Progress) :=
  number (fun t => (Format.integer? t).map fun r => (Format.clampSigned r.1, r.2, Format.clampSigned r.1 ≠ r.1)) Int.ofNat

/-- The next argument as an integer without a sign. -/
def unsigned : Progress → Act (Nat × Progress) :=
  number (fun t => (Format.integer? t).map fun r =>
    (Format.clampUnsigned r.1, r.2, decide (Format.maxUnsigned < r.1.natAbs))) id

/-- The next argument as a number with a floating point. -/
def floating : Progress → Act (Floating × Progress) :=
  number (fun t => (Floating.read? .double t).map fun r =>
    (r.1, r.2, Floating.isOutOfRange .double (t.take (t.length - r.2.length)) r.1)) (fun n => Floating.ofInt .double n)

/-- The next argument as a text. -/
def text (p : Progress) : Text × Progress := (p.arguments.headD [], { p with arguments := p.arguments.drop 1 })

/-- A width or precision at the start of a format, which a star takes from the arguments as a number of 32 bits, and the
rest. -/
def measure (f : Text) (p : Progress) : Act (Option Int × Text × Progress) := do
  match f with
  | '*' :: f =>
    let (n, p) ← signed p
    return (some (BitVec.ofInt 32 n).toInt, f, p)
  | _ =>
    let skipped := f.takeWhile fun c => c.isDigit || c == '*'
    let (n, _) := Format.number? f
    return (n.map Int.ofNat, f.drop skipped.length, p)

/-- Shows an argument as a conversion says; the flag tells whether output goes on. -/
def convert (c : Format.Conversion) (directive : Text) (p : Progress) : Act (Bool × Progress) := do
  match c.letter with
  | 'b' =>
    let (a, p) := text p
    let (t, on) := Escape.unescape false a
    say (Format.text c t)
    return (on, p)
  | 'c' =>
    let (a, p') := text p
    say (Format.padded c [a.headD '\x00'])
    return (true, p')
  | 's' =>
    let (a, p) := text p
    say (Format.text c a)
    return (true, p)
  | letter =>
    if letter = 'd' ∨ letter = 'i' then
      let (n, p) ← signed p
      say (Format.integer c n)
      return (true, p)
    else if letter ∈ (lit "ouxX") then
      let (n, p) ← unsigned p
      say (Format.natural c n)
      return (true, p)
    else if letter ∈ (lit "aAeEfFgG") then
      let (v, p) ← floating p
      say (Format.floating .double c v)
      return (true, p)
    else abort (directive ++ lit ": invalid directive")

/-- Shows what the conversion after a percent sign says; gives whether output goes on, and the rest of the format. -/
def conversion (f : Text) (p : Progress) : Act (Bool × Text × Progress) := do
  let flags := f.takeWhile fun c => c ∈ (lit "#-+ 0")
  let (width, rest, p) ← measure (f.drop flags.length) p
  let dotted := rest.head? = some '.'
  let (precision, rest, p) ← if dotted then measure (rest.drop 1) p else pure (none, rest, p)
  match rest with
  | [] => abort (lit "missing format character")
  | letter :: after =>
    let w := width.getD 0
    let c : Format.Conversion :=
      { flags := if w < 0 then '-' :: flags else flags, width := w.natAbs
        precision := if dotted then (if precision.getD 0 < 0 then none else some (precision.getD 0).toNat) else none
        letter }
    let (on, p) ← convert c ('%' :: f.take (f.length - after.length)) p
    return (on, after, p)

/-- Shows a format of a bounded length once; the flag tells whether output goes on. -/
def once : Nat → Text → Progress → Act (Bool × Progress)
  | 0, _, p | _ + 1, [], p => return (true, p)
  | k + 1, '%' :: '%' :: f, p => do
    say ['%']
    once k f p
  | k + 1, '%' :: f, p => do
    let (on, f, p) ← conversion f p
    if on then once k f p else return (false, p)
  | k + 1, '\\' :: f, p => do
    let (c, f) := (Escape.character? false false f).getD ('\\', f)
    say [c]
    once k f p
  | k + 1, c :: f, p => do
    say [c]
    once k f p

/-- Shows a format again as long as it uses up arguments, at most so often. -/
def again (format : Text) : Nat → Progress → Act Int
  | 0, p => return p.status
  | k + 1, p => do
    let (on, after) ← once (format.length + 1) format p
    if !on ∨ after.arguments = [] ∨ after.arguments.length = p.arguments.length then return after.status
    again format k after

end Printf

/-- Shows its arguments by a format. -/
def printf : Builtin := fun args => do
  let (_, args) ← optionsOf [] args
  match args with
  | [] => abort (lit "usage: printf format [arg ...]")
  | format :: arguments => Printf.again format (arguments.length + 1) { arguments }

end Buildfile.Shell
