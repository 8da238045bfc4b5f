import Buildfile.Text.Basic
/-!
# Permissions

The permissions of a file are twelve bits: who may read, write and execute it, and three more. A change of
them is written as an octal number, or as clauses that say whose bits are set, added or taken away.
-/

namespace Buildfile.Permission

/-- All bits of permissions. -/
def all : Nat := 0o7777

/-- The bits of a letter for the owner, the group and all others. -/
def bitsOf : Char → Nat
  | 'r' => 0o444
  | 'w' => 0o222
  | 'x' => 0o111
  | 's' => 0o6000
  | 't' => 0o1000
  | _ => 0

/-- The bits of those whom a letter names. -/
def whoseBits : Char → Nat
  | 'u' => 0o4700
  | 'g' => 0o2070
  | 'o' => 0o1007
  | 'a' => 0o7777
  | _ => 0

/-- The bits of `a` that are not in `b`. -/
def without (a b : Nat) : Nat := a &&& (all ^^^ (b &&& all))

/-- What a clause takes its bits from. -/
inductive Source where
  | bits (n : Nat)
  /-- The bits that somebody has already. -/
  | copied (n : Nat)
  /-- Some bits, and those of execution for directories and for what can be executed. -/
  | searched (n : Nat)
  deriving DecidableEq, Inhabited

/-- A clause of a change. -/
structure Clause where
  operator : Char
  /-- The bits that are affected; none if it is not said whose bits. -/
  affected : Nat
  source : Source
  /-- The bits that are named, which a directory loses no others of. -/
  mentioned : Nat
  deriving DecidableEq, Inhabited

/-- A change of permissions. -/
abbrev Change := List Clause

/-- The value of octal digits. -/
def octal? (t : Text) : Option Nat :=
  if t ≠ [] ∧ t.all fun c => '0' ≤ c && c ≤ '7' then some (t.foldl (fun n c => 8 * n + (c.toNat - '0'.toNat)) 0) else none

/-- The change that an octal number with so many digits stands for. -/
def ofOctal (digits n : Nat) : Change :=
  [{ operator := '=', affected := all, source := .bits n,
     mentioned := if digits < 5 then (n &&& 0o6000) ||| 0o1777 else all }]

/-- The bits that an operator works with, and the text after them. -/
def source? (t : Text) : Option (Source × Text) :=
  match t with
  | [] => some (.bits 0, [])
  | c :: rest =>
    if c ∈ ['u', 'g', 'o'] then some (.copied (whoseBits c &&& 0o777), rest)
    else if '0' ≤ c ∧ c ≤ '7' then
      let ds := t.takeWhile fun c => '0' ≤ c && c ≤ '7'
      (octal? ds).filter (· ≤ all) |>.map fun n => (.bits n, t.drop ds.length)
    else
      let ls := t.takeWhile fun c => c ∈ ['r', 'w', 'x', 'X', 's', 't']
      let n := ls.foldl (fun n c => n ||| bitsOf c) 0
      some (if 'X' ∈ ls then .searched n else .bits n, t.drop ls.length)

/-- The clauses after those whose bits they change, at most so many. -/
def operations? (affected : Nat) : Nat → Text → Option (Change × Text)
  | 0, _ => none
  | k + 1, t =>
    match t with
    | op :: rest =>
      if op ∈ ['=', '+', '-'] then
        let numeric := rest.head?.any fun c => '0' ≤ c && c ≤ '7'
        (source? rest).bind fun (source, rest) =>
          let mentioned := match source with
            | .bits n => if affected = 0 then n else affected &&& n
            | .copied _ => 0
            | .searched n => if affected = 0 then n else affected &&& n
          let clause : Clause :=
            if numeric then { operator := op, affected := all, source, mentioned := all }
            else { operator := op, affected, source, mentioned }
          if numeric ∧ affected ≠ 0 then none
          else if rest.head?.any fun c => c ∈ ['=', '+', '-'] then
            (operations? affected k rest).map fun r => (clause :: r.1, r.2)
          else some ([clause], rest)
      else none
    | [] => none

/-- The clauses between commas, at most so many. -/
def clauses? : Nat → Text → Option Change
  | 0, _ => none
  | k + 1, t =>
    let who := t.takeWhile fun c => c ∈ ['u', 'g', 'o', 'a']
    match operations? (who.foldl (fun n c => n ||| whoseBits c) 0) (t.length + 1) (t.drop who.length) with
    | some (cs, []) => some cs
    | some (cs, ',' :: rest) => (clauses? k rest).map (cs ++ ·)
    | _ => none

/-- The change that a text stands for. -/
def Change.ofText? (t : Text) : Option Change :=
  match octal? t with
  | some n => if n ≤ all then some (ofOctal t.length n) else none
  | none => clauses? (t.length + 1) t

/-- The bits of one class of users for all classes. -/
def spread (n : Nat) : Nat :=
  let some? (letter : Char) : Nat := if n &&& bitsOf letter ≠ 0 then bitsOf letter else 0
  (n &&& 0o777) ||| some? 'r' ||| some? 'w' ||| some? 'x'

/-- The permissions after a clause; those in `mask` are left alone unless it is said whose bits change. -/
def Clause.apply (directory : Bool) (mask : Nat) (mode : Nat) (c : Clause) : Nat :=
  let kept := without (if directory then 0o6000 else 0) c.mentioned
  let value := match c.source with
    | .bits n => n
    | .copied n => spread (mode &&& n)
    | .searched n => if directory ∨ mode &&& 0o111 ≠ 0 then n ||| 0o111 else n
  let value := without (value &&& (if c.affected = 0 then without all mask else c.affected)) kept
  if c.operator = '+' then mode ||| value
  else if c.operator = '-' then without mode value
  else (mode &&& ((if c.affected = 0 then 0 else without all c.affected) ||| kept)) ||| value

/-- The permissions after a change. -/
def Change.apply (directory : Bool) (mask : Nat) (mode : Nat) (c : Change) : Nat :=
  c.foldl (Clause.apply directory mask) mode

/-- The permissions of three kinds of users, as letters and dashes. -/
def letters (mode : Nat) : Text :=
  let one (bit : Nat) (c : Char) : Char := if mode &&& bit ≠ 0 then c else '-'
  let last (bit special : Nat) (small large : Char) : Char :=
    if mode &&& special ≠ 0 then (if mode &&& bit ≠ 0 then small else large) else one bit 'x'
  [one 0o400 'r', one 0o200 'w', last 0o100 0o4000 's' 'S', one 0o040 'r', one 0o020 'w', last 0o010 0o2000 's' 'S',
   one 0o004 'r', one 0o002 'w', last 0o001 0o1000 't' 'T']

/-- Permissions as an octal number of at least four digits. -/
def digits (mode : Nat) : Text :=
  let ds := Nat.toDigits 8 mode
  List.replicate (4 - ds.length) '0' ++ ds

end Buildfile.Permission
