import Buildfile.Text.Numeral
/-!
# Signals

A signal has a number from 1 to 64 and a name. Most signals end a process, and a shell then says which
one it was. Those from 34 on have no meaning of their own: they are named by their distance from the
first or the last of them, whichever is nearer.
-/

namespace Buildfile

/-- A signal. -/
structure Signal where
  number : Nat
  name : Text
  /-- What a shell says of a program that the signal has ended. -/
  words : Text
  /-- Whether the signal ends a process that makes no provision for it. -/
  ends : Bool
  deriving DecidableEq, Repr, Inhabited

namespace Signal

/-- The signals with a meaning. -/
def common : List Signal :=
  [⟨1, lit "HUP", lit "Hangup", true⟩, ⟨2, lit "INT", [], true⟩, ⟨3, lit "QUIT", lit "Quit", true⟩,
   ⟨4, lit "ILL", lit "Illegal instruction", true⟩, ⟨5, lit "TRAP", lit "Trace/breakpoint trap", true⟩,
   ⟨6, lit "ABRT", lit "Aborted", true⟩, ⟨7, lit "BUS", lit "Bus error", true⟩,
   ⟨8, lit "FPE", lit "Floating point exception", true⟩, ⟨9, lit "KILL", lit "Killed", true⟩,
   ⟨10, lit "USR1", lit "User defined signal 1", true⟩, ⟨11, lit "SEGV", lit "Segmentation fault", true⟩,
   ⟨12, lit "USR2", lit "User defined signal 2", true⟩, ⟨13, lit "PIPE", [], true⟩,
   ⟨14, lit "ALRM", lit "Alarm clock", true⟩, ⟨15, lit "TERM", lit "Terminated", true⟩,
   ⟨16, lit "16", lit "Stack fault", true⟩, ⟨17, lit "CHLD", [], false⟩, ⟨18, lit "CONT", [], false⟩,
   ⟨19, lit "STOP", [], false⟩, ⟨20, lit "TSTP", [], false⟩, ⟨21, lit "TTIN", [], false⟩,
   ⟨22, lit "TTOU", [], false⟩, ⟨23, lit "URG", [], false⟩,
   ⟨24, lit "XCPU", lit "CPU time limit exceeded", true⟩,
   ⟨25, lit "XFSZ", lit "File size limit exceeded", true⟩, ⟨26, lit "VTALRM", lit "Virtual timer expired", true⟩,
   ⟨27, lit "PROF", lit "Profiling timer expired", true⟩, ⟨28, lit "WINCH", [], false⟩,
   ⟨29, lit "IO", lit "I/O possible", true⟩, ⟨30, lit "PWR", lit "Power failure", true⟩,
   ⟨31, lit "SYS", lit "Bad system call", true⟩]

/-- The name of the signal that is `n` after the first of those without a meaning. -/
def distanceName (n : Nat) : Text :=
  let distance (base : Text) (sign : Char) (k : Nat) : Text := if k = 0 then base else base ++ sign :: Text.ofNat k
  if n ≤ 15 then distance (lit "RTMIN") '+' n else distance (lit "RTMAX") '-' (30 - n)

/-- The signal with a number. -/
def ofNumber? (n : Nat) : Option Signal :=
  if n < 32 then common.find? (·.number = n)
  else if n < 34 then some ⟨n, Text.ofNat n, lit "Unknown signal " ++ Text.ofNat n, true⟩
  else if n ≤ 64 then some ⟨n, distanceName (n - 34), lit "Real-time signal " ++ Text.ofNat (n - 34), true⟩
  else none

/-- All signals. -/
def all : List Signal := (List.range 65).filterMap ofNumber?

/-- The signal with a name. -/
def ofName? (t : Text) : Option Signal := all.find? (·.name = t)

end Signal

end Buildfile
