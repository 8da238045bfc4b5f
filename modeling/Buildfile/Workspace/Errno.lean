import Buildfile.Text.Basic
/-!
# Errors of the system

The reasons for which the system refuses a request, each with its number and its wording.
-/

namespace Buildfile

/-- Why the system refuses a request. -/
inductive Errno where
  | notPermitted
  | noEntry
  | noProcess
  | interrupted
  | inputOutput
  | listTooLong
  | noExec
  | badDescriptor
  | noChild
  | accessDenied
  | busy
  | alreadyExists
  | notDirectory
  | isDirectory
  | invalidArgument
  | textBusy
  | noSpace
  | illegalSeek
  | brokenPipe
  | nameTooLong
  | notEmpty
  | tooManyLevels
  deriving DecidableEq, Inhabited

namespace Errno

/-- The number of an error. -/
def number : Errno → Nat
  | notPermitted => 1
  | noEntry => 2
  | noProcess => 3
  | interrupted => 4
  | inputOutput => 5
  | listTooLong => 7
  | noExec => 8
  | badDescriptor => 9
  | noChild => 10
  | accessDenied => 13
  | busy => 16
  | alreadyExists => 17
  | notDirectory => 20
  | isDirectory => 21
  | invalidArgument => 22
  | textBusy => 26
  | noSpace => 28
  | illegalSeek => 29
  | brokenPipe => 32
  | nameTooLong => 36
  | notEmpty => 39
  | tooManyLevels => 40

/-- The wording of an error. -/
def message : Errno → Text
  | notPermitted => lit "Operation not permitted"
  | noEntry => lit "No such file or directory"
  | noProcess => lit "No such process"
  | interrupted => lit "Interrupted system call"
  | inputOutput => lit "Input/output error"
  | listTooLong => lit "Argument list too long"
  | noExec => lit "Exec format error"
  | badDescriptor => lit "Bad file descriptor"
  | noChild => lit "No child processes"
  | accessDenied => lit "Permission denied"
  | busy => lit "Device or resource busy"
  | alreadyExists => lit "File exists"
  | notDirectory => lit "Not a directory"
  | isDirectory => lit "Is a directory"
  | invalidArgument => lit "Invalid argument"
  | textBusy => lit "Text file busy"
  | noSpace => lit "No space left on device"
  | illegalSeek => lit "Illegal seek"
  | brokenPipe => lit "Broken pipe"
  | nameTooLong => lit "File name too long"
  | notEmpty => lit "Directory not empty"
  | tooManyLevels => lit "Too many levels of symbolic links"

end Errno

end Buildfile
