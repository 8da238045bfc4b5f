import Buildfile.Text.Blank
/-!
# Arguments

A command line is cut into a program and its arguments in one of two ways. Either blanks alone
separate, and quotes are ordinary characters; or quotes and backslashes work as in a shell, and
only the space, the tab and the two line breaks separate.
-/

namespace Buildfile

/-- How a command line is cut into arguments. -/
inductive Quoting where
  /-- Blanks separate, and no character is special. -/
  | plain
  /-- Quotes and backslashes keep separators and each other inside an argument. -/
  | shell
  deriving DecidableEq, Repr, Inhabited

/-- Why a command line cannot be cut. -/
inductive QuotingFault where
  | unclosedQuote
  | danglingEscape
  deriving DecidableEq, Repr, Inhabited

/-- The wording of a fault. -/
def QuotingFault.message : QuotingFault → Text
  | unclosedQuote => lit "No closing quotation"
  | danglingEscape => lit "No escaped character"

namespace Arguments

/-- A character that separates arguments where quotes work. -/
def isSeparator (c : Char) : Bool := c == ' ' || c == '\t' || c == '\r' || c == '\n'

/-- A character that opens and closes a quoted part. -/
def isQuote (c : Char) : Bool := c == '\'' || c == '"'

/-- Where a scan of a command line stands; `word` is the argument so far, its last character first. -/
inductive Scan where
  | between
  | inWord (word : Text)
  | inQuote (quote : Char) (word : Text)
  /-- After a backslash, inside a quoted part if `quote` is given. -/
  | escaped (quote : Option Char) (word : Text)
  deriving DecidableEq, Repr, Inhabited

/-- What a character that is not a separator does outside a quoted part. -/
def Scan.start (word : Text) (c : Char) : Scan :=
  if isQuote c then .inQuote c word else if c = '\\' then .escaped none word else .inWord (c :: word)

/-- The arguments in the rest of a command line. -/
def scan : Scan → Text → Except QuotingFault (List Text)
  | .between, [] => .ok []
  | .inWord w, [] => .ok [w.reverse]
  | .inQuote _ _, [] => .error .unclosedQuote
  | .escaped _ _, [] => .error .danglingEscape
  | .between, c :: t => if isSeparator c then scan .between t else scan (.start [] c) t
  | .inWord w, c :: t =>
    if isSeparator c then (w.reverse :: ·) <$> scan .between t else scan (.start w c) t
  | .inQuote q w, c :: t =>
    if c = q then scan (.inWord w) t
    else if c = '\\' ∧ q = '"' then scan (.escaped (some q) w) t
    else scan (.inQuote q (c :: w)) t
  | .escaped none w, c :: t => scan (.inWord (c :: w)) t
  | .escaped (some q) w, c :: t =>
    scan (.inQuote q (if c = q ∨ c = '\\' then c :: w else c :: '\\' :: w)) t

end Arguments

/-- The arguments of a command line. -/
def Quoting.split : Quoting → Text → Except QuotingFault (List Text)
  | plain, t => .ok t.words
  | shell, t => Arguments.scan .between t

end Buildfile
