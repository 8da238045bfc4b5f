import Buildfile.Description.Reader
import Buildfile.Host
import Buildfile.Workspace.Path
/-!
# Descriptions in files

A description file holds text in UTF-8 whose carriage returns count as line breaks. Errors call the
file by the shown form of its path, and so does the host that is asked for its bytes.
-/

namespace Buildfile.Description

/-- The description in the bytes of the file that is shown as `path`. -/
def ofBytes (path : Text) (content : Bytes) : Except BuildError Description :=
  match Utf8.decode content with
  | .error f => .error (.unreadable path f.message)
  | .ok text => parse path text.unifyReturns

/-- The description in the file at `path`, whose bytes `read` gives. -/
def load (read : Text → Except Refusal Bytes) (path : Text) : Except Failure Description :=
  let shown := Path.normalise path
  match read shown with
  | .error (.system reason) => .error (.error (.unreadable shown reason))
  | .error (.invalid c) => .error (.crash c)
  | .ok content => (ofBytes shown content).mapError .error

end Buildfile.Description
