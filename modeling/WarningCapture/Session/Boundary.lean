import WarningCapture.Session.State

/-!
The boundary between the library and its callers. Errors that cross it are reported and raised,
exceptions of the host pass as they are, and a panic becomes an internal error.
-/

namespace WarningCapture

def panicError (label : String) (text : Option String) : CaptureError where
  kind := .internal
  code := .unknown
  message := "panic in " ++ label ++ ": " ++ text.getD "<non-string panic payload>"

/-- Runs an operation inside a boundary of a given label. -/
def Session.contain (s : Session) (label : String) : Operation → Attempt String
  | .returns text => (.ok text, s)
  | .fails err => s.raise err
  | .raises f => (.error f, s)
  | .panics text => (s.add (.panicked label)).raise (panicError label text)

end WarningCapture
