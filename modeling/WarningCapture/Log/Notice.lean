import WarningCapture.Host.Fault
import WarningCapture.Log.Directives

/-!
Notices: what a part of the library has to say, before any filter or destination is applied. A
notice may quote an exception of the host, which is printed only if the notice is written.
-/

namespace WarningCapture.Log

/-- The parts of the library that log, each under a target of its own. -/
inductive Component where
  | sinks
  | buffers
  | lineTables
  | targets
  | registry
  | errors
  | logging
  deriving DecidableEq, Repr

def Component.target : Component → String
  | .sinks => "trial_warnings::interceptor"
  | .buffers => "trial_warnings::buffer"
  | .lineTables => "trial_warnings::line_range"
  | .targets => "trial_warnings::offending"
  | .registry => "trial_warnings::registry"
  | .errors => "trial_warnings::errors"
  | .logging => "trial_warnings::logging"

/-- A message for the log, with the error code it is tagged by, and the exception whose text the
message ends with, if this is not printed before the message is written. -/
structure Notice where
  level : Level
  target : String
  message : String
  code : Option ErrorCode := none
  quoted : Option Fault := none
  deriving DecidableEq, Repr

namespace Component

def say (c : Component) (level : Level) (message : String) (code : Option ErrorCode := none) :
    Notice :=
  { level, target := c.target, message, code }

/-- A message that ends with an exception, printed as the message is written. -/
def quote (c : Component) (level : Level) (message : String) (f : Fault)
    (code : Option ErrorCode := none) : Notice :=
  { level, target := c.target, message := message ++ f.render, code, quoted := some f }

end Component

/-- The notice that an error was raised to the caller. -/
def errorNotice (err : CaptureError) : Notice :=
  Component.errors.say .error ("capture_error: " ++ err.render) err.code

end WarningCapture.Log
