import WarningCapture.Error.Basic
import WarningCapture.Host.Printing

/-!
Exceptions as the host sees them: one of its own classes with a text, or a capture error that has
been reported and raised.
-/

namespace WarningCapture

inductive Fault where
  /-- An exception of one of the host's classes. -/
  | raised (className text : String)
  /-- A capture error, raised after it was reported. -/
  | reported (err : CaptureError)
  deriving DecidableEq, Repr

namespace Fault

def className : Fault → String
  | raised cls _ => cls
  | reported err => err.errorClass.name

def text : Fault → String
  | raised _ text => text
  | reported err => err.exceptionText

def render (f : Fault) : String := f.className ++ ": " ++ f.text

def missingAttribute (moduleName name : String) : Fault :=
  raised "AttributeError" ("module '" ++ moduleName ++ "' has no attribute '" ++ name ++ "'")

def notIterable (typeName : String) : Fault :=
  raised "TypeError" ("'" ++ typeName ++ "' object is not iterable")

def notCallable (typeName : String) : Fault :=
  raised "TypeError" ("'" ++ typeName ++ "' object is not callable")

end Fault

/-- An object that a warning passes where a text belongs: a plain value, or an object of its own
that prints a text or fails to. -/
inductive Printable where
  | value (v : Value)
  | prints (s : String)
  | refuses (f : Fault)
  deriving Repr

def Printable.text : Printable → Except Fault String
  | .value v => .ok v.printed
  | .prints s => .ok s
  | .refuses f => .error f

/-- The value read as a 64-bit integer. -/
def Value.toWord (v : Value) : Except Fault Int :=
  match v.asInt? with
  | some n =>
      if fitsWord n then .ok n
      else .error (.raised "OverflowError" "Python int too large to convert to C long")
  | none =>
      .error (.raised "TypeError"
        ("'" ++ v.typeName ++ "' object cannot be interpreted as an integer"))

end WarningCapture
