import WarningCapture.Error.Code
import WarningCapture.Table

/-!
Structured errors: a kind, a code, a message, context pairs in the order they were attached, and
possibly the text of an underlying cause. The renderings differ in what they do with a repeated
context key: texts show every pair, a map keeps the last value, a lookup finds the first.
-/

namespace WarningCapture

structure CaptureError where
  kind : ErrorKind
  code : ErrorCode
  message : String
  context : List (String × String) := []
  source : Option String := none
  deriving DecidableEq, Repr

inductive ErrorClass where
  | usage
  | invalidFilterTarget
  | environment
  | target
  | internal
  deriving DecidableEq, Repr

namespace ErrorClass

def name : ErrorClass → String
  | usage => "PyUsageError"
  | invalidFilterTarget => "PyInvalidFilterTarget"
  | environment => "PyEnvironmentError"
  | target => "PyTargetError"
  | internal => "PyInternalError"

/-- The class with its ancestors, up to the class of all capture errors. -/
def lineage : ErrorClass → List String
  | invalidFilterTarget => [invalidFilterTarget.name, usage.name, "PyCaptureError"]
  | cls => [cls.name, "PyCaptureError"]

end ErrorClass

namespace CaptureError

/-- Attaches a further pair; a repeated key is kept as a pair of its own. -/
def withContext (err : CaptureError) (key value : String) : CaptureError :=
  { err with context := err.context ++ [(key, value)] }

def contextValue (err : CaptureError) (key : String) : Option String :=
  (err.context.find? fun pair => pair.1 == key).map (·.2)

/-- The context as a map: keys in the order of their first occurrence, each with its last value. -/
def contextMap (err : CaptureError) : Table String := Table.putAll err.context []

def contextText : List (String × String) → String
  | [] => ""
  | pairs => " (" ++ String.intercalate ", " (pairs.map fun pair => pair.1 ++ "=" ++ pair.2) ++ ")"

/-- Code in brackets, message, and every context pair in order. -/
def render (err : CaptureError) : String :=
  "[" ++ err.code.name ++ "] " ++ err.message ++ contextText err.context

def exceptionText (err : CaptureError) : String :=
  match err.source with
  | none => err.render
  | some cause => err.render ++ ": caused by " ++ cause

/-- An invalid filter target has a class of its own, whatever the kind. -/
def errorClass (err : CaptureError) : ErrorClass :=
  if err.code = .invalidFilterTarget then .invalidFilterTarget
  else match err.kind with
    | .usage => .usage
    | .environment => .environment
    | .target => .target
    | .internal => .internal

end CaptureError

/-- An error the caller is to blame for. -/
def usageError (code : ErrorCode) (message : String) : CaptureError :=
  { kind := .usage, code, message }

/-- An error the host is to blame for. -/
def environmentError (code : ErrorCode) (message : String) : CaptureError :=
  { kind := .environment, code, message }

namespace Except
variable {ε α β : Type} {x : Except ε α} {f : α → Except ε β} {b : β} {e : ε}

theorem bind_eq_ok : x >>= f = .ok b ↔ ∃ a, x = .ok a ∧ f a = .ok b := by
  cases x <;> simp [bind, Except.bind]

theorem bind_eq_error : x >>= f = .error e ↔ x = .error e ∨ ∃ a, x = .ok a ∧ f a = .error e := by
  cases x <;> simp [bind, Except.bind]

end Except
end WarningCapture
