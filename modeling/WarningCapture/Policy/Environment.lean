import WarningCapture.Policy.Basic
import WarningCapture.Text.Case

/-!
Policy updates from environment variables. Variables are read in a fixed order, the first malformed
one refuses the whole update, and a variable that is unset or not text leaves its field alone.
-/

namespace WarningCapture

/-- The environment variables that are set and readable as text, by name. -/
structure Environment where
  get? : String → Option String

namespace Environment

/-- The environment of a process whose variables are strings of bytes. Those that are not valid UTF-8
are no text. -/
def ofBytes (values : String → Option ByteArray) : Environment where
  get? name := (values name).bind String.fromUTF8?

def logLevel := "TRIAL_WARNINGS_LOG_LEVEL"
def logFile := "TRIAL_WARNINGS_LOG_FILE"
def jsonErrors := "TRIAL_WARNINGS_JSON_ERRORS"
def scrubRegistry := "TRIAL_WARNINGS_SCRUB_REGISTRY"
def maxScrubPasses := "TRIAL_WARNINGS_MAX_SCRUB_PASSES"
def replayUnflushed := "TRIAL_WARNINGS_REPLAY_UNFLUSHED"

/-- A truth value in any letter case, blanks around it ignored. -/
def parseBool (name text : String) : Except CaptureError Bool :=
  let word := Text.lower (Text.trim text)
  if ["1", "true", "t", "yes", "y"].contains word then .ok true
  else if ["0", "false", "f", "no", "n"].contains word then .ok false
  else
    .error ((usageError .invalidPolicyValue
      ("invalid boolean value '" ++ word ++ "' (expected true/false)")).withContext
        "variable" name)

def digitsValue (cs : List Char) : Nat :=
  cs.foldl (fun acc c => 10 * acc + (c.toNat - '0'.toNat)) 0

/-- A natural number below `2 ^ 64`: digits with at most one plus sign in front. -/
def parseCount (text : String) : Option Nat :=
  let cs := text.toList
  let digits := if cs.head? = some '+' then cs.drop 1 else cs
  if digits.isEmpty || !digits.all Char.isDigit then none
  else
    let n := digitsValue digits
    if n < UInt64.size then some n else none

/-- A positive number of passes, blanks around it ignored. -/
def parsePasses (text : String) : Except CaptureError Nat :=
  let trimmed := Text.trim text
  match parseCount trimmed with
  | some (n + 1) => .ok (n + 1)
  | _ =>
      .error (usageError .invalidPolicyValue
        ("invalid " ++ maxScrubPasses ++ " value '" ++ trimmed ++
          "' (expected a positive integer)"))

def optional {α : Type} (env : Environment) (name : String)
    (parse : String → Except CaptureError α) : Except CaptureError (Option α) :=
  match env.get? name with
  | none => .ok none
  | some text => (parse text).map some

def policyUpdate (env : Environment) : Except CaptureError Policy.Update := do
  let json ← env.optional jsonErrors (parseBool jsonErrors)
  let scrub ← env.optional scrubRegistry (parseBool scrubRegistry)
  let passes ← env.optional maxScrubPasses parsePasses
  let replay ← env.optional replayUnflushed (parseBool replayUnflushed)
  return {
    logLevel := env.get? logLevel
    logFile := env.get? logFile
    jsonErrors := json
    scrubRegistry := scrub
    maxScrubPasses := passes
    replayUnflushed := replay }

end Environment
end WarningCapture
