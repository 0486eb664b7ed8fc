import WarningCapture.Error.Basic

/-!
The capture policy and its partial updates. An update leaves alone what it does not name; blank
texts clear their field, and a scrub always keeps at least one pass.
-/

namespace WarningCapture

structure Policy where
  logLevel : Option String := none
  logFile : Option String := none
  /-- Describe every raised error on the error stream as well. -/
  jsonErrors : Bool := false
  /-- Reset the modules' warning caches before each capture. -/
  scrubRegistry : Bool := true
  maxScrubPasses : Nat := 8
  /-- Emit unclaimed records again at the end of a test instead of discarding them. -/
  replayUnflushed : Bool := true
  deriving DecidableEq, Repr

namespace Policy

/-- A partial update: a missing field stays as it is. -/
structure Update where
  logLevel : Option String := none
  logFile : Option String := none
  jsonErrors : Option Bool := none
  scrubRegistry : Option Bool := none
  maxScrubPasses : Option Nat := none
  replayUnflushed : Option Bool := none
  deriving DecidableEq, Repr

/-- A configured level: trimmed, and none if nothing is left. -/
def levelOf (text : String) : Option String :=
  let trimmed := Text.trim text
  if trimmed.isEmpty then none else some trimmed

/-- A configured path: as it stands, and none if it is blank. -/
def fileOf (text : String) : Option String :=
  if Text.allBlank text then none else some text

def apply (p : Policy) (u : Update) : Policy where
  logLevel := u.logLevel.elim p.logLevel levelOf
  logFile := u.logFile.elim p.logFile fileOf
  jsonErrors := u.jsonErrors.getD p.jsonErrors
  scrubRegistry := u.scrubRegistry.getD p.scrubRegistry
  maxScrubPasses := u.maxScrubPasses.elim p.maxScrubPasses (max 1)
  replayUnflushed := u.replayUnflushed.getD p.replayUnflushed

/-- The refusal of an update that allows a scrub no pass at all. -/
def noPasses : CaptureError :=
  usageError .invalidPolicyValue "max_scrub_passes must be at least 1"

def configure (p : Policy) (u : Update) : Except CaptureError Policy :=
  if u.maxScrubPasses = some 0 then .error noPasses else .ok (p.apply u)

end Policy
end WarningCapture
