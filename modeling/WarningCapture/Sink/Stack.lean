import WarningCapture.Log.Notice
import WarningCapture.Warning.Facility

/-!
The stack of installed sinks. A frame remembers the hook and the filters that its sink replaced, and
taking the frame off puts exactly these back. A sink taken off out of order takes those above it
with it, and taking off a sink that is gone already does nothing.
-/

namespace WarningCapture

structure Frame where
  token : Nat
  hook : Hook
  filters : List Filter
  deriving DecidableEq, Repr

/-- The facility with the sinks installed in it, the outermost first. -/
structure Sinks where
  facility : Facility := {}
  frames : List Frame := []
  nextToken : Nat := 1
  deriving DecidableEq, Repr

namespace Frame

def restoreFailed (frame : Frame) (f : Fault) : CaptureError :=
  ((environmentError .sinkRestoreFailed "cannot restore warning sink").withContext
    "token" (toString frame.token)).withContext "error" f.render

/-- Puts the saved filters and the saved hook back. The hook is put back even if the filters cannot
be, and the failure of the filters is the one that counts. -/
def restore (frame : Frame) (facility : Facility) : Except CaptureError Unit × Facility :=
  match facility.assignFilters frame.filters with
  | (.ok (), facility) =>
      let (outcome, facility) := facility.noteMutation.setHook frame.hook
      (outcome.mapError frame.restoreFailed, facility)
  | (.error fault, facility) =>
      (.error (frame.restoreFailed fault), (facility.setHook frame.hook).2)

end Frame

namespace Sinks

def depth (s : Sinks) : Nat := s.frames.length

def installFailed (f : Fault) : CaptureError :=
  (environmentError .sinkInstallFailed "cannot install warning sink").withContext "error" f.render

/-- The hook and a copy of the filters, which a sink is about to replace. -/
def saved (facility : Facility) : Except Fault (Hook × List Filter) := do
  let hook ← facility.getHook
  let filters ← facility.copyFilters
  return (hook, filters)

/-- Shows every warning, and shows it through the observer. -/
def redirect (observer : Observer) (facility : Facility) : Except Fault Unit × Facility :=
  match facility.showAll with
  | (.ok (), facility) => facility.setHook (.observer observer)
  | (.error fault, facility) => (.error fault, facility)

def say (level : Log.Level) (message : String) (code : Option ErrorCode := none) : Log.Notice :=
  Log.Component.sinks.say level message code

/-- Installs a sink that delivers to an observer. A failure part way puts back what was changed. -/
def push (s : Sinks) (observer : Observer) :
    Except CaptureError Nat × Sinks × List Log.Notice :=
  match saved s.facility with
  | .error fault => (.error (installFailed fault), s, [])
  | .ok (hook, filters) =>
      let frame : Frame := ⟨s.nextToken, hook, filters⟩
      match redirect observer s.facility with
      | (.ok (), facility) =>
          (.ok frame.token,
            { facility, frames := s.frames ++ [frame], nextToken := s.nextToken + 1 },
            [say .debug ("installed warning sink " ++ toString frame.token)])
      | (.error fault, facility) =>
          match frame.restore facility with
          | (.ok (), facility) =>
              (.error (installFailed fault),
                { s with facility, nextToken := s.nextToken + 1 }, [])
          | (.error err, facility) =>
              (.error (installFailed fault),
                { s with facility, nextToken := s.nextToken + 1 },
                [say .warn ("failed to roll back partial sink install: " ++ err.render)])

def find? (s : Sinks) (token : Nat) : Option Frame := s.frames.find? (·.token == token)

def below (s : Sinks) (token : Nat) : List Frame := s.frames.takeWhile (·.token != token)

/-- The complaints about taking a sink off that has others above it, or on another thread than it
was installed on. -/
def releaseNotices (token inner : Nat) (elsewhere : Bool) : List Log.Notice :=
  (if inner = 0 then []
    else [say .warn
      ("warning sink " ++ toString token ++ " released out of order; discarding " ++
        toString inner ++ " inner frames")
      (some .sinkStackCorrupted)]) ++
  (if elsewhere then
    [say .warn
      ("warning sink " ++ toString token ++ " released from a different thread than installed it")
      (some .sinkStackCorrupted)]
    else [])

/-- Takes a sink off, with those above it, and puts back what it replaced. -/
def release (s : Sinks) (token : Nat) (elsewhere : Bool) :
    Except CaptureError Unit × Sinks × List Log.Notice :=
  match s.find? token with
  | none =>
      (.ok (), s,
        [say .warn
          ("warning sink " ++ toString token ++ " was already unwound by an outer capture")
          (some .sinkStackCorrupted)])
  | some frame =>
      let kept := s.below token
      let complaints := releaseNotices token (s.frames.length - kept.length - 1) elsewhere
      match frame.restore s.facility with
      | (.ok (), facility) =>
          (.ok (), { s with facility, frames := kept },
            complaints ++ [say .debug ("restored warning sink " ++ toString token)])
      | (.error err, facility) =>
          (.error err, { s with facility, frames := kept }, complaints)

/-- Takes a sink off when its guard goes out of use: a failure is only logged. -/
def drop (s : Sinks) (token : Nat) : Sinks × List Log.Notice :=
  match s.release token false with
  | (.ok (), s, notices) => (s, notices)
  | (.error err, s, notices) =>
      (s, notices ++
        [say .error
          ("failed to restore warning sink " ++ toString token ++ " during unwind: " ++ err.render)
          err.code])

end Sinks
end WarningCapture
