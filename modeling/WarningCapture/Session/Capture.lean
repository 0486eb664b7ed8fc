import WarningCapture.Registry.Loaded
import WarningCapture.Session.Observe

/-!
Captures. A capture clears the modules' caches of shown warnings, installs a sink, calls a function,
and takes the sink off again. The exception of the function wins over a failure to take it off, and
a failure to clear the caches is of no consequence.
-/

namespace WarningCapture

/-- A function of the code under test, as a capture calls it. -/
abbrev Callee := Arguments → Session → Attempt Value

namespace Session

/-- Walks a registry with the passes that the policy allows, and reports on it. -/
def scrubWith {σ κ : Type} [DecidableEq κ] (s : Session) (r : Registry σ κ) (x : σ) :
    Except CaptureError ScrubReport × σ × Session :=
  let (walk, x) := r.walk s.policy.maxScrubPasses x
  let s := s.noteAll (walk.notices s.policy.maxScrubPasses)
  match walk.result with
  | .error f =>
      let err := scanFailed f
      (.error err, x, s.note (Log.Component.registry.say .warn err.render err.code))
  | .ok report => (.ok report, x, (s.add (.scrubbed report)).note report.notice)

def scrubModules (s : Session) : Except CaptureError ScrubReport × Session :=
  match s.modules.store with
  | .missing => (.error Modules.unavailable, s)
  | _ =>
      let (outcome, modules, s) := s.scrubWith Modules.registry s.modules
      (outcome, { s with modules })

def scrubResult (s : Session) : Attempt ScrubReport :=
  match s.scrubModules with
  | (.ok report, s) => (.ok report, s)
  | (.error err, s) => s.raise err

def pushSink (s : Session) (o : Observer) : Except CaptureError Nat × Session :=
  let (outcome, sinks, notices) := s.sinks.push o
  (outcome, { s with sinks }.noteAll notices)

def releaseSink (s : Session) (token : Nat) (elsewhere : Bool) :
    Except CaptureError Unit × Session :=
  let (outcome, sinks, notices) := s.sinks.release token elsewhere
  (outcome, { s with sinks }.noteAll notices)

def dropSink (s : Session) (token : Nat) : Session :=
  let (sinks, notices) := s.sinks.drop token
  { s with sinks }.noteAll notices

def newObserver (s : Session) (collector : Collector) : Observer × Session :=
  (⟨s.nextObserver, collector⟩, { s with nextObserver := s.nextObserver + 1 })

def superseded (err : CaptureError) : Log.Notice :=
  Sinks.say .error (err.render ++ " (superseded by the wrapped call's exception)") err.code

/-- Settles how a capture ends, from what the call and the restoration came to. -/
def settle {α : Type} (s : Session) (called : Except Fault α)
    (restored : Except CaptureError Unit) : Attempt α :=
  match called, restored with
  | called, .ok () => (called, s)
  | .ok _, .error err => s.raise err
  | .error f, .error err => (.error f, s.note (superseded err))

def scrubBeforeCapture (s : Session) : Session :=
  if s.policy.scrubRegistry then s.scrubModules.2 else s

/-- Calls a function with its warnings delivered to a collector. -/
def capture (s : Session) (collector : Collector) (f : Callee) (arguments : Arguments) :
    Attempt Value :=
  let (observer, s) := s.scrubBeforeCapture.newObserver collector
  match s.pushSink observer with
  | (.error err, s) => s.raise err
  | (.ok token, s) =>
      let (called, s) := f arguments s
      let (restored, s) := s.releaseSink token false
      s.settle called restored

def collect (scene : Scene) (s : Session) (listener : String) (f : Callee)
    (arguments : Arguments) : Attempt Value :=
  if (scene.listener listener).callable then s.capture (.listener listener) f arguments
  else (.error (.raised "TypeError" "observer must be callable"), s)

/-- Begins a run of a buffer: log lines carry the id of its test from now on. -/
def enterRun (s : Session) (buffer : String) : Session :=
  let b := s.buffer buffer
  { s.setBuffer buffer b.enter with
    logger := { s.logger with testId := b.testId } }.add (.began buffer)

/-- Ends a run of a buffer: log lines carry the id that they carried before. -/
def leaveRun (s : Session) (buffer : String) (previous : Option String) : Session :=
  { s.setBuffer buffer (s.buffer buffer).leave with
    logger := { s.logger with testId := previous } }.add (.ended buffer)

def run (s : Session) (buffer : String) (f : Callee) (arguments : Arguments) : Attempt Value :=
  let (outcome, t) := (s.enterRun buffer).capture (.buffer buffer) f arguments
  (outcome, t.leaveRun buffer s.logger.testId)

end Session
end WarningCapture
