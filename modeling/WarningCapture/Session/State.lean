import WarningCapture.Session.Event
import WarningCapture.Session.Step
import WarningCapture.Sink.Stack
import WarningCapture.Warning.Buffer

/-!
The state of a session, and the history of what has happened in it. The scene is what a session
takes place in and does not change: the listeners, the objects of the host, the disk, and what the
code of exceptions shows as they are printed.
-/

namespace WarningCapture

/-- A callable that records may be passed to. In its first calls, up to the limit, it performs steps
of its own; in every call it raises at the end if it is told to. -/
structure Listener where
  callable : Bool := true
  steps : List Step := []
  limit : Nat := 1
  raises : Option Fault := none

structure Scene where
  listeners : Table Listener := []
  objects : HostObjects := {}
  disk : String → Log.Opening := fun _ => .writable
  /-- What the code of an exception shows, by hooks that it calls itself, whenever the exception is
  printed for the log. In errors exceptions are printed whatever is logged, and show nothing. -/
  voice : Fault → List Showing := fun _ => []

namespace Scene

def listener (scene : Scene) (name : String) : Listener :=
  (Table.get? name scene.listeners).getD {}

def totalLimit (scene : Scene) : Nat :=
  scene.listeners.foldl (fun total entry => total + entry.2.limit) 0

end Scene

structure Session where
  policy : Policy := {}
  logger : Log.Logger
  /-- Whether reported errors are described on the error stream. -/
  jsonErrors : Bool := false
  sinks : Sinks := {}
  types : CallableTypes := {}
  modules : Modules := {}
  cwd : String := "/"
  read : List String := []
  buffers : Table Buffer := []
  /-- Observers that were given a name. -/
  observers : Table Observer := []
  nextObserver : Nat := 1
  /-- Observers whose listener is running. -/
  busy : List Nat := []
  /-- Tokens of the sinks that guards hold; a used-up guard holds none. -/
  guards : Table (Option Nat) := []
  calls : Table Nat := []
  /-- What exceptions show when they are printed for the log, as in the scene. -/
  voice : Fault → List Showing := fun _ => []
  /-- What has happened, the latest first. -/
  history : List Event := []

namespace Session

/-- What has happened, the earliest first. -/
def events (s : Session) : List Event := s.history.reverse

def add (s : Session) (e : Event) : Session := { s with history := e :: s.history }

def addAll (s : Session) (es : List Event) : Session := es.foldl add s

/-- What comes of a notice: lines if the logger lets it through. Only then is the exception that it
quotes printed, and shows what it has to. -/
def noticed (s : Session) (n : Log.Notice) : List Event :=
  match s.logger.write n with
  | [] => []
  | lines =>
      (n.quoted.elim [] s.voice).map Event.uttered ++
        lines.map fun (line, outlet) => .wrote line outlet

def note (s : Session) (n : Log.Notice) : Session := s.addAll (s.noticed n)

def noteAll (s : Session) (ns : List Log.Notice) : Session := ns.foldl note s

/-- Reports an error that is to be raised: it is logged, and described if the policy asks for it. -/
def report (s : Session) (err : CaptureError) : Session :=
  let s := (s.add (.reported err)).note (Log.errorNotice err)
  if s.jsonErrors then s.add (.wrote (.trailer (.ofError err s.logger.testId)) .stderr) else s

def buffer (s : Session) (name : String) : Buffer := (Table.get? name s.buffers).getD {}

def setBuffer (s : Session) (name : String) (b : Buffer) : Session :=
  { s with buffers := Table.put name b s.buffers }

def surroundings (s : Session) : Surroundings := ⟨s.modules, s.cwd, s.read⟩

def withFacility (s : Session) (facility : Facility) : Session :=
  { s with sinks := { s.sinks with facility } }

/-- Closes a step: its outcome and the state that shows after it. -/
def close (s : Session) (step : String) (outcome : Outcome) : Session :=
  s.add (.finished {
    step, outcome
    depth := s.sinks.depth
    hook := s.sinks.facility.hook
    filters := s.sinks.facility.filters?
    buffers := s.buffers.map fun (name, b) => (name, b.size, b.isActive) })

end Session

/-- What is returned or raised, and the session after it. -/
abbrev Attempt (α : Type) := Except Fault α × Session

def Session.raise {α : Type} (s : Session) (err : CaptureError) : Attempt α :=
  (.error (.reported err), s.report err)

end WarningCapture
