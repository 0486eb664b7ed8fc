import WarningCapture.Session.Perform

/-!
Traces. A trace cuts the events of a session into stretches, one for each finished step, and shows
of every stretch what was shown, heard, counted and logged in it.
-/

namespace WarningCapture

/-- One finished step, with the events since the step that finished before it. -/
structure Stretch where
  entry : Entry
  events : List Event

namespace Stretch

/-- Cuts events at the finished steps; what follows the last of them is left out. -/
def split : List Event → List Event → List Stretch
  | _, [] => []
  | seen, .finished entry :: rest => ⟨entry, seen.reverse⟩ :: split [] rest
  | seen, e :: rest => split (e :: seen) rest

def ofEvents (events : List Event) : List Stretch := split [] events

end Stretch

namespace Event

/-- What a hook shows that a warning is passed to. -/
def displayed? : Event → Option Showing
  | shown hook message category file line => some ⟨hook, message, category, file, line⟩
  | _ => none

/-- What a hook shows, whoever calls it. -/
def showing? : Event → Option Showing
  | uttered showing => some showing
  | e => e.displayed?

def hearing? : Event → Option (String × Record)
  | called listener _ record => some (listener, record)
  | _ => none

def line? : Event → Option (Log.Line × Log.Outlet)
  | wrote line outlet => some (line, outlet)
  | _ => none

/-- The lines among events: those in files first, by the names of the files, then the others, each
in the order of writing. -/
def lines (events : List Event) : List (Log.Line × Log.Outlet) :=
  (events.filterMap line?).mergeSort fun a b =>
    match a.2, b.2 with
    | .file p, .file q => !decide (q < p)
    | .stderr, .file _ => false
    | _, .stderr => true

def metrics (events : List Event) : List String := events.filterMap metric?

end Event

namespace Session

def defaultFilter : String := "trial_warnings=warn"

/-- A session before a policy is put in force. -/
def fresh (scene : Scene) (filters : List Filter) (modules : Modules) (buffers : Table Buffer)
    (cwd : String) : Session where
  logger := Log.Logger.install defaultFilter none
  sinks := { facility := { filterList := filters } }
  modules := modules
  buffers := buffers
  cwd := cwd
  voice := scene.voice

/-- A session at its start: the policy is put in force, and what that logs is not part of it. -/
def start (scene : Scene) (policy : Policy.Update) (filters : List Filter) (modules : Modules)
    (buffers : Table Buffer) (cwd : String) : Session :=
  { ((fresh scene filters modules buffers cwd).configure scene.disk policy).2 with history := [] }

end Session

/-- The trace of a session: its finished steps in order. -/
def Scene.trace (scene : Scene) (steps : List Step) (s : Session) : List Stretch :=
  Stretch.ofEvents (scene.play steps s).events

end WarningCapture
