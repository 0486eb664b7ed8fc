import WarningCapture.Log.Logger
import WarningCapture.Policy.Basic
import WarningCapture.Registry.Walk
import WarningCapture.Source.Origin
import WarningCapture.Warning.Facility
import WarningCapture.Warning.Record

/-!
What happens in a session, event by event, and what a finished step leaves to be seen: its outcome
and the state of the host after it. Metrics and listings are views of the events.
-/

namespace WarningCapture

inductive Result where
  | nothing
  | truth (b : Bool)
  | value (v : Value)
  | records (records : List Record)
  | faults (faults : List Fault)
  /-- A description, and the id of a test if there is one. -/
  | description (text : String) (testId : Option String)
  | lines (lines : List Nat)
  /-- The origins of each target, what each target claims of each query, and the number of line
  sets remembered. -/
  | origins (targets : List (List Origin)) (claims : List (List Bool)) (remembered : Nat)
  | report (report : ScrubReport)
  /-- The modules in order with their caches, `none` where an entry has no module. -/
  | modules (entries : List (String × Option ShownCache))
  | policy (policy : Policy)
  /-- The ceiling of the logger, and whether each query passes its filter. -/
  | logState (ceiling : Log.Threshold) (enabled : List Bool)
  | text (s : String)
  | testId (id : Option String)

inductive Outcome where
  | silent
  | returned (result : Result)
  | failed (f : Fault)

/-- What shows of a finished step. -/
structure Entry where
  step : String
  outcome : Outcome
  depth : Nat
  hook : Option Hook
  filters : Option (List Filter)
  /-- The buffers by name: how many records are pending, and whether a run is in progress. -/
  buffers : List (String × Nat × Bool)

/-- What became of the records that the end of a test found unclaimed. -/
inductive Fate where
  | replayed
  | discarded
  /-- There was nothing to emit them with. -/
  | lost
  deriving DecidableEq, Repr

/-- A call of the ambient or the custom hook. -/
structure Showing where
  hook : Hook
  message : String
  category : Category
  file : Printable
  line : Value

inductive Event where
  | wrote (line : Log.Line) (outlet : Log.Outlet)
  /-- The code of an exception called a hook as the exception was printed for the log. -/
  | uttered (showing : Showing)
  | reported (err : CaptureError)
  | captured (record : Record)
  | stored (buffer : String) (record : Record)
  | placed (buffer : String) (record : Record)
  | called (listener : String) (observer : Nat) (record : Record)
  | returned (observer : Nat)
  | dropped (observer : Nat) (record : Record)
  | shown (hook : Hook) (message : String) (category : Category) (file : Printable) (line : Value)
  | flushed (buffer : String) (records : List Record)
  /-- The end of a test took what was left in a buffer. -/
  | taken (buffer : String) (records : List Record) (fate : Fate)
  /-- A record taken from a buffer was handed to the function that emits warnings. -/
  | handed (buffer : String) (record : Record)
  /-- So many records were emitted again, with the exceptions this raised. -/
  | replayed (buffer : String) (count : Nat) (raised : List Fault)
  | scrubbed (report : ScrubReport)
  | panicked (label : String)
  | began (buffer : String)
  /-- The run of a buffer that began last, of those in progress, ended. -/
  | ended (buffer : String)
  | finished (entry : Entry)

namespace Event

def metric? : Event → Option String
  | captured _ => some "captured"
  | flushed _ records => some ("flushed " ++ toString records.length)
  | replayed _ count raised =>
      some ("replayed " ++ toString count ++ " " ++ toString raised.length)
  | scrubbed r =>
      some ("scrub " ++ toString r.visited ++ " " ++ toString r.reset ++ " " ++
        toString r.skipped ++ " " ++ toString r.failed ++ " " ++ toString r.passes)
  | panicked label => some ("panic " ++ label)
  | _ => none

end Event
end WarningCapture
