import WarningCapture.Policy.Environment
import WarningCapture.Source.Origin
import WarningCapture.Warning.Facility
import WarningCapture.Warning.Record

/-!
The steps of a session: captures with the steps that run inside them, warnings, and everything else
that code under test, its runner and its environment may do in between.
-/

namespace WarningCapture

structure Arguments where
  positional : List Value := []
  named : List (String × Value) := []

/-- How a captured function ends once its steps are done. -/
inductive Ending where
  | returns (v : Value)
  /-- It returns the arguments it was called with. -/
  | echoes
  | raises (f : Fault)
  /-- What is called is no function but a value of the type. -/
  | notCallable (typeName : String)

/-- The targets of a flush: none, the names in a sequence, or the failure of reading it. -/
abbrev TargetList := Option (Except Fault (List String))

inductive Operation where
  | returns (text : String)
  | fails (err : CaptureError)
  | raises (f : Fault)
  /-- The operation panics, with a text if it gives one. -/
  | panics (text : Option String)

inductive HostDamage where
  | facility (d : Damage)
  | functionType
  | methodType

inductive Step where
  | run (buffer : String) (arguments : Arguments) (body : List Step) (ending : Ending)
  | collect (listener : String) (arguments : Arguments) (body : List Step) (ending : Ending)
  | warn (message : String) (category : Category) (file : String) (line : Int)
  | showWith (message : Printable) (category : Category) (file : Printable) (line : Value)
  | callObserver (observer : String) (message : Printable) (category : Category)
      (file : Printable) (line : Value)
  /-- Names a new observer over a listener. -/
  | observe (name listener : String)
  /-- Names a new observer over a buffer. -/
  | observeInto (name buffer : String)
  | push (guard observer : String)
  | release (guard : String) (elsewhere : Bool)
  | drop (guard : String)
  | flush (buffer : String) (targets : TargetList)
  | finish (buffer : String)
  | pending (buffer : String)
  | describe (buffer : String)
  | pushRecord (buffer : String) (record : Record)
  | functionLines (target : String)
  | validate (targets : List String)
  | origins (targets : List String) (queries : List (String × Nat))
  | scrub
  | modules
  | setModule (name : String) (module : Option Module)
  | deleteModule (name : String)
  | giveCache (name : String)
  | changeDirectory (cwd : String)
  | replaceHook
  | setFilters (filters : List Filter)
  | configure (update : Policy.Update)
  | configureFrom (env : Environment)
  | policy
  | log (notice : Log.Notice)
  | logState (queries : List (Log.Level × String))
  | setTestId (testId : Option String)
  | fail (err : CaptureError)
  | boundary (label : String) (operation : Operation)
  | damage (d : HostDamage)
  | heal

def Step.name : Step → String
  | run .. => "run"
  | collect .. => "collect"
  | warn .. => "warn"
  | showWith .. => "show"
  | callObserver .. => "call_observer"
  | observe .. => "observer"
  | observeInto .. => "buffer_observer"
  | push .. => "push"
  | release .. => "release"
  | drop .. => "drop"
  | flush .. => "flush"
  | finish .. => "finish"
  | pending .. => "pending"
  | describe .. => "repr"
  | pushRecord .. => "push_record"
  | functionLines .. => "function_lines"
  | validate .. => "validate"
  | origins .. => "origins"
  | scrub => "scrub"
  | modules => "modules"
  | setModule .. => "set_module"
  | deleteModule .. => "del_module"
  | giveCache .. => "set_registry"
  | changeDirectory .. => "chdir"
  | replaceHook => "set_show"
  | setFilters .. => "set_filters"
  | configure .. => "configure"
  | configureFrom .. => "env"
  | policy => "policy"
  | log .. => "log"
  | logState .. => "log_state"
  | setTestId .. => "test_id"
  | fail .. => "error"
  | boundary .. => "boundary"
  | damage .. => "break"
  | heal => "heal"

end WarningCapture
