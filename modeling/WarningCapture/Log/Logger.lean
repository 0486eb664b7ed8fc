import WarningCapture.Log.Notice
import WarningCapture.Log.Trailer

/-!
The logger: the filter in force, the id of the running test, and where lines go. A notice that the
ceiling lets through and the filter admits becomes one line; a file that cannot be written passes
the line on to the standard error stream, followed by a complaint.
-/

namespace WarningCapture.Log

/-- What becomes of an attempt to open a path for appending. -/
inductive Opening where
  | writable
  /-- The path opens, and every write fails with the reason. -/
  | full (reason : String)
  | refused (reason : String)
  deriving DecidableEq, Repr

inductive Destination where
  | stderr
  | file (path : String)
  /-- A file that opened and cannot be written. -/
  | fullFile (path reason : String)
  deriving DecidableEq, Repr

inductive Outlet where
  | stderr
  | file (path : String)
  deriving DecidableEq, Repr

inductive Line where
  | notice (notice : Notice) (testId : Option String)
  | trailer (trailer : Trailer)
  | writeFailure (reason : String)
  deriving DecidableEq, Repr

structure Logger where
  /-- The filter that holds while no level is configured. -/
  defaults : Directives
  current : Directives
  /-- Levels above this one are turned away before the filter is asked. -/
  ceiling : Threshold
  testId : Option String := none
  destination : Destination := .stderr
  deriving DecidableEq, Repr

namespace Logger

/-- The filter of a specification, or warnings and errors of every target if it is malformed. -/
def defaultDirectives (spec : String) : Directives :=
  (Directives.parse spec (.upTo .warn)).getD { fallback := .upTo .warn }

/-- The logger of a fresh process. The filter of the environment wins if it is set and well
formed; a bare threshold missing from it is that of the default filter. -/
def install (defaultSpec : String) (environment : Option String) : Logger :=
  let defaults := defaultDirectives defaultSpec
  let fromEnvironment := environment.bind fun spec => Directives.parse spec defaults.fallback
  let current := fromEnvironment.getD defaults
  { defaults, current, ceiling := current.loudest }

def enabled (l : Logger) (level : Level) (target : String) : Bool := l.current.allows target level

def write (l : Logger) (n : Notice) : List (Line × Outlet) :=
  if l.ceiling.admits n.level && l.enabled n.level n.target then
    let line := Line.notice n l.testId
    match l.destination with
    | .stderr => [(line, .stderr)]
    | .file path => [(line, .file path)]
    | .fullFile _ reason => [(line, .stderr), (.writeFailure reason, .stderr)]
  else []

/-- The filter that a configured level asks for, and whether it is one. -/
def directivesFor (l : Logger) : Option String → Option Directives
  | none => some l.defaults
  | some level =>
      let spec := Text.trim level
      if spec.isEmpty then some l.defaults else Directives.parse spec l.defaults.fallback

/-- Puts the configured level in force, or the default filter if it is malformed; the ceiling
follows the filter. -/
def setLevel (l : Logger) (level : Option String) : Logger :=
  let current := (l.directivesFor level).getD l.defaults
  { l with current, ceiling := current.loudest }

/-- The complaint about a malformed level, given before the filter changes. -/
def levelNotices (l : Logger) (level : Option String) : List Notice :=
  match l.directivesFor level with
  | some _ => []
  | none =>
      [Component.logging.say .warn
        ("invalid log level filter '" ++ Text.trim (level.getD "") ++ "'; reverting to default")
        (some .invalidPolicyValue)]

def destinationFor (disk : String → Opening) : Option String → Destination
  | none => .stderr
  | some path =>
      match disk path with
      | .writable => .file path
      | .full reason => .fullFile path reason
      | .refused _ => .stderr

/-- The complaint about a log file that does not open, given before the destination changes. -/
def fileNotices (disk : String → Opening) : Option String → List Notice
  | none => []
  | some path =>
      match disk path with
      | .refused reason =>
          [Component.logging.say .warn
            ("failed to open log file '" ++ path ++ "': " ++ reason) (some .io)]
      | _ => []

end Logger
end WarningCapture.Log
