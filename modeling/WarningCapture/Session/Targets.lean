import WarningCapture.Session.State

/-!
Filter targets as a session sees them: resolved against the modules loaded and the directory current
at the moment, and held against records and lines.
-/

namespace WarningCapture

namespace Resolution

/-- Whether the targets claim a record: a record without a usable file belongs to none. -/
def claimsRecord (r : Resolution) (cwd : String) (record : Record) : Bool :=
  match Path.normalise? cwd record.filename with
  | none => false
  | some file => r.claims file record.line

/-- What is to be said when a record is held against the targets. -/
def recordNotices (r : Resolution) (cwd : String) (record : Record) : List Log.Notice :=
  match Path.normalise? cwd record.filename with
  | none => []
  | some file => Origin.notices file record.line r.origins

end Resolution

namespace Session

def resolve (objects : HostObjects) (s : Session) (targets : List String) :
    Except CaptureError Resolution :=
  Resolution.ofTargets s.surroundings objects s.types targets

def noteResolution (s : Session) (r : Resolution) : Session :=
  { s with read := r.read ++ s.read }.noteAll r.notices

def functionLines (objects : HostObjects) (s : Session) (target : String) : Attempt (List Nat) :=
  match s.resolve objects [target] with
  | .error err => s.raise err
  | .ok resolution => (.ok resolution.lines, s.noteResolution resolution)

/-- Resolves targets, and holds each of them against each queried line of a file. -/
def origins (objects : HostObjects) (s : Session) (targets : List String)
    (queries : List (String × Nat)) : Attempt Result :=
  match s.resolve objects targets with
  | .error err => s.raise err
  | .ok r =>
      let claims := queries.map fun (file, line) =>
        r.targets.map fun os => os.any (·.claims file line)
      let notices := queries.flatMap fun (file, line) =>
        r.targets.flatMap (Origin.notices file line)
      (.ok (.origins r.targets claims r.cache.length), (s.noteResolution r).noteAll notices)

end Session
end WarningCapture
