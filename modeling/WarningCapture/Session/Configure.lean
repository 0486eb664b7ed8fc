import WarningCapture.Session.State

/-!
Policy updates in a session. A policy takes effect in a fixed order: the log filter, the log file,
then the switch for error descriptions. Complaints about the filter pass the filter before, and
complaints about the file still go where lines went before.
-/

namespace WarningCapture.Session

def applyPolicy (disk : String → Log.Opening) (s : Session) (p : Policy) : Session :=
  let s := { s with policy := p }
  let s := s.noteAll (s.logger.levelNotices p.logLevel)
  let s := { s with logger := s.logger.setLevel p.logLevel }
  let s := s.noteAll (Log.Logger.fileNotices disk p.logFile)
  { s with
    logger := { s.logger with destination := Log.Logger.destinationFor disk p.logFile }
    jsonErrors := p.jsonErrors }

def configure (disk : String → Log.Opening) (s : Session) (u : Policy.Update) : Attempt Unit :=
  match s.policy.configure u with
  | .error err => s.raise err
  | .ok p => (.ok (), s.applyPolicy disk p)

def configureFrom (disk : String → Log.Opening) (s : Session) (env : Environment) :
    Attempt Unit :=
  match env.policyUpdate with
  | .error err => s.raise err
  | .ok u => (.ok (), s.applyPolicy disk (s.policy.apply u))

end WarningCapture.Session
