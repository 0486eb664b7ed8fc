import WarningCapture.Registry.Scripted
import WarningCapture.Session.Capture

/-!
Scrubs of scripted registries. Reached directly, a registry is only walked; reached through a
mapping of the host, the walk is reported on and its failure raised.
-/

namespace WarningCapture

def Scripted.listingFailed (f : Fault) : CaptureError :=
  environmentError .registryScanFailed f.render

namespace Session

def walkScripted (s : Session) (rules : Scripted.Rules) (maxPasses : Nat) (x : Scripted.State) :
    Except CaptureError ScrubReport × Scripted.State × Session :=
  let (walk, x) := rules.registry.walk maxPasses x
  (walk.result.mapError Scripted.listingFailed, x, s.noteAll (walk.notices maxPasses))

/-- Scrubs a scripted registry as a mapping of the host. -/
def scrubScripted (s : Session) (rules : Scripted.Rules) (x : Scripted.State) :
    Except Fault ScrubReport × Scripted.State × Session :=
  match s.scrubWith rules.registry x with
  | (.ok report, x, s) => (.ok report, x, s)
  | (.error err, x, s) => (.error (.reported err), x, s.report err)

end Session
end WarningCapture
