import WarningCapture.Session.Capture

/-!
Observers by name, and guards by name over the sinks they hold. A guard is used up by its first
release or drop. Naming a new guard as a live one drops the old one, once the new sink is in place.
-/

namespace WarningCapture.Session

def nameObserver (s : Session) (name : String) (collector : Collector) : Session :=
  let (o, s) := s.newObserver collector
  { s with observers := Table.put name o s.observers }

/-- The observer of a name; a name that was never given leads to an observer of no buffer. -/
def observer (s : Session) (name : String) : Observer :=
  (Table.get? name s.observers).getD ⟨0, .buffer ""⟩

def liveGuard? (s : Session) (guard : String) : Option Nat := (Table.get? guard s.guards).join

def setGuard (s : Session) (guard : String) (token : Option Nat) : Session :=
  { s with guards := Table.put guard token s.guards }

def pushGuard (s : Session) (guard : String) (o : Observer) : Attempt Unit :=
  match s.pushSink o with
  | (.error err, s) => s.raise err
  | (.ok token, s) =>
      let previous := s.liveGuard? guard
      let s := s.setGuard guard (some token)
      (.ok (), previous.elim s s.dropSink)

/-- Releases a guard, possibly on another thread; false if it is used up. -/
def releaseGuard (s : Session) (guard : String) (elsewhere : Bool) : Attempt Bool :=
  match s.liveGuard? guard with
  | none => (.ok false, s)
  | some token =>
      match (s.setGuard guard none).releaseSink token elsewhere with
      | (.ok (), s) => (.ok true, s)
      | (.error err, s) => s.raise err

def dropGuard (s : Session) (guard : String) : Bool × Session :=
  match s.liveGuard? guard with
  | none => (false, s)
  | some token => (true, (s.setGuard guard none).dropSink token)

end WarningCapture.Session
