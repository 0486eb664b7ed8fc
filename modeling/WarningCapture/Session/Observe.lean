import WarningCapture.Session.State

/-!
Warnings on their way through a session: emitted, shown through the current hook, and delivered by
observers to buffers and listeners. What a listener does when it is called is a parameter here.
-/

namespace WarningCapture

abbrev Reaction := String → Record → Session → Attempt Unit

namespace Session

def isBusy (s : Session) (o : Observer) : Bool := s.busy.contains o.id

def enterListener (s : Session) (o : Observer) (listener : String) (r : Record) : Session :=
  { s with busy := o.id :: s.busy }.add (.called listener o.id r)

def leaveListener (s : Session) (o : Observer) : Session :=
  { s with busy := s.busy.erase o.id }.add (.returned o.id)

def store (s : Session) (buffer : String) (r : Record) : Session :=
  (s.setBuffer buffer ((s.buffer buffer).push r)).add (.stored buffer r)

def place (s : Session) (buffer : String) (r : Record) : Session :=
  (s.setBuffer buffer ((s.buffer buffer).push r)).add (.placed buffer r)

def dropRecord (s : Session) (o : Observer) (r : Record) : Session :=
  (s.add (.dropped o.id r)).note
    (Sinks.say .debug ("dropping warning raised by the collector itself: " ++ r.message))

/-- Delivers a record. A listener is never entered through an observer that it is running under. -/
def deliver (react : Reaction) (s : Session) (o : Observer) (r : Record) : Attempt Unit :=
  match o.collector with
  | .buffer name => (.ok (), s.store name r)
  | .listener name =>
      if s.isBusy o then (.ok (), s.dropRecord o r)
      else
        let (outcome, s) := react name r (s.enterListener o name r)
        (outcome, s.leaveListener o)

/-- Calls an observer: what it is given is converted to a record first, and delivered then. -/
def callObserver (react : Reaction) (s : Session) (o : Observer) (message : Printable)
    (category : Category) (file : Printable) (line : Value) : Attempt Unit :=
  match Record.ofShown message category file line with
  | .error f => (.error f, s)
  | .ok r => (s.add (.captured r)).deliver react o r

/-- Calls a hook. The ambient and the custom hook print the message and note the call. -/
def callHook (react : Reaction) (s : Session) (hook : Hook) (message : Printable)
    (category : Category) (file : Printable) (line : Value) : Attempt Unit :=
  match hook with
  | .observer o => s.callObserver react o message category file line
  | hook =>
      match message.text with
      | .error f => (.error f, s)
      | .ok text => (.ok (), s.add (.shown hook text category file line))

def showWarning (react : Reaction) (s : Session) (message : Printable) (category : Category)
    (file : Printable) (line : Value) : Attempt Unit :=
  match s.sinks.facility.getHook with
  | .error f => (.error f, s)
  | .ok hook => s.callHook react hook message category file line

def emit (react : Reaction) (s : Session) (message : String) (category : Category) (file : String)
    (line : Int) : Attempt Unit :=
  let (emission, facility) := s.sinks.facility.emit message category line
  let s := s.withFacility facility
  match emission with
  | .fails f => (.error f, s)
  | .suppressed => (.ok (), s)
  | .shown none => (.ok (), s)
  | .shown (some hook) =>
      s.callHook react hook (.value (.text message)) category (.value (.text file)) (.int line)

end Session
end WarningCapture
