import WarningCapture.Session.Observe
import WarningCapture.Session.Targets

/-!
Emptying buffers. A flush takes all records, or those that belong to given targets, and leaves the
others in order. The end of a test takes what is left and emits it again, one record after another
and whatever that raises, unless the policy discards it.
-/

namespace WarningCapture

namespace Session

def flushNotice (taken left : Nat) : Log.Notice :=
  Log.Component.buffers.say .debug
    ("flushed " ++ toString taken ++ " warnings, " ++ toString left ++ " still pending")

/-- Takes records out of a buffer and leaves the others. -/
def takeRecords (s : Session) (buffer : String) (taken kept : List Record) :
    Attempt (List Record) :=
  let s := s.setBuffer buffer { s.buffer buffer with records := kept }
  (.ok taken, (s.add (.flushed buffer taken)).note (flushNotice taken.length kept.length))

/-- Takes all records, or those that the targets claim; nothing is taken unless every target is
acceptable. -/
def flush (objects : HostObjects) (s : Session) (buffer : String) (targets : TargetList) :
    Attempt (List Record) :=
  match targets with
  | none => s.takeRecords buffer (s.buffer buffer).records []
  | some (.error f) => (.error f, s)
  | some (.ok names) =>
      match s.resolve objects names with
      | .error err => s.raise err
      | .ok resolution =>
          let pending := (s.buffer buffer).records
          let claimed := fun record => resolution.claimsRecord s.cwd record
          let s := (s.noteResolution resolution).noteAll
            (pending.flatMap (resolution.recordNotices s.cwd))
          s.takeRecords buffer (pending.filter claimed) (pending.filter (!claimed ·))

def replayNotice (r : Record) (f : Fault) : Log.Notice :=
  Log.Component.buffers.quote .debug
    ("replaying " ++ r.filename ++ ":" ++ toString r.line ++ " raised ") f (some .replayFailed)

/-- Emits a record again, by a function that may have been made to fail. -/
def emitAgain (react : Reaction) (emitter : FunctionState) (s : Session) (r : Record) :
    Attempt Unit :=
  match emitter with
  | .broken => (.error (Facility.brokenFunction "warn_explicit"), s)
  | _ => s.emit react r.message r.category r.filename r.line

/-- Emits records of a buffer one after another, and collects what this raises. -/
def emitAll (react : Reaction) (emitter : FunctionState) (buffer : String) :
    List Record → Session → List Fault × Session
  | [], s => ([], s)
  | r :: rest, s =>
      match (s.add (.handed buffer r)).emitAgain react emitter r with
      | (.ok (), s) => emitAll react emitter buffer rest s
      | (.error f, s) =>
          let (raised, s) := emitAll react emitter buffer rest (s.note (replayNotice r f))
          (f :: raised, s)

def replayUnavailable : CaptureError :=
  (environmentError .replayFailed "warnings.warn_explicit is unavailable").withContext
    "error" (Facility.missing "warn_explicit").render

def discardNotice (count : Nat) : Log.Notice :=
  Log.Component.buffers.say .info ("discarding " ++ toString count ++ " unflushed warnings")

/-- Takes what is left in a buffer and emits it again. The buffer is empty before the first record
is emitted, and what emitting them stores in it stays. -/
def finish (react : Reaction) (s : Session) (buffer : String) : Attempt (List Fault) :=
  let pending := (s.buffer buffer).records
  let s := s.setBuffer buffer { s.buffer buffer with records := [] }
  if pending.isEmpty then (.ok [], s)
  else if !s.policy.replayUnflushed then
    (.ok [], (s.add (.taken buffer pending .discarded)).note (discardNotice pending.length))
  else
    match s.sinks.facility.warnExplicit with
    | .missing => (s.add (.taken buffer pending .lost)).raise replayUnavailable
    | emitter =>
        let (raised, s) :=
          emitAll react emitter buffer pending (s.add (.taken buffer pending .replayed))
        (.ok raised, s.add (.replayed buffer pending.length raised))

end Session
end WarningCapture
