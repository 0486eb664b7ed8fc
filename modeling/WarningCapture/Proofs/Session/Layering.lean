import WarningCapture.Proofs.Session.Performance
import WarningCapture.Proofs.Sink.Layers
import WarningCapture.Session.Trace

/-! The sinks in a session. Whatever happens moves them by pushes, releases and drops, and other
writes to the facility are those of the session. Where nothing but sinks writes the hook and the
filters, the top sink is in force at every moment. -/
namespace WarningCapture

namespace Session
variable {W : Facility → Facility → Prop} {s t u : Session}

/-- The sinks go from one session to the other by moves, with writes of the given kind. -/
def Moves (W : Facility → Facility → Prop) (s t : Session) : Prop :=
  ∃ moves, s.sinks.Writes W moves ∧ t.sinks = s.sinks.after moves

namespace Moves

theorem of_sinks (same : t.sinks = s.sinks) : Moves W s t := ⟨[], trivial, same⟩

theorem trans (first : Moves W s t) (second : Moves W t u) : Moves W s u := by
  obtain ⟨moves, writes, same⟩ := first
  obtain ⟨more, others, rest⟩ := second
  rw [same] at others rest
  exact ⟨moves ++ more, Sinks.writes_append.mpr ⟨writes, others⟩, by
    rw [rest, Sinks.after_append]⟩

end Moves

theorem Change.moves (changed : Change W s t) : Moves W s t := by
  cases changed with
  | arrange alike => exact .of_sinks alike.sinks
  | remark | store | place | takeOut | discard | close | touch => exact .of_sinks rfl
  | write _ written => exact ⟨[.write _], ⟨written, trivial⟩, rfl⟩
  | refuse refused => exact ⟨[.push _], trivial, (pushSink_error refused).1.sinks⟩
  | pushGuard _ guard o =>
    rcases s.pushGuard_cases guard o with ⟨remarked, _⟩ | ⟨frame, _, remarked⟩
    · exact ⟨[.push o], trivial, remarked.sinks⟩
    · refine ⟨_, ?_, remarked.sinks⟩
      cases s.liveGuard? guard <;> trivial
  | releaseGuard _ guard elsewhere =>
    rcases s.releaseGuard_cases guard elsewhere with ⟨_, same⟩ | ⟨token, _, remarked⟩
    · rw [same]; exact .of_sinks rfl
    · exact ⟨[.release token elsewhere], trivial, remarked.sinks⟩
  | dropGuard _ guard =>
    rcases s.dropGuard_cases guard with ⟨_, same⟩ | ⟨token, _, remarked⟩
    · rw [same]; exact .of_sinks rfl
    · exact ⟨[.drop token], trivial, remarked.sinks⟩

theorem Turn.moves (turn : Turn W s t) : Moves W s t := by
  cases turn with
  | change changed => exact changed.moves
  | install installed => exact ⟨[.push _], trivial, (pushSink_ok installed).1.sinks⟩
  | takeOff _ token => exact ⟨[.release token false], trivial, s.releaseSink_sinks token false⟩
  | enterRun | leaveRun | enterListener | leaveListener | sweep | hand => exact .of_sinks rfl

theorem Moment.moves (now : Moment W s u) : Moves W s u := by
  have turns := now.turns
  clear now
  induction turns with
  | refl => exact .of_sinks rfl
  | tail _ turn ih => exact ih.trans turn.moves

/-- A session before its first step, with nothing in it. -/
def bare : Session := start {} {} [] {} [] "/"

/-- Two guards, with a warning captured and emitted again under them. -/
def guarded : List Step :=
  [.observeInto "observer" "buffer", .push "outer" "observer",
    .warn "message" .warning "file.py" 1, .push "inner" "observer", .finish "buffer"]

end Session
end WarningCapture
