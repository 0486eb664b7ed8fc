import WarningCapture.Proofs.Session.Remarks
import WarningCapture.Proofs.Sink.Moves

/-! What guards do to a session: the moves of its sinks, and the sink that each guard holds after.
Guarded sinks and those of captures are installed and taken off in the same way. -/
namespace WarningCapture.Session

variable {s t u : Session} {o : Observer} {token : Nat} {err : CaptureError}

def moved (s : Session) (moves : List Sinks.Move) : Session :=
  { s with sinks := s.sinks.after moves }

theorem Remarked.setGuard (remarked : s.Remarked t) (guard : String) (held : Option Nat) :
    (s.setGuard guard held).Remarked (t.setGuard guard held) := by
  obtain ⟨es, rfl, asides⟩ := remarked
  exact ⟨es, rfl, asides⟩

theorem Remarked.moved (remarked : s.Remarked t) (moves : List Sinks.Move) :
    (s.moved moves).Remarked (t.moved moves) := by
  obtain ⟨es, rfl, asides⟩ := remarked
  exact ⟨es, rfl, asides⟩

theorem liveGuard?_congr (same : t.guards = s.guards) (guard : String) :
    t.liveGuard? guard = s.liveGuard? guard := by
  simp only [liveGuard?, same]

theorem liveGuard?_setGuard (s : Session) (guard : String) (held : Option Nat) (other : String) :
    (s.setGuard guard held).liveGuard? other =
      if other = guard then held else s.liveGuard? other := by
  unfold liveGuard? Session.setGuard
  split
  · rename_i same
    rw [same, Table.get?_put_self]
    rfl
  · rename_i different
    rw [Table.get?_put_of_ne (Ne.symm different)]

theorem pushSink_push {outcome : Except CaptureError Nat} (pushed : s.pushSink o = (outcome, t)) :
    (s.moved [.push o]).Remarked t ∧
      ∃ notices, s.sinks.push o = (outcome, s.sinks.act (.push o), notices) := by
  have remarked := s.pushSink_remarked o
  have first := congrArg Prod.fst pushed
  rw [pushed] at remarked
  exact ⟨remarked, _, Prod.ext first rfl⟩

theorem pushSink_ok (installed : s.pushSink o = (.ok token, t)) :
    (s.moved [.push o]).Remarked t ∧ ∃ frame, frame.token = token ∧
      s.sinks.Installs o frame (s.sinks.act (.push o)) := by
  obtain ⟨remarked, _, pushed⟩ := pushSink_push installed
  exact ⟨remarked, Sinks.push_ok pushed⟩

theorem pushSink_error (refused : s.pushSink o = (.error err, t)) :
    (s.moved [.push o]).Remarked t ∧ s.sinks.Refuses (s.sinks.act (.push o)) := by
  obtain ⟨remarked, _, pushed⟩ := pushSink_push refused
  exact ⟨remarked, Sinks.push_error pushed⟩

/-- Naming a guard over a new sink is refused, or the guard holds the new sink, and the one that it
held is dropped. -/
theorem pushGuard_cases (s : Session) (guard : String) (o : Observer) :
    ((s.moved [.push o]).Remarked (s.pushGuard guard o).2 ∧
      s.sinks.Refuses (s.sinks.act (.push o))) ∨
    ∃ frame, s.sinks.Installs o frame (s.sinks.act (.push o)) ∧
      ((s.moved (.push o :: (s.liveGuard? guard).toList.map .drop)).setGuard guard
        (some frame.token)).Remarked (s.pushGuard guard o).2 := by
  unfold pushGuard
  cases pushed : s.pushSink o with
  | mk outcome t =>
    cases outcome with
    | error err =>
      obtain ⟨remarked, refuses⟩ := pushSink_error pushed
      exact .inl ⟨remarked.trans (t.raise_remarked err), refuses⟩
    | ok token =>
      obtain ⟨remarked, frame, rfl, installs⟩ := pushSink_ok pushed
      have held : t.liveGuard? guard = s.liveGuard? guard := liveGuard?_congr remarked.guards guard
      refine .inr ⟨frame, installs, ?_⟩
      simp only [held]
      cases s.liveGuard? guard with
      | none => exact remarked.setGuard guard _
      | some old =>
        have dropped := (t.setGuard guard (some frame.token)).dropSink_remarked old
        exact ((remarked.setGuard guard _).moved [.drop old]).trans dropped

/-- Releasing a guard that is in use takes off the sink that it holds. -/
theorem releaseGuard_cases (s : Session) (guard : String) (elsewhere : Bool) :
    (s.liveGuard? guard = none ∧ s.releaseGuard guard elsewhere = (.ok false, s)) ∨
    ∃ token, s.liveGuard? guard = some token ∧
      ((s.moved [.release token elsewhere]).setGuard guard none).Remarked
        (s.releaseGuard guard elsewhere).2 := by
  unfold releaseGuard
  cases s.liveGuard? guard with
  | none => exact .inl ⟨rfl, rfl⟩
  | some token =>
    refine .inr ⟨token, rfl, ?_⟩
    have released := (s.setGuard guard none).releaseSink_remarked token elsewhere
    simp only
    split
    · rename_i outcome
      rw [outcome] at released
      exact released
    · rename_i outcome
      rw [outcome] at released
      exact released.trans (raise_remarked _ _)

theorem dropGuard_cases (s : Session) (guard : String) :
    (s.liveGuard? guard = none ∧ s.dropGuard guard = (false, s)) ∨
    ∃ token, s.liveGuard? guard = some token ∧
      ((s.moved [.drop token]).setGuard guard none).Remarked (s.dropGuard guard).2 := by
  unfold dropGuard
  cases s.liveGuard? guard with
  | none => exact .inl ⟨rfl, rfl⟩
  | some token => exact .inr ⟨token, rfl, (s.setGuard guard none).dropSink_remarked token⟩

/-- Nothing happened but to the sinks, to guards and to what neither buffers nor the history tell,
and remarks were made. -/
def KeepsBuffers (s t : Session) : Prop :=
  ∃ u : Session, u.history = s.history ∧ u.buffers = s.buffers ∧ u.Remarked t

namespace KeepsBuffers

theorem of_remarked (remarked : u.Remarked t) (history : u.history = s.history)
    (buffers : u.buffers = s.buffers) : s.KeepsBuffers t :=
  ⟨u, history, buffers, remarked⟩

end KeepsBuffers

theorem pushSink_keepsBuffers {o : Observer} {outcome : Except CaptureError Nat}
    (pushed : s.pushSink o = (outcome, t)) : s.KeepsBuffers t :=
  .of_remarked (pushSink_push pushed).1 rfl rfl

theorem releaseSink_keepsBuffers (s : Session) (token : Nat) (elsewhere : Bool) :
    s.KeepsBuffers (s.releaseSink token elsewhere).2 :=
  .of_remarked (s.releaseSink_remarked token elsewhere) rfl rfl

theorem pushGuard_keepsBuffers (s : Session) (guard : String) (o : Observer) :
    s.KeepsBuffers (s.pushGuard guard o).2 := by
  rcases s.pushGuard_cases guard o with ⟨remarked, _⟩ | ⟨_, _, remarked⟩
  · exact .of_remarked remarked rfl rfl
  · exact .of_remarked remarked rfl rfl

theorem releaseGuard_keepsBuffers (s : Session) (guard : String) (elsewhere : Bool) :
    s.KeepsBuffers (s.releaseGuard guard elsewhere).2 := by
  rcases s.releaseGuard_cases guard elsewhere with ⟨_, same⟩ | ⟨_, _, remarked⟩
  · rw [same]
    exact .of_remarked (.refl s) rfl rfl
  · exact .of_remarked remarked rfl rfl

theorem dropGuard_keepsBuffers (s : Session) (guard : String) :
    s.KeepsBuffers (s.dropGuard guard).2 := by
  rcases s.dropGuard_cases guard with ⟨_, same⟩ | ⟨_, _, remarked⟩
  · rw [same]
    exact .of_remarked (.refl s) rfl rfl
  · exact .of_remarked remarked rfl rfl

/-- The sessions differ at most in the modules and in the next observer, and by remarks. -/
def Scrubbed (s t : Session) : Prop :=
  ∃ (modules : Modules) (nextObserver : Nat), { s with modules, nextObserver }.Remarked t

theorem Scrubbed.sinks (scrubbed : s.Scrubbed t) : t.sinks = s.sinks := by
  obtain ⟨_, _, remarked⟩ := scrubbed
  exact remarked.sinks

theorem Scrubbed.guards (scrubbed : s.Scrubbed t) : t.guards = s.guards := by
  obtain ⟨_, _, remarked⟩ := scrubbed
  exact remarked.guards

/-- A capture that is refused its sink changes nothing. Any other calls the function with the sink
installed and takes the sink off after. -/
theorem capture_cases (s : Session) (collector : Collector) (f : Callee) (arguments : Arguments) :
    ∃ begun o, s.Scrubbed begun ∧
      ((∃ err t, begun.pushSink o = (.error err, t) ∧
          t.Remarked (s.capture collector f arguments).2) ∨
        ∃ token t, begun.pushSink o = (.ok token, t) ∧
          ((f arguments t).2.releaseSink token false).2.Remarked
            (s.capture collector f arguments).2) := by
  obtain ⟨modules, es, same, asides⟩ := s.scrubBeforeCapture_remarked
  refine ⟨(s.scrubBeforeCapture.newObserver collector).2,
    (s.scrubBeforeCapture.newObserver collector).1,
    ⟨modules, s.scrubBeforeCapture.nextObserver + 1, es, ?_, asides⟩, ?_⟩
  · simp only [newObserver, same]
  · unfold capture
    simp only
    split
    · rename_i refused
      exact .inl ⟨_, _, refused, raise_remarked _ _⟩
    · rename_i installed
      exact .inr ⟨_, _, installed, settle_remarked _ _ _⟩

end WarningCapture.Session
