import WarningCapture.Proofs.Session.Replaying
import WarningCapture.Proofs.Session.Restoring

/-! Failures never put the sinks out of step. A sink that cannot be installed leaves everything as
it was, and one that is taken off is gone for good, whether or not what it replaced can be put
back. -/
namespace WarningCapture

namespace Session
variable {s t u : Session} {frame : Frame} {below above : List Frame}

/-- The sink of a frame is taken off, with all sinks above it. -/
structure TakenOff (frame : Frame) (below : List Frame) (s t : Session) : Prop where
  frames : t.sinks.frames = below
  filters : s.sinks.facility.binding = .list → t.sinks.facility.filters? = some frame.filters
  /-- The hook is put back whether or not the filters are. -/
  hook : s.sinks.facility.hookReadOnly = false → t.sinks.facility.hook = some frame.hook
  /-- To take the sink off once more does nothing, whatever happened in between. -/
  again : ∀ v, Moment Facility.Anything t v → ∀ elsewhere,
    (v.releaseSink frame.token elsewhere).1 = .ok () ∧
    (v.releaseSink frame.token elsewhere).2.sinks = v.sinks ∧
    (v.dropSink frame.token).sinks = v.sinks

theorem takenOff (ordered : s.sinks.Ordered) (stack : s.sinks.frames = below ++ frame :: above)
    {elsewhere : Bool} (sinks : t.sinks = (s.sinks.release frame.token elsewhere).2.1) :
    TakenOff frame below s t := by
  obtain ⟨found, cut⟩ := ordered.found stack
  have facility : t.sinks.facility = (frame.restore s.sinks.facility).2 := by
    rw [sinks, (Sinks.release_found found elsewhere).2]
  have frames : t.sinks.frames = below := by rw [sinks, Sinks.release_frames, cut]
  refine ⟨frames, fun list => ?_, fun assignable => ?_, fun v later elsewhere => ?_⟩
  · rw [facility, Frame.restore_filters frame _ list]
  · rw [facility, Frame.restore_hook, assignable]
    rfl
  · have handedOut : frame.token < t.sinks.nextToken := by
      rw [sinks, Sinks.release_nextToken]
      exact ordered.handedOut frame (stack ▸ List.mem_append_right _ List.mem_cons_self)
    have others : ∀ other ∈ t.sinks.frames, other.token ≠ frame.token := by
      intro other member
      rw [frames, ← cut] at member
      simpa using List.mem_takeWhile_imp member
    obtain ⟨moves, _, run⟩ := later.moves
    have gone : ∀ other ∈ v.sinks.frames, other.token ≠ frame.token :=
      run ▸ Sinks.after_gone handedOut others moves
    obtain ⟨ok, same⟩ := Sinks.release_gone (Sinks.find_gone gone) elsewhere
    refine ⟨ok, (releaseSink_sinks v _ _).trans same, ?_⟩
    rw [(v.dropSink_remarked frame.token).sinks]
    exact (Sinks.drop_eq v.sinks frame.token elsewhere).trans same

end Session
end WarningCapture
