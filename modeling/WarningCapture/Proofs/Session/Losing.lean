import WarningCapture.Proofs.Session.Flushing

/-! What the end of a test loses. The records are taken out of the buffer before the emitting
function is looked for, and they are not put back if it is missing: the end of a test fails, nothing
was emitted, and nothing is left that a flush or another end of the test could find. -/
namespace WarningCapture.Session
variable {objects : HostObjects} {react : Reaction} {s : Session} {buffer : String}

theorem fate_lost_iff : s.fate = .lost ↔
    s.policy.replayUnflushed = true ∧ s.sinks.facility.warnExplicit = .missing := by
  rw [fate]
  split
  · rename_i off
    simp [off]
  · rename_i on
    have on : s.policy.replayUnflushed = true := by simpa using on
    split
    · rename_i missing
      simp [on, missing]
    · rename_i available
      simp [available]

theorem finish_lost (loses : s.fate = .lost) (something : s.pendingIn buffer ≠ []) :
    s.finish react buffer = (s.sweep buffer).raise replayUnavailable := by
  have nonempty : (s.buffer buffer).records ≠ [] := something
  rw [finish_eq, if_neg nonempty]
  simp only [loses]

/-- The end of a test fails for one reason only. -/
theorem finish_fails_iff : (∃ f, (s.finish react buffer).1 = .error f) ↔
    s.pendingIn buffer ≠ [] ∧ s.fate = .lost := by
  constructor
  · rintro ⟨f, failed⟩
    rcases s.finish_cases react buffer with
      ⟨_, same⟩ | ⟨_, ended, _⟩ | ⟨loses, ended, _⟩ | ⟨_, raised, t, _, same⟩
    · rw [same] at failed
      cases failed
    · cases ended.symm.trans failed
    · refine ⟨?_, loses⟩
      intro empty
      rw [finish_silent react (.inr empty)] at failed
      cases failed
    · rw [same] at failed
      cases failed
  · rintro ⟨something, loses⟩
    exact ⟨_, congrArg Prod.fst (finish_lost loses something)⟩

/-- From an empty buffer a flush returns nothing. -/
theorem flush_of_empty {targets : TargetList} {records : List Record}
    (empty : s.pendingIn buffer = [])
    (flushed : (s.flush objects buffer targets).1 = .ok records) : records = [] := by
  rcases s.flush_cases objects buffer targets with ⟨f, failed, _⟩ | ⟨claimed, _, _, _, taken, _⟩
  · cases flushed.symm.trans failed
  · have nothing : (s.buffer buffer).records.filter claimed = [] := by
      rw [show (s.buffer buffer).records = [] from empty, List.filter_nil]
    rw [nothing] at taken
    exact Except.ok.inj (flushed.symm.trans taken)

/-- The end of a test fails just if there are records to emit again and the function to emit them
with is missing. Then none was emitted and none is pending: the buffer is empty, no flush after this
returns a record, and the test can end again without any being emitted. Other buffers, the sinks and
what captures rest on are as they were. -/
theorem failed_finish_loses_records (react : Reaction) (s : Session) (buffer : String) :
    ((∃ f, (s.finish react buffer).1 = .error f) ↔ s.pendingIn buffer ≠ [] ∧
      s.policy.replayUnflushed = true ∧ s.sinks.facility.warnExplicit = .missing) ∧
    ∀ f, (s.finish react buffer).1 = .error f → ∃ t, s.finish react buffer = (.error f, t) ∧
      f = .reported replayUnavailable ∧
      (∀ other, t.pendingIn other = if other = buffer then [] else s.pendingIn other) ∧
      t.sinks = s.sinks ∧
      (∃ later, t.history = later ++ .taken buffer (s.pendingIn buffer) .lost :: s.history ∧
        ∀ e ∈ later, e.spoken = true) ∧
      (∀ objects targets records, (t.flush objects buffer targets).1 = .ok records →
        records = []) ∧
      (t.finish react buffer).1 = .ok [] := by
  rw [finish_fails_iff, fate_lost_iff]
  refine ⟨.rfl, ?_⟩
  intro f failed
  obtain ⟨something, loses⟩ := finish_fails_iff.mp ⟨f, failed⟩
  rw [finish_lost loses something] at failed ⊢
  obtain rfl := Except.error.inj failed
  obtain ⟨later, told, spoken⟩ := (s.sweep buffer).report_saidOnly replayUnavailable
  have pending (other : String) : ((s.sweep buffer).report replayUnavailable).pendingIn other =
      if other = buffer then [] else s.pendingIn other := by
    rw [told]
    exact s.sweep_pendingIn buffer other
  have empty : ((s.sweep buffer).report replayUnavailable).pendingIn buffer = [] := by
    rw [pending, if_pos rfl]
  refine ⟨_, rfl, rfl, pending, ?_, ⟨later, ?_, spoken⟩, ?_, ?_⟩
  · rw [told]
    rfl
  · rw [told, ← loses]
    rfl
  · intro objects targets records flushed
    exact flush_of_empty empty flushed
  · exact congrArg Prod.fst (finish_silent react (.inr empty))

/-- A session with a record in a buffer, in which the emitting function has been taken away. -/
def stranded : Session :=
  ({} : Scene).play [.pushRecord "buffer" plain, .damage (.facility .missingWarnExplicit)] bare

theorem stranded_finish_fails :
    (stranded.finish (({} : Scene).reaction 0) "buffer").1 =
        .error (.reported replayUnavailable) ∧
      stranded.pendingIn "buffer" ≠ [] ∧
      (stranded.finish (({} : Scene).reaction 0) "buffer").2.pendingIn "buffer" = [] := by
  have failed : (stranded.finish (({} : Scene).reaction 0) "buffer").1 =
      .error (.reported replayUnavailable) := by decide +kernel
  obtain ⟨fails, loses⟩ :=
    failed_finish_loses_records (({} : Scene).reaction 0) stranded "buffer"
  obtain ⟨t, same, _, pending, _⟩ := loses _ failed
  refine ⟨failed, (fails.mp ⟨_, failed⟩).1, ?_⟩
  rw [same, pending, if_pos rfl]

/-- What was pending cannot be claimed any more once the end of a test has failed. -/
theorem lost_record_is_not_claimed :
    ¬ ∀ (s : Session) (buffer : String) (f : Fault),
      (s.finish (({} : Scene).reaction 0) buffer).1 = .error f →
        (s.finish (({} : Scene).reaction 0) buffer).2.pendingIn buffer = s.pendingIn buffer := by
  intro kept
  have failed : (stranded.finish (({} : Scene).reaction 0) "buffer").1 =
      .error (.reported replayUnavailable) := by decide +kernel
  have gone : (stranded.finish (({} : Scene).reaction 0) "buffer").2.pendingIn "buffer" = [] := by
    decide +kernel
  have had : stranded.pendingIn "buffer" = [plain] := by decide +kernel
  rw [kept stranded "buffer" _ failed, had] at gone
  cases gone

end WarningCapture.Session
