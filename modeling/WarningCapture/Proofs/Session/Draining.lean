import WarningCapture.Proofs.Session.Course

/-! What flushes and the ends of tests come to. A flush that fails changes nothing but the history.
The end of a test takes all there is before it looks at what to do with it. -/
namespace WarningCapture.Session

theorem noteResolution_remarked (s : Session) (r : Resolution) :
    { s with read := r.read ++ s.read }.Remarked (s.noteResolution r) :=
  noteAll_remarked _ _

theorem takeRecords_remarked (s : Session) (buffer : String) (claimed : Record → Bool) :
    (s.takeOut buffer claimed).Remarked
      (s.takeRecords buffer ((s.buffer buffer).records.filter claimed)
        ((s.buffer buffer).records.filter (!claimed ·))).2 :=
  note_remarked _ _

/-- A flush fails, or it takes out the records that it claims and returns them. -/
theorem flush_cases (objects : HostObjects) (s : Session) (buffer : String)
    (targets : TargetList) :
    (∃ f, (s.flush objects buffer targets).1 = .error f ∧
      s.Remarked (s.flush objects buffer targets).2) ∨
    ∃ claimed read u, ({ s with read } : Session).Remarked u ∧
      (s.flush objects buffer targets).1 = .ok ((s.buffer buffer).records.filter claimed) ∧
      (u.takeOut buffer claimed).Remarked (s.flush objects buffer targets).2 := by
  unfold flush
  split
  · have everything := s.takeRecords_remarked buffer fun _ => true
    have all : (s.buffer buffer).records.filter (fun _ => true) = (s.buffer buffer).records :=
      List.filter_eq_self.mpr fun _ _ => rfl
    have none : (s.buffer buffer).records.filter (fun _ => !true) = [] :=
      List.filter_eq_nil_iff.mpr (by simp)
    rw [all, none] at everything
    exact .inr ⟨fun _ => true, s.read, s, .refl s, by rw [all]; rfl, everything⟩
  · exact .inl ⟨_, rfl, .refl s⟩
  · split
    · exact .inl ⟨_, rfl, s.raise_remarked _⟩
    · rename_i resolution _
      let u := (s.noteResolution resolution).noteAll
        ((s.buffer buffer).records.flatMap (resolution.recordNotices s.cwd))
      have noted : ({ s with read := resolution.read ++ s.read } : Session).Remarked u :=
        (s.noteResolution_remarked resolution).trans (noteAll_remarked _ _)
      have taken := u.takeRecords_remarked buffer (resolution.claimsRecord s.cwd)
      rw [buffer_congr (t := u) noted.buffers buffer] at taken
      exact .inr ⟨resolution.claimsRecord s.cwd, _, u, noted, rfl, taken⟩

/-- The end of a test by what it finds: nothing, or something with a fate. -/
theorem finish_eq (react : Reaction) (s : Session) (buffer : String) :
    s.finish react buffer =
      if (s.buffer buffer).records = [] then (.ok [], s.setBuffer buffer (s.buffer buffer))
      else
        match s.fate with
        | .discarded =>
            (.ok [], (s.sweep buffer).note (discardNotice (s.buffer buffer).records.length))
        | .lost => (s.sweep buffer).raise replayUnavailable
        | .replayed =>
            let (raised, t) := emitAll react s.sinks.facility.warnExplicit buffer
              (s.buffer buffer).records (s.sweep buffer)
            (.ok raised, t.add (.replayed buffer (s.buffer buffer).records.length raised)) := by
  unfold finish
  simp only
  split
  · rename_i empty
    have empty := List.isEmpty_iff.mp empty
    rw [if_pos empty, ← empty]
  · rename_i something
    rw [if_neg (mt List.isEmpty_iff.mpr something)]
    split
    · rename_i off
      have discards : s.fate = .discarded := by
        simp [fate, show s.policy.replayUnflushed = false by simpa [setBuffer] using off]
      simp only [sweep, discards]
    · rename_i on
      have on : s.policy.replayUnflushed = true := by simpa [setBuffer] using on
      split
      · rename_i unavailable
        have loses : s.fate = .lost := by
          simp [fate, on, show s.sinks.facility.warnExplicit = .missing from unavailable]
        simp only [sweep, loses]
      · rename_i emitter available
        have replays : s.fate = .replayed := by
          simp [fate, on, show s.sinks.facility.warnExplicit ≠ .missing from available]
        simp only [sweep, replays]
        rfl

theorem finish_cases (react : Reaction) (s : Session) (buffer : String) :
    ((s.buffer buffer).records = [] ∧
      s.finish react buffer = (.ok [], s.setBuffer buffer (s.buffer buffer))) ∨
    (s.fate = .discarded ∧ (s.finish react buffer).1 = .ok [] ∧
      (s.sweep buffer).Remarked (s.finish react buffer).2) ∨
    (s.fate = .lost ∧ (s.finish react buffer).1 = .error (.reported replayUnavailable) ∧
      (s.sweep buffer).Remarked (s.finish react buffer).2) ∨
    (s.fate = .replayed ∧
      ∃ raised t, emitAll react s.sinks.facility.warnExplicit buffer (s.buffer buffer).records
        (s.sweep buffer) = (raised, t) ∧
        s.finish react buffer =
          (.ok raised, t.add (.replayed buffer (s.buffer buffer).records.length raised))) := by
  rw [finish_eq]
  split
  · rename_i empty
    exact .inl ⟨empty, rfl⟩
  · split
    · rename_i discards
      exact .inr (.inl ⟨discards, rfl, note_remarked _ _⟩)
    · rename_i loses
      exact .inr (.inr (.inl ⟨loses, rfl, raise_remarked _ _⟩))
    · rename_i replays
      exact .inr (.inr (.inr ⟨replays, _, _, rfl, rfl⟩))

end WarningCapture.Session
