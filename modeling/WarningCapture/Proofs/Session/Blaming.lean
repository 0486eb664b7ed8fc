import WarningCapture.Proofs.Session.Proceeding
import WarningCapture.Proofs.Session.Recapturing

/-! What the exceptions are due to that the end of a test returns. All but one of the causes lie
outside of the records: the emitting function, a filter, the hook, the category. The one that does
not is the line: those of records are 32-bit naturals, and the emitting function takes 32-bit
integers. -/
namespace WarningCapture

theorem Record.ofShown_fields {message file : Printable} {category : Category} {line : Value}
    {r : Record} (converted : Record.ofShown message category file line = .ok r) :
    ∃ n, line.toWord = .ok n ∧ r.category = category ∧ r.line = clampLine n := by
  simp only [Record.ofShown, bind, Except.bind, pure, Except.pure] at converted
  split at converted
  · cases converted
  · split at converted
    · cases converted
    · split at converted
      · cases converted
      · rename_i n word
        cases converted
        exact ⟨n, word, rfl, rfl⟩

/-- Lines of records reach further than 32-bit integers do. -/
theorem clampLine_bounds (n : Int) :
    clampLine n ≤ 0xffffffff ∧ (clampLine n < 0x80000000 ↔ n < 0x80000000) := by
  unfold clampLine
  constructor
  · omega
  · omega

namespace Facility

theorem checkLine_small {line : Nat} (small : line < 0x80000000) :
    checkLine line = .ok () := by
  have fits : fitsWord line = true := by simp [fitsWord]; omega
  have lower : ¬(0x80000000 : Int) ≤ line := by omega
  have upper : ¬(line : Int) < -0x80000000 := by omega
  simp only [checkLine, fits, Bool.not_true, Bool.false_eq_true, if_false, if_neg lower,
    if_neg upper]

/-- What the emitting function says of a line that is a 32-bit natural but no 32-bit integer. -/
def oversized : Fault := .raised "OverflowError" "signed integer is greater than maximum"

theorem checkLine_large {line : Nat} (large : 0x80000000 ≤ line) (word : line ≤ 0xffffffff) :
    checkLine line = .error oversized := by
  have fits : fitsWord line = true := by simp [fitsWord]; omega
  have lower : (0x80000000 : Int) ≤ line := by omega
  simp only [checkLine, fits, Bool.not_true, Bool.false_eq_true, if_false, if_pos lower]
  rfl

theorem checkLine_ok_iff {line : Nat} (word : line ≤ 0xffffffff) :
    checkLine line = .ok () ↔ line < 0x80000000 := by
  constructor
  · intro accepted
    by_contra large
    cases accepted.symm.trans (checkLine_large (not_lt.mp large) word)
  · exact checkLine_small

end Facility

namespace Session
variable {react : Reaction} {emitter : FunctionState} {s t : Session} {r : Record}
  {buffer : String} {calls : List Reemission}

/-- Calls the hook with a record that is emitted again, once the filters have decided. -/
def showAgain (react : Reaction) (s : Session) (hook : Hook) (r : Record) : Attempt Unit :=
  (s.withFacility (s.sinks.facility.emit r.message r.category r.line).2).callHook react hook
    (.value (.text r.message)) r.category (.value (.text r.filename)) (.int r.line)

/-- What an exception is due to that a record raises when it is emitted again. -/
inductive Blames (react : Reaction) (emitter : FunctionState) (s : Session) (r : Record) :
    Fault → Prop where
  | broken : emitter = .broken →
      Blames react emitter s r (Facility.brokenFunction "warn_explicit")
  | refused : s.sinks.facility.Refuses r.message r.category r.line f →
      Blames react emitter s r f
  | hook : s.sinks.facility.hook = some hook → (s.showAgain react hook r).1 = .error f →
      Blames react emitter s r f

/-- Nothing stands in the way of a record that is emitted again. -/
structure Unhindered (react : Reaction) (emitter : FunctionState) (s : Session) (r : Record) :
    Prop where
  unbroken : emitter ≠ .broken
  line : Facility.checkLine r.line = .ok ()
  category : r.category.construct r.message = .ok ()
  filter : ∃ filters, s.sinks.facility.consult.1 = .ok filters ∧
    Filter.actionFor r.category filters ≠ .error
  hook : ∀ hook, s.sinks.facility.hook = some hook → (s.showAgain react hook r).1 = .ok ()

theorem Unhindered.unrefused {f : Fault} (unhindered : Unhindered react emitter s r) :
    ¬s.sinks.facility.Refuses r.message r.category r.line f := by
  obtain ⟨filters, consulted, quiet⟩ := unhindered.filter
  intro refuses
  cases refuses with
  | line refused => cases refused.symm.trans unhindered.line
  | category refused => cases refused.symm.trans unhindered.category
  | filters refused => cases refused.symm.trans consulted
  | filter found error =>
    cases found.symm.trans consulted
    exact quiet error

theorem emitAgain_blames {f : Fault} (failed : (s.emitAgain react emitter r).1 = .error f) :
    Blames react emitter s r f := by
  by_cases broken : emitter = .broken
  · subst broken
    cases failed
    exact .broken rfl
  · rw [emitAgain_unbroken broken, emit] at failed
    cases decided : s.sinks.facility.emit r.message r.category r.line with | mk emission after =>
    rw [decided] at failed
    cases emission with
    | fails fault =>
      cases failed
      exact .refused (Facility.emit_refuses decided)
    | suppressed => cases failed
    | shown current =>
      cases current with
      | none => cases failed
      | some hook =>
        -- The hook is read after the filters were consulted, which leaves it alone.
        have kept := s.sinks.facility.emit_keeps_hook r.message r.category r.line
        rw [decided] at kept
        refine .hook (kept.symm.trans (Facility.emit_hook decided)) ?_
        rw [showAgain, decided]
        exact failed

theorem emitAgain_unhindered (unhindered : Unhindered react emitter s r) :
    (s.emitAgain react emitter r).1 = .ok () := by
  cases outcome : (s.emitAgain react emitter r).1 with
  | ok => rfl
  | error f =>
    exfalso
    cases emitAgain_blames outcome with
    | broken broken => exact unhindered.unbroken broken
    | refused refuses => exact unhindered.unrefused refuses
    | hook current raised => cases raised.symm.trans (unhindered.hook _ current)

theorem emitAgain_oversized (unbroken : emitter ≠ .broken) (large : 0x80000000 ≤ r.line)
    (word : r.line ≤ 0xffffffff) :
    s.emitAgain react emitter r = (.error Facility.oversized, s) := by
  rw [emitAgain_unbroken unbroken]
  exact emit_fails (s.sinks.facility.emit_refused (.inl (Facility.checkLine_large large word)))

/-- What the outcome of a call that emits a record again comes from. -/
structure Explained (react : Reaction) (emitter : FunctionState) (s : Session)
    (call : Reemission) : Prop where
  returned : Unhindered react emitter s call.record → call.outcome = .ok ()
  raised : ∀ f, call.outcome = .error f → Blames react emitter s call.record f
  oversized : emitter ≠ .broken → 0x80000000 ≤ call.record.line →
    call.record.line ≤ 0xffffffff → call.outcome = .error Facility.oversized

theorem emitAgain_explained {call : Reemission}
    (called : s.emitAgain react emitter call.record = (call.outcome, t)) :
    Explained react emitter s call := by
  have outcome : (s.emitAgain react emitter call.record).1 = call.outcome :=
    congrArg Prod.fst called
  refine ⟨fun unhindered => ?_, fun f failed => ?_, fun unbroken large word => ?_⟩
  · rw [← outcome, emitAgain_unhindered unhindered]
  · exact emitAgain_blames (outcome.trans failed)
  · rw [← outcome, emitAgain_oversized unbroken large word]

/-- Every call finds the session as the calls before it left it. -/
theorem Reemits.explained {earlier later : List Reemission} {call : Reemission}
    (reemits : Reemits react emitter buffer s (earlier ++ call :: later) t) :
    ∃ before, Reemits react emitter buffer s earlier before ∧
      Explained react emitter (before.add (.handed buffer call.record)) call := by
  induction earlier generalizing s with
  | nil =>
    cases reemits with
    | call called rest => exact ⟨s, .done s, emitAgain_explained called⟩
  | cons first earlier ih =>
    cases reemits with
    | call called rest =>
      obtain ⟨before, reached, explained⟩ := ih rest
      exact ⟨before, .call called reached, explained⟩

/-- The end of a test returns nothing for a record if nothing stands in its way, and otherwise what
the emitting function, the filters, the category or the hook raised for it. The line stands in the
way of a record if and only if the one that the observer was given exceeds a 32-bit integer. Such a
record is never emitted. -/
theorem replay_fails_for_a_cause (react : Reaction) (s : Session) (buffer : String)
    (something : s.pendingIn buffer ≠ []) (on : s.policy.replayUnflushed = true)
    (available : s.sinks.facility.warnExplicit ≠ .missing) :
    (∃ calls t,
      Reemits react s.sinks.facility.warnExplicit buffer (s.sweep buffer) calls t ∧
      calls.map Reemission.record = s.pendingIn buffer ∧
      (s.finish react buffer).1 = .ok (calls.filterMap Reemission.raised?) ∧
      ∀ earlier call later, calls = earlier ++ call :: later →
        ∃ before,
          Reemits react s.sinks.facility.warnExplicit buffer (s.sweep buffer) earlier before ∧
          Explained react s.sinks.facility.warnExplicit
            (before.add (.handed buffer call.record)) call) ∧
    ∀ message category file line r, Record.ofShown message category file line = .ok r →
      ∃ n, line.toWord = .ok n ∧ r.category = category ∧ r.line ≤ 0xffffffff ∧
        (0x80000000 ≤ r.line ↔ 0x80000000 ≤ n) ∧
        (Facility.checkLine r.line = .ok () ↔ n < 0x80000000) := by
  constructor
  · obtain ⟨calls, t, reemits, records, same⟩ := finish_reemits react something on available
    refine ⟨calls, t, reemits, records, congrArg Prod.fst same, ?_⟩
    rintro earlier call later rfl
    exact reemits.explained
  · intro message category file line r converted
    obtain ⟨n, word, below, clamped⟩ := Record.ofShown_fields converted
    obtain ⟨within, small⟩ := clampLine_bounds n
    rw [← clamped] at within small
    refine ⟨n, word, below, within, by omega, ?_⟩
    rw [← small]
    exact Facility.checkLine_ok_iff within

/-- A test in which the hook was called with a line that exceeds a 32-bit integer, and a warning was
emitted at another. -/
def overrun : Session :=
  ({} : Scene).play [.run "buffer" {}
    [.showWith (.value (.text "message")) .warning (.value (.text "file.py")) (.int 0x80000000),
      .warn "message" .warning "file.py" 1] (.returns .null)] bare

/-- Only the first of the two records fails. -/
theorem overrun_fails_for_its_line :
    overrun.pendingIn "buffer" = [⟨"message", .warning, "file.py", 0x80000000⟩, plain] ∧
    overrun.policy.replayUnflushed = true ∧ overrun.sinks.facility.warnExplicit ≠ .missing ∧
    (∃ calls t, Reemits (({} : Scene).reaction 0) .intact "buffer" (overrun.sweep "buffer") calls
        t ∧
      calls.map Reemission.record = overrun.pendingIn "buffer" ∧
      calls.filterMap Reemission.raised? = [Facility.oversized]) := by
  have records : overrun.pendingIn "buffer" =
      [⟨"message", .warning, "file.py", 0x80000000⟩, plain] := by decide +kernel
  have on : overrun.policy.replayUnflushed = true := by decide +kernel
  have intact : overrun.sinks.facility.warnExplicit = .intact := by decide +kernel
  have available : overrun.sinks.facility.warnExplicit ≠ .missing := by rw [intact]; decide
  obtain ⟨⟨calls, t, reemits, pending, result, _⟩, _⟩ :=
    replay_fails_for_a_cause (({} : Scene).reaction 0) overrun "buffer"
      (by rw [records]; exact List.cons_ne_nil _ _) on available
  rw [intact] at reemits
  have returned : (overrun.finish (({} : Scene).reaction 0) "buffer").1 =
      .ok [Facility.oversized] := by decide +kernel
  rw [returned] at result
  exact ⟨records, on, available, calls, t, reemits, pending, (Except.ok.inj result).symm⟩

/-- The filters would have the first record shown, by a hook that returns: what is raised is due to
the line alone, which the observer took. -/
theorem overlong_line_is_not_replayed :
    Record.ofShown (.value (.text "message")) .warning (.value (.text "file.py"))
        (.int 0x80000000) = .ok ⟨"message", .warning, "file.py", 0x80000000⟩ ∧
    Category.construct "message" .warning = .ok () ∧
    (∃ filters, overrun.sinks.facility.consult.1 = .ok filters ∧
      Filter.actionFor .warning filters = .default) ∧
    overrun.sinks.facility.hook = some .ambient ∧
    (overrun.callHook (({} : Scene).reaction 0) .ambient (.value (.text "message")) .warning
      (.value (.text "file.py")) (.int 0x80000000)).1 = .ok () ∧
    (overrun.finish (({} : Scene).reaction 0) "buffer").1 = .ok [Facility.oversized] := by
  refine ⟨by decide +kernel, rfl, ⟨_, rfl, by decide +kernel⟩, by decide +kernel, rfl,
    by decide +kernel⟩

end Session
end WarningCapture
