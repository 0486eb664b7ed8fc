import WarningCapture.Proofs.Session.Deeds

/-! Quiet stretches of a session. Most of what a session does raises and reports no error, returns
no records, and describes and finishes nothing. What is quiet may be put between any two things that
are not, so that of the story of an operation only its answer is left. -/
namespace WarningCapture

/-- Events that neither answer nor finish anything, that describe no error, and that take nothing
out to be emitted again. -/
def Event.quiet : Event → Bool
  | reported _ | flushed .. | replayed .. | finished _ => false
  | taken _ _ .replayed | wrote (.trailer _) _ => false
  | _ => true

/-- What the logger makes of a notice describes no error. -/
theorem Log.Logger.write_quiet {l : Log.Logger} {n : Log.Notice} {line : Log.Line}
    {outlet : Log.Outlet} (written : (line, outlet) ∈ l.write n) :
    (Event.wrote line outlet).quiet = true := by
  unfold write at written
  split at written
  · simp only at written
    split at written <;>
      simp only [List.mem_cons, List.not_mem_nil, or_false, Prod.mk.injEq] at written
    · obtain ⟨rfl, _⟩ := written
      rfl
    · obtain ⟨rfl, _⟩ := written
      rfl
    · rcases written with ⟨rfl, _⟩ | ⟨rfl, _⟩ <;> rfl
  · cases written

theorem Event.incidental_quiet {e : Event} (incidental : e.incidental = true) : e.quiet = true := by
  cases e <;> first | rfl | cases incidental

namespace Session

/-- Nothing was answered, finished or described, and no policy was put in force. -/
structure Quiet (s t : Session) : Prop where
  policy : t.policy = s.policy
  jsonErrors : t.jsonErrors = s.jsonErrors
  told : ∃ later, t.history = later ++ s.history ∧ ∀ e ∈ later, e.quiet = true

namespace Quiet
variable {s t u : Session}

theorem of_same (policy : t.policy = s.policy) (jsonErrors : t.jsonErrors = s.jsonErrors)
    (history : t.history = s.history) : s.Quiet t :=
  ⟨policy, jsonErrors, [], history, by simp⟩

theorem refl (s : Session) : s.Quiet s := .of_same rfl rfl rfl

theorem trans (first : s.Quiet t) (second : t.Quiet u) : s.Quiet u where
  policy := second.policy.trans first.policy
  jsonErrors := second.jsonErrors.trans first.jsonErrors
  told := told_trans first.told second.told

theorem of_event {e : Event} (policy : t.policy = s.policy)
    (jsonErrors : t.jsonErrors = s.jsonErrors) (history : t.history = e :: s.history)
    (isQuiet : e.quiet = true) : s.Quiet t :=
  ⟨policy, jsonErrors, [e], history, by simpa using isQuiet⟩

theorem note (s : Session) (n : Log.Notice) : s.Quiet (s.note n) := by
  unfold Session.note
  rw [addAll_eq]
  refine ⟨rfl, rfl, _, rfl, fun e member => ?_⟩
  rcases mem_noticed (List.mem_reverse.mp member) with ⟨_, _, written, rfl⟩ | ⟨_, _, _, rfl⟩
  · exact Log.Logger.write_quiet written
  · rfl

theorem noteAll (s : Session) (ns : List Log.Notice) : s.Quiet (s.noteAll ns) := by
  induction ns generalizing s with
  | nil => exact .refl s
  | cons n rest ih => exact (note s n).trans (ih _)

/-- The failure of a rollback is only logged. -/
theorem pushSink (s : Session) (o : Observer) : s.Quiet (s.pushSink o).2 :=
  (Quiet.of_same rfl rfl rfl : s.Quiet { s with sinks := (s.sinks.push o).2.1 }).trans
    (.noteAll _ _)

theorem releaseSink (s : Session) (token : Nat) (elsewhere : Bool) :
    s.Quiet (s.releaseSink token elsewhere).2 :=
  (Quiet.of_same rfl rfl rfl :
    s.Quiet { s with sinks := (s.sinks.release token elsewhere).2.1 }).trans (.noteAll _ _)

/-- The failure to take off a dropped sink is only logged. -/
theorem dropSink (s : Session) (token : Nat) : s.Quiet (s.dropSink token) :=
  (Quiet.of_same rfl rfl rfl : s.Quiet { s with sinks := (s.sinks.drop token).1 }).trans
    (.noteAll _ _)

theorem pushNew (collector : Collector) {outcome : Except CaptureError Nat}
    (pushed : (s.newObserver collector).2.pushSink (s.newObserver collector).1 = (outcome, t)) :
    s.Quiet t := by
  have counted : s.Quiet (s.newObserver collector).2 := .of_same rfl rfl rfl
  rw [← show _ = t from congrArg Prod.snd pushed]
  exact counted.trans (.pushSink _ _)

theorem enterRun (s : Session) (buffer : String) : s.Quiet (s.enterRun buffer) :=
  .of_event rfl rfl rfl rfl

theorem leaveRun (s : Session) (buffer : String) (testId : Option String) :
    s.Quiet (s.leaveRun buffer testId) :=
  .of_event rfl rfl rfl rfl

theorem capture (s : Session) (r : Record) : s.Quiet (s.add (.captured r)) :=
  .of_event rfl rfl rfl rfl

theorem enterListener (s : Session) (o : Observer) (listener : String) (r : Record) :
    s.Quiet (s.enterListener o listener r) :=
  .of_event rfl rfl rfl rfl

theorem leaveListener (s : Session) (o : Observer) : s.Quiet (s.leaveListener o) :=
  .of_event rfl rfl rfl rfl

theorem dropRecord (s : Session) (o : Observer) (r : Record) : s.Quiet (s.dropRecord o r) :=
  (Quiet.of_event rfl rfl rfl rfl : s.Quiet (s.add (.dropped o.id r))).trans (.note _ _)

theorem hand (s : Session) (buffer : String) (r : Record) : s.Quiet (s.add (.handed buffer r)) :=
  .of_event rfl rfl rfl rfl

end Quiet

/-- To report an error is to log it, and to describe it if that is asked for. -/
theorem report_told (s : Session) (err : CaptureError) :
    (s.report err).policy = s.policy ∧ (s.report err).jsonErrors = s.jsonErrors ∧
    ∃ lines, (∀ e ∈ lines, e.quiet = true) ∧
      (s.report err).history =
        (if s.jsonErrors then [.wrote (.trailer (.ofError err s.logger.testId)) .stderr] else []) ++
          lines ++ .reported err :: s.history := by
  have noted := Quiet.note (s.add (.reported err)) (Log.errorNotice err)
  have testId := (Steady.note (s.add (.reported err)) (Log.errorNotice err)).testId
  obtain ⟨lines, told, quiet⟩ := noted.told
  have switch : ((s.add (.reported err)).note (Log.errorNotice err)).jsonErrors = s.jsonErrors :=
    noted.jsonErrors
  unfold report
  simp only [switch]
  split
  · refine ⟨noted.policy, noted.jsonErrors, lines, quiet, ?_⟩
    show _ :: ((s.add (.reported err)).note (Log.errorNotice err)).history = _
    rw [told, testId]
    rfl
  · exact ⟨noted.policy, noted.jsonErrors, lines, quiet, told⟩

/-- To put a policy in force is quiet, but for the policy. -/
theorem applyPolicy_told (disk : String → Log.Opening) (s : Session) (p : Policy) :
    (s.applyPolicy disk p).policy = p ∧ (s.applyPolicy disk p).jsonErrors = p.jsonErrors ∧
    ∃ lines, (∀ e ∈ lines, e.quiet = true) ∧
      (s.applyPolicy disk p).history = lines ++ s.history := by
  let put : Session := { s with policy := p }
  let complained := put.noteAll (put.logger.levelNotices p.logLevel)
  let levelled : Session :=
    { complained with logger := complained.logger.setLevel p.logLevel }
  have quiet : put.Quiet (levelled.noteAll (Log.Logger.fileNotices disk p.logFile)) :=
    (Quiet.noteAll put _).trans
      ((Quiet.of_same rfl rfl rfl : complained.Quiet levelled).trans (.noteAll _ _))
  obtain ⟨lines, told, quietLines⟩ := quiet.told
  exact ⟨quiet.policy, rfl, lines, quietLines, told⟩

theorem Handles.quiet {s t : Session} (handles : s.Handles t) : s.Quiet t := by
  induction handles with
  | refl s => exact .refl s
  | trans _ _ first second => exact first.trans second
  | push s name => exact .pushSink s _
  | release s token elsewhere => exact .releaseSink s token elsewhere
  | drop s token => exact .dropSink s token
  | set s guard held => exact .of_same rfl rfl rfl

/-- Within the bounds a relation with answers holds of everything that answers or sets a policy, and
quiet stretches, before it or after, do not matter to it. -/
structure Neutral (b : Bounds) (R : Session → Option Answer → Session → Prop) : Prop where
  quiet : ∀ {s t}, s.Quiet t → R s none t
  trans : ∀ {s t u answer}, R s none t → R t answer u → R s answer u
  settle : ∀ {s t u answer}, R s answer t → t.Quiet u → R s answer u
  inside : ∀ {s t}, b.inside s t → R s none t
  apply : ∀ s disk {p}, b.sets s.policy p → R s none (s.applyPolicy disk p)
  report : ∀ s err, R s (some (.error err)) (s.report err)
  again : ∀ s {err}, b.given err → R s (some (.error err)) s
  flush : ∀ s buffer records, R s (some (.records records)) (s.add (.flushed buffer records))
  pass : ∀ s, R s (some (.faults [])) s
  replay : ∀ {s t buffer raised}, s.fate = .replayed → R (s.sweep buffer) none t →
    raised.length ≤ (s.pendingIn buffer).length →
    R s (some (.faults raised)) (t.add (.replayed buffer (s.pendingIn buffer).length raised))

/-- What an operation answers is all that matters to such a relation. -/
theorem Story.keeps {b : Bounds} {R : Session → Option Answer → Session → Prop}
    (neutral : Neutral b R) {s t : Session} {owed : List (String × Record)}
    {answer : Option Answer} (story : Story b s owed answer t) : R s answer t := by
  induction story with
  | trans _ _ first second => exact neutral.trans first second
  | arrange | nameObserver | tag | write | touch => exact neutral.quiet (.of_same rfl rfl rfl)
  | applyPolicy s disk sets => exact neutral.apply s disk sets
  | note s n => exact neutral.quiet (.note s n)
  | tell s incidental =>
    exact neutral.quiet (.of_event rfl rfl rfl (Event.incidental_quiet incidental))
  | report s err => exact neutral.report s err
  | again s given => exact neutral.again s given
  | guard _ _ handles => exact neutral.quiet handles.quiet
  | guardFailed _ _ handles =>
    exact neutral.trans (neutral.quiet handles.quiet) (neutral.report _ _)
  | store s buffer r => exact neutral.quiet ((Quiet.capture s r).trans (.of_event rfl rfl rfl rfl))
  | dismiss s r => exact neutral.quiet ((Quiet.capture s r).trans (.dropRecord _ _ r))
  | call _ _ _ called =>
    exact neutral.trans (neutral.quiet ((Quiet.capture _ _).trans (.enterListener _ _ _ _)))
      (neutral.settle (neutral.inside called) (.leaveListener _ _))
  | place => exact neutral.quiet (.of_event rfl rfl rfl rfl)
  | flush s buffer claimed =>
    have removed : s.Quiet (s.setBuffer buffer { s.buffer buffer with
        records := (s.buffer buffer).records.filter (!claimed ·) }) := .of_same rfl rfl rfl
    exact neutral.trans (neutral.quiet removed)
      (neutral.settle (neutral.flush _ buffer _) (.note _ _))
  | discard s buffer away =>
    refine neutral.quiet (.of_event rfl rfl rfl ?_)
    cases fate : s.fate with
    | replayed => exact absurd fate away
    | discarded | lost => rfl
  | pass s => exact neutral.pass s
  | replay fate _ bound inside => exact neutral.replay fate inside bound
  | hand _ _ emitted rest =>
    exact neutral.trans (neutral.quiet (.hand _ _ _)) (neutral.trans emitted rest)
  | refuse refused => exact neutral.quiet (.pushNew _ refused)
  | capture installed called =>
    exact neutral.trans (neutral.quiet (.pushNew _ installed))
      (neutral.settle (neutral.inside called) (.releaseSink _ _ _))
  | run _ inside =>
    exact neutral.trans (neutral.quiet (.enterRun _ _)) (neutral.settle inside (.leaveRun _ _ _))

end Session
end WarningCapture
