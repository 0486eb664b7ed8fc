import WarningCapture.Session.Perform

/-! Remarks: events that only tell what the session shows and says. Logging and reporting add
remarks to the history and change nothing else. -/
namespace WarningCapture

/-- Events that move no record, and that begin, end and finish nothing. -/
def Event.aside : Event → Bool
  | stored .. | placed .. | called .. | returned .. | flushed .. | taken .. | handed .. => false
  | began .. | ended .. | finished _ => false
  | _ => true

namespace Session
variable {s t u : Session}

theorem buffer_congr (same : t.buffers = s.buffers) (name : String) :
    t.buffer name = s.buffer name := by
  simp only [buffer, same]

/-- The second session is the first one with remarks added to its history. -/
def Remarked (s t : Session) : Prop :=
  ∃ es : List Event, t = { s with history := es ++ s.history } ∧ ∀ e ∈ es, e.aside = true

namespace Remarked

theorem refl (s : Session) : s.Remarked s := ⟨[], rfl, by simp⟩

theorem trans (first : s.Remarked t) (second : t.Remarked u) : s.Remarked u := by
  obtain ⟨es, rfl, asides⟩ := first
  obtain ⟨fs, rfl, others⟩ := second
  refine ⟨fs ++ es, by simp, fun e member => ?_⟩
  rcases List.mem_append.mp member with later | earlier
  · exact others e later
  · exact asides e earlier

theorem sinks (remarked : s.Remarked t) : t.sinks = s.sinks := by
  obtain ⟨es, rfl, _⟩ := remarked
  rfl

theorem guards (remarked : s.Remarked t) : t.guards = s.guards := by
  obtain ⟨es, rfl, _⟩ := remarked
  rfl

theorem buffers (remarked : s.Remarked t) : t.buffers = s.buffers := by
  obtain ⟨es, rfl, _⟩ := remarked
  rfl

theorem busy (remarked : s.Remarked t) : t.busy = s.busy := by
  obtain ⟨es, rfl, _⟩ := remarked
  rfl

theorem history (remarked : s.Remarked t) : s.history <:+ t.history := by
  obtain ⟨es, rfl, _⟩ := remarked
  exact List.suffix_append es s.history

theorem events (remarked : s.Remarked t) :
    ∃ later, t.events = s.events ++ later ∧ ∀ e ∈ later, e.aside = true := by
  obtain ⟨es, rfl, asides⟩ := remarked
  exact ⟨es.reverse, List.reverse_append, fun e member => asides e (List.mem_reverse.mp member)⟩

end Remarked

theorem add_events (s : Session) (e : Event) : (s.add e).events = s.events ++ [e] :=
  List.reverse_cons

theorem add_remarked (s : Session) {e : Event} (aside : e.aside = true) : s.Remarked (s.add e) :=
  ⟨[e], rfl, by simpa using aside⟩

theorem addAll_remarked (s : Session) {es : List Event} (asides : ∀ e ∈ es, e.aside = true) :
    s.Remarked (s.addAll es) := by
  induction es generalizing s with
  | nil => exact .refl s
  | cons e rest ih =>
    have first := s.add_remarked (asides e List.mem_cons_self)
    exact first.trans (ih _ fun other member => asides other (List.mem_cons_of_mem _ member))

theorem addAll_eq (s : Session) (es : List Event) :
    s.addAll es = { s with history := es.reverse ++ s.history } := by
  induction es generalizing s with
  | nil => rfl
  | cons e rest ih =>
    have first : s.addAll (e :: rest) = (s.add e).addAll rest := rfl
    rw [first, ih]
    simp [add]

/-- All that comes of a notice is lines of the logger, and what the exception that it quotes
shows. -/
theorem mem_noticed {n : Log.Notice} {e : Event} (member : e ∈ s.noticed n) :
    (∃ line outlet, (line, outlet) ∈ s.logger.write n ∧ e = .wrote line outlet) ∨
      ∃ f showing, showing ∈ s.voice f ∧ e = .uttered showing := by
  unfold noticed at member
  split at member
  · cases member
  · rcases List.mem_append.mp member with spoken | written
    · obtain ⟨showing, said, rfl⟩ := List.mem_map.mp spoken
      cases quoted : n.quoted with
      | none =>
        rw [quoted] at said
        cases said
      | some f =>
        rw [quoted] at said
        exact .inr ⟨f, showing, said, rfl⟩
    · obtain ⟨⟨line, outlet⟩, among, rfl⟩ := List.mem_map.mp written
      exact .inl ⟨line, outlet, among, rfl⟩

/-- If no exception is quoted, only lines are written. -/
theorem noticed_unquoted {n : Log.Notice} (unquoted : n.quoted = none) :
    s.noticed n = (s.logger.write n).map fun (line, outlet) => .wrote line outlet := by
  rw [noticed, unquoted]
  cases s.logger.write n <;> rfl

theorem note_remarked (s : Session) (n : Log.Notice) : s.Remarked (s.note n) := by
  apply addAll_remarked
  intro e member
  rcases mem_noticed member with ⟨_, _, _, rfl⟩ | ⟨_, _, _, rfl⟩ <;> rfl

theorem noteAll_remarked (s : Session) (ns : List Log.Notice) : s.Remarked (s.noteAll ns) := by
  induction ns generalizing s with
  | nil => exact .refl s
  | cons n rest ih => exact (s.note_remarked n).trans (ih _)

theorem report_remarked (s : Session) (err : CaptureError) : s.Remarked (s.report err) := by
  have reported : s.Remarked (s.add (.reported err)) := s.add_remarked rfl
  have logged := reported.trans (note_remarked _ (Log.errorNotice err))
  simp only [report]
  split
  · exact logged.trans (add_remarked _ rfl)
  · exact logged

theorem raise_remarked (s : Session) (err : CaptureError) :
    s.Remarked (s.raise err : Attempt α).2 :=
  s.report_remarked err

theorem settle_remarked (s : Session) (called : Except Fault α)
    (restored : Except CaptureError Unit) : s.Remarked (s.settle called restored).2 := by
  cases restored with
  | ok => exact .refl s
  | error err =>
    cases called with
    | ok => exact s.raise_remarked err
    | error => exact s.note_remarked _

/-- To put a policy in force sets the logger by it, and remarks are made. -/
theorem applyPolicy_remarked (disk : String → Log.Opening) (s : Session) (p : Policy) :
    ∃ logger, ({ s with policy := p, logger, jsonErrors := p.jsonErrors } : Session).Remarked
      (s.applyPolicy disk p) := by
  let put : Session := { s with policy := p }
  obtain ⟨es, complained, asides⟩ := put.noteAll_remarked (put.logger.levelNotices p.logLevel)
  let levelled : Session :=
    { put with logger := put.logger.setLevel p.logLevel, history := es ++ s.history }
  obtain ⟨fs, told, others⟩ := levelled.noteAll_remarked (Log.Logger.fileNotices disk p.logFile)
  have changed : s.applyPolicy disk p =
      { levelled.noteAll (Log.Logger.fileNotices disk p.logFile) with
        logger := { (levelled.noteAll (Log.Logger.fileNotices disk p.logFile)).logger with
          destination := Log.Logger.destinationFor disk p.logFile }
        jsonErrors := p.jsonErrors } := by
    unfold applyPolicy
    simp only [put] at complained
    simp only [complained, levelled, put]
  refine ⟨{ levelled.logger with destination := Log.Logger.destinationFor disk p.logFile },
    fs ++ es, ?_, fun e member => (List.mem_append.mp member).elim (others e) (asides e)⟩
  rw [changed, told, List.append_assoc]

theorem scrubWith_remarked {σ κ : Type} [DecidableEq κ] (s : Session) (r : Registry σ κ) (x : σ) :
    s.Remarked (s.scrubWith r x).2.2 := by
  have walked := s.noteAll_remarked ((r.walk s.policy.maxScrubPasses x).1.notices
    s.policy.maxScrubPasses)
  unfold scrubWith
  simp only
  split
  · exact walked.trans (note_remarked _ _)
  · exact walked.trans ((add_remarked _ rfl).trans (note_remarked _ _))

theorem scrubModules_remarked (s : Session) :
    ∃ modules : Modules, { s with modules }.Remarked s.scrubModules.2 := by
  unfold scrubModules
  split
  · exact ⟨s.modules, .refl s⟩
  · obtain ⟨es, same, asides⟩ := s.scrubWith_remarked Modules.registry s.modules
    refine ⟨(s.scrubWith Modules.registry s.modules).2.1, es, ?_, asides⟩
    simp only [same]

theorem scrubBeforeCapture_remarked (s : Session) :
    ∃ modules, { s with modules }.Remarked s.scrubBeforeCapture := by
  unfold scrubBeforeCapture
  split
  · exact s.scrubModules_remarked
  · exact ⟨s.modules, .refl s⟩

theorem pushSink_remarked (s : Session) (o : Observer) :
    { s with sinks := (s.sinks.push o).2.1 }.Remarked (s.pushSink o).2 :=
  noteAll_remarked _ _

theorem releaseSink_remarked (s : Session) (token : Nat) (elsewhere : Bool) :
    { s with sinks := (s.sinks.release token elsewhere).2.1 }.Remarked
      (s.releaseSink token elsewhere).2 :=
  noteAll_remarked _ _

theorem dropSink_remarked (s : Session) (token : Nat) :
    { s with sinks := (s.sinks.drop token).1 }.Remarked (s.dropSink token) :=
  noteAll_remarked _ _

theorem releaseSink_sinks (s : Session) (token : Nat) (elsewhere : Bool) :
    (s.releaseSink token elsewhere).2.sinks = (s.sinks.release token elsewhere).2.1 :=
  (s.releaseSink_remarked token elsewhere).sinks

theorem releaseSink_guards (s : Session) (token : Nat) (elsewhere : Bool) :
    (s.releaseSink token elsewhere).2.guards = s.guards :=
  (s.releaseSink_remarked token elsewhere).guards

theorem releaseSink_busy (s : Session) (token : Nat) (elsewhere : Bool) :
    (s.releaseSink token elsewhere).2.busy = s.busy :=
  (s.releaseSink_remarked token elsewhere).busy

end Session
end WarningCapture
