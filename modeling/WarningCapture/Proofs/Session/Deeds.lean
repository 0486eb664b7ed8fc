import WarningCapture.Proofs.Session.Calling
import WarningCapture.Proofs.Session.Replaying

/-! What a session does, to the letter. Every operation is a sequence of deeds, each of which says
exactly what becomes of the session, and of runs and calls of listeners with deeds of their own
inside. What holds of each deed holds of everything that a session comes to. -/
namespace WarningCapture

/-- Events that only tell of something, and that no rule of a session depends on. -/
def Event.telling : Event → Bool
  | shown .. | handed .. | replayed .. | scrubbed _ | panicked _ => true
  | _ => false

namespace Session

/-- One deed of a session. Only the given test ids are set other than by runs. -/
inductive Deed (Tags : Option String → Prop) : Session → Session → Prop where
  | arrange (s : Session) (modules : Modules) (types : CallableTypes) (cwd : String)
      (read : List String) (guards : Table (Option Nat)) (calls : Table Nat) :
      Deed Tags s { s with modules, types, cwd, read, guards, calls }
  | tag (s : Session) : Tags testId → Deed Tags s { s with logger := { s.logger with testId } }
  | note (s : Session) (n : Log.Notice) : Deed Tags s (s.note n)
  | report (s : Session) (err : CaptureError) : Deed Tags s (s.report err)
  | tell (s : Session) : e.telling = true → Deed Tags s (s.add e)
  | applyPolicy (s : Session) (disk : String → Log.Opening) (p : Policy) :
      Deed Tags s (s.applyPolicy disk p)
  | nameObserver (s : Session) (name : String) (collector : Collector) :
      Deed Tags s (s.nameObserver name collector)
  /-- The facility is written, but no observer comes to stand in for the hook. -/
  | write (s : Session) :
      (∀ o, f.hook = some (.observer o) → s.sinks.facility.hook = some (.observer o)) →
      Deed Tags s (s.withFacility f)
  | pushNamed (s : Session) (name : String) : Deed Tags s (s.moved [.push (s.observer name)])
  | pushNew (s : Session) (collector : Collector) :
      Deed Tags s ((s.newObserver collector).2.moved [.push (s.newObserver collector).1])
  | takeOff (s : Session) : m.TakesOff token → Deed Tags s (s.moved [m])
  /-- An observer delivers a record to its buffer. -/
  | store (s : Session) (buffer : String) (r : Record) :
      Deed Tags s ((s.add (.captured r)).store buffer r)
  /-- An observer whose listener is running drops a record. -/
  | dismiss (s : Session) (r : Record) : o.collector = .listener listener → s.isBusy o = true →
      Deed Tags s ((s.add (.captured r)).dropRecord o r)
  | place (s : Session) (buffer : String) (r : Record) : Deed Tags s (s.place buffer r)
  | takeOut (s : Session) (buffer : String) (claimed : Record → Bool) :
      Deed Tags s (s.takeOut buffer claimed)
  | sweep (s : Session) (buffer : String) : Deed Tags s (s.sweep buffer)
  /-- A buffer is written as it is. -/
  | touch (s : Session) (buffer : String) : Deed Tags s (s.setBuffer buffer (s.buffer buffer))
  | close (s : Session) (step : String) (outcome : Outcome) : Deed Tags s (s.close step outcome)

/-- A session comes to another by deeds. What is done in a run, or while a listener is called, is
done between its beginning and its end. -/
inductive Proceeds (Tags : Option String → Prop) : Session → Session → Prop where
  | deed : Deed Tags s t → Proceeds Tags s t
  | trans : Proceeds Tags s t → Proceeds Tags t u → Proceeds Tags s u
  | run {buffer : String} : Proceeds Tags (s.enterRun buffer) t →
      Proceeds Tags s (t.leaveRun buffer s.logger.testId)
  | call : s.Reaches o → o.collector = .listener listener → s.isBusy o = false →
      Proceeds Tags ((s.add (.captured r)).enterListener o listener r) t →
      Proceeds Tags s (t.leaveListener o)

/-- A session passes through another: it comes to it, or to a run or a call in which it is passed
through. -/
inductive Passes (Tags : Option String → Prop) : Session → Session → Prop where
  | now : Proceeds Tags s u → Passes Tags s u
  | running {buffer : String} : Proceeds Tags s t → Passes Tags (t.enterRun buffer) u →
      Passes Tags s u
  | called : Proceeds Tags s t → t.Reaches o → o.collector = .listener listener →
      t.isBusy o = false → Passes Tags ((t.add (.captured r)).enterListener o listener r) u →
      Passes Tags s u

end Session

/-- The test id of a line that names one; the complaint about a failed write names none. -/
def Log.Line.testId? : Log.Line → Option (Option String)
  | .notice _ testId => some testId
  | .trailer t => some t.testId
  | .writeFailure _ => none

namespace Event

/-- Each of the events stands in a relation to those before it. -/
def Each (P : Event → List Event → Prop) (events : List Event) : Prop :=
  ∀ e earlier, e :: earlier <:+ events → P e earlier

/-- The event begins and ends no run and no call of a listener. A line that it writes names no other
test, and what it drops was for an observer that is busy. -/
def Within (testId : Option String) (busy : List Nat) : Event → Prop
  | began _ | ended _ | called .. | returned _ => False
  | wrote line _ => ∀ named ∈ line.testId?, named = testId
  | dropped observer _ => observer ∈ busy
  | _ => True

theorem each_nil (P : Event → List Event → Prop) : Each P [] := by
  intro e earlier suffix
  exact absurd (List.suffix_nil.mp suffix) (List.cons_ne_nil e earlier)

variable {P : Event → List Event → Prop} {past : List Event}

theorem each_cons {e : Event} : Each P (e :: past) ↔ P e past ∧ Each P past := by
  constructor
  · intro each
    exact ⟨each e past (List.suffix_refl _),
      fun other earlier suffix => each other earlier (suffix.trans (List.suffix_cons e past))⟩
  · rintro ⟨here, before⟩ other earlier suffix
    rcases List.suffix_cons_iff.mp suffix with same | inside
    · cases same
      exact here
    · exact before other earlier inside

theorem each_append {later : List Event} (before : Each P past)
    (each : ∀ e ∈ later, ∀ between, between <:+ later → P e (between ++ past)) :
    Each P (later ++ past) := by
  induction later with
  | nil => exact before
  | cons e rest ih =>
    refine each_cons.mpr ⟨each e List.mem_cons_self rest (List.suffix_cons e rest), ih ?_⟩
    intro other member between suffix
    exact each other (List.mem_cons_of_mem e member) between
      (suffix.trans (List.suffix_cons e rest))

end Event

/-- What the logger writes names the test id of the moment, if anything. -/
theorem Log.Logger.write_testId {l : Log.Logger} {n : Log.Notice} {line : Log.Line}
    {outlet : Log.Outlet} (written : (line, outlet) ∈ l.write n) :
    ∀ named ∈ line.testId?, named = l.testId := by
  unfold write at written
  split at written
  · simp only at written
    split at written <;>
      simp only [List.mem_cons, List.not_mem_nil, or_false, Prod.mk.injEq] at written
    · obtain ⟨rfl, _⟩ := written
      simp [Line.testId?]
    · obtain ⟨rfl, _⟩ := written
      simp [Line.testId?]
    · rcases written with ⟨rfl, _⟩ | ⟨rfl, _⟩ <;> simp [Line.testId?]
  · cases written

namespace Session
variable {Tags : Option String → Prop} {s t u : Session}

theorem Passes.after {s t u : Session} (before : Proceeds Tags s t) (passes : Passes Tags t u) :
    Passes Tags s u := by
  cases passes with
  | now rest => exact .now (before.trans rest)
  | running rest inner => exact .running (before.trans rest) inner
  | called rest reaches collector idle inner =>
    exact .called (before.trans rest) reaches collector idle inner

/-- What holds of the events added on the way there and of those added from there on holds of all
that are added. -/
theorem told_trans {P : Event → Prop}
    (first : ∃ later, t.history = later ++ s.history ∧ ∀ e ∈ later, P e)
    (second : ∃ later, u.history = later ++ t.history ∧ ∀ e ∈ later, P e) :
    ∃ later, u.history = later ++ s.history ∧ ∀ e ∈ later, P e := by
  obtain ⟨es, told, holds⟩ := first
  obtain ⟨fs, toldNext, holdsNext⟩ := second
  refine ⟨fs ++ es, by rw [toldNext, told, List.append_assoc], fun e member => ?_⟩
  rcases List.mem_append.mp member with later | earlier
  · exact holdsNext e later
  · exact holds e earlier

/-- No run and no call of a listener begins or ends from one session to the other, and what is
written and dropped accords with the runs and calls of the first. -/
structure Steady (s t : Session) : Prop where
  testId : t.logger.testId = s.logger.testId
  busy : t.busy = s.busy
  ids : ∀ buffer, (t.buffer buffer).testId = (s.buffer buffer).testId
  running : ∀ buffer, (t.buffer buffer).running = (s.buffer buffer).running
  told : ∃ later, t.history = later ++ s.history ∧ ∀ e ∈ later, e.Within s.logger.testId s.busy

namespace Steady

theorem of_same (testId : t.logger.testId = s.logger.testId) (busy : t.busy = s.busy)
    (buffers : t.buffers = s.buffers) (history : t.history = s.history) : s.Steady t where
  testId := testId
  busy := busy
  ids buffer := congrArg Buffer.testId (buffer_congr buffers buffer)
  running buffer := congrArg Buffer.running (buffer_congr buffers buffer)
  told := ⟨[], history, by simp⟩

theorem trans (first : s.Steady t) (second : t.Steady u) : s.Steady u where
  testId := second.testId.trans first.testId
  busy := second.busy.trans first.busy
  ids buffer := (second.ids buffer).trans (first.ids buffer)
  running buffer := (second.running buffer).trans (first.running buffer)
  told := told_trans first.told (first.testId ▸ first.busy ▸ second.told)

theorem add (s : Session) (e : Event) (within : e.Within s.logger.testId s.busy) :
    s.Steady (s.add e) where
  testId := rfl
  busy := rfl
  ids _ := rfl
  running _ := rfl
  told := ⟨[e], rfl, by simpa using within⟩

theorem setBuffer (s : Session) (name : String) {b : Buffer}
    (testId : b.testId = (s.buffer name).testId) (running : b.running = (s.buffer name).running) :
    s.Steady (s.setBuffer name b) where
  testId := rfl
  busy := rfl
  ids other := by
    rw [buffer_setBuffer]
    split
    · rename_i same
      rw [same, testId]
    · rfl
  running other := by
    rw [buffer_setBuffer]
    split
    · rename_i same
      rw [same, running]
    · rfl
  told := ⟨[], rfl, by simp⟩

theorem rewrite (s : Session) (name : String) {b : Buffer} (e : Event)
    (testId : b.testId = (s.buffer name).testId) (running : b.running = (s.buffer name).running)
    (within : e.Within s.logger.testId s.busy) : s.Steady ((s.setBuffer name b).add e) :=
  (setBuffer s name testId running).trans (add _ e within)

theorem note (s : Session) (n : Log.Notice) : s.Steady (s.note n) := by
  unfold Session.note
  rw [addAll_eq]
  refine ⟨rfl, rfl, fun _ => rfl, fun _ => rfl, _, rfl, fun e member => ?_⟩
  rcases mem_noticed (List.mem_reverse.mp member) with ⟨_, _, written, rfl⟩ | ⟨_, _, _, rfl⟩
  · exact Log.Logger.write_testId written
  · trivial

theorem noteAll (s : Session) (ns : List Log.Notice) : s.Steady (s.noteAll ns) := by
  induction ns generalizing s with
  | nil => exact .of_same rfl rfl rfl rfl
  | cons n rest ih => exact (note s n).trans (ih _)

theorem report (s : Session) (err : CaptureError) : s.Steady (s.report err) := by
  have logged : s.Steady ((s.add (.reported err)).note (Log.errorNotice err)) :=
    (add s (.reported err) trivial).trans (note _ _)
  unfold Session.report
  simp only
  split
  · refine logged.trans (add _ _ ?_)
    simp [Event.Within, Log.Line.testId?, Log.Trailer.ofError]
  · exact logged

theorem applyPolicy (disk : String → Log.Opening) (s : Session) (p : Policy) :
    s.Steady (s.applyPolicy disk p) := by
  let put : Session := { s with policy := p }
  let complained := put.noteAll (put.logger.levelNotices p.logLevel)
  let levelled : Session :=
    { complained with logger := complained.logger.setLevel p.logLevel }
  have first : s.Steady complained :=
    (show s.Steady put from .of_same rfl rfl rfl rfl).trans (noteAll put _)
  have second : complained.Steady levelled := of_same rfl rfl rfl rfl
  have third := (first.trans second).trans
    (noteAll levelled (Log.Logger.fileNotices disk p.logFile))
  exact third.trans (of_same rfl rfl rfl rfl)

theorem configure (disk : String → Log.Opening) (s : Session) (u : Policy.Update) :
    s.Steady (s.configure disk u).2 := by
  unfold Session.configure
  split
  · exact report s _
  · exact applyPolicy disk s _

end Steady

/-- A deed begins and ends neither runs nor calls, and it leaves their state alone unless it sets
the test id. -/
theorem Deed.steady (deed : Deed Tags s t) :
    s.Steady t ∨
      ∃ testId, Tags testId ∧ t = { s with logger := { s.logger with testId } } := by
  cases deed with
  | tag _ given => exact .inr ⟨_, given, rfl⟩
  | note _ n => exact .inl (.note s n)
  | report _ err => exact .inl (.report s err)
  | tell _ telling =>
    rename_i e
    refine .inl (.add s e ?_)
    cases e <;> trivial
  | applyPolicy _ disk p => exact .inl (.applyPolicy disk s p)
  | arrange | nameObserver | write | pushNamed | pushNew | takeOff =>
    exact .inl (.of_same rfl rfl rfl rfl)
  | store _ buffer r =>
    have captured : s.Steady (s.add (.captured r)) := .add s _ trivial
    exact .inl (captured.trans (.rewrite _ buffer (.stored buffer r) rfl rfl trivial))
  | @dismiss o _ _ r _ busy =>
    have captured : s.Steady (s.add (.captured r)) := .add s _ trivial
    have running : o.id ∈ (s.add (.captured r)).busy := List.contains_iff_mem.mp busy
    exact .inl (captured.trans ((Steady.add _ (.dropped o.id r) running).trans (.note _ _)))
  | place _ buffer r => exact .inl (.rewrite s buffer (.placed buffer r) rfl rfl trivial)
  | takeOut _ buffer => exact .inl (.rewrite s buffer (.flushed buffer _) rfl rfl trivial)
  | sweep _ buffer => exact .inl (.rewrite s buffer (.taken buffer _ s.fate) rfl rfl trivial)
  | touch _ buffer => exact .inl (.setBuffer s buffer rfl rfl)
  | close => exact .inl (.add s (.finished _) trivial)

end Session
end WarningCapture
