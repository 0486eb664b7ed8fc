import WarningCapture.Proofs.Session.Remarks
import WarningCapture.Session.Trace

/-! Sessions without their logs. Erasing how a session logs and what it wrote leaves everything else
of it, of its steps and of its trace. What exceptions show as they are printed for the log is erased
as well, unless they are voiceless and show nothing. Sessions that are the same once this is erased
are the same but for the log, and writing to the log keeps them so. -/
namespace WarningCapture

/-- The policy without what it says of the log. -/
def Policy.unlogged (p : Policy) : Policy :=
  { p with logLevel := none, logFile := none, jsonErrors := false }

def Policy.Update.unlogged (u : Policy.Update) : Policy.Update :=
  { u with logLevel := none, logFile := none, jsonErrors := none }

/-- A logger that lets nothing through, in the same test. -/
def Log.Logger.silenced (l : Log.Logger) : Log.Logger :=
  { defaults := { fallback := .off }, current := { fallback := .off }, ceiling := .off,
    testId := l.testId }

/-- The result without what it shows of the policy for the log, and of the logger. -/
def Result.unlogged : Result → Result
  | policy p => policy p.unlogged
  | logState .. => logState .off []
  | result => result

def Outcome.unlogged : Outcome → Outcome
  | returned result => returned result.unlogged
  | outcome => outcome

def Entry.unlogged (e : Entry) : Entry := { e with outcome := e.outcome.unlogged }

theorem Entry.unlogged_unlogged (e : Entry) : e.unlogged.unlogged = e.unlogged := by
  obtain ⟨step, outcome⟩ := e
  cases outcome with
  | returned result => cases result <;> rfl
  | _ => rfl

/-- The event without what it shows of the log; a line written is none. What exceptions show as
they are printed is none either, but where they are voiceless. -/
def Event.unlogged? (voiceless : Bool) : Event → Option Event
  | wrote .. => none
  | uttered showing => if voiceless then some (uttered showing) else none
  | finished entry => some (finished entry.unlogged)
  | e => some e

theorem Event.unlogged?_of_kept {e : Event} (kept : e.unlogged? false = some e) (voiceless : Bool) :
    e.unlogged? voiceless = some e := by
  cases e with
  | wrote | uttered => cases kept
  | _ => exact kept

def Stretch.unlogged (voiceless : Bool) (stretch : Stretch) : Stretch :=
  ⟨stretch.entry.unlogged, stretch.events.filterMap (Event.unlogged? voiceless)⟩

mutual

/-- The step with updates of the policy that say nothing of the log. -/
def Step.unlogged : Step → Step
  | .run buffer arguments body ending => .run buffer arguments (allUnlogged body) ending
  | .collect listener arguments body ending =>
      .collect listener arguments (allUnlogged body) ending
  | .configure u => .configure u.unlogged
  | step => step

def allUnlogged : List Step → List Step
  | [] => []
  | step :: rest => step.unlogged :: allUnlogged rest

end

def Listener.unlogged (l : Listener) : Listener := { l with steps := allUnlogged l.steps }

/-- The scene with listeners that say nothing of the log; what the disk holds is of no concern. -/
def Scene.unlogged (scene : Scene) : Scene where
  listeners := scene.listeners.map fun entry => (entry.1, entry.2.unlogged)
  objects := scene.objects
  voice := scene.voice

/-- No exception shows anything as it is printed for the log. -/
def Scene.Voiceless (scene : Scene) : Prop := ∀ f, scene.voice f = []

namespace Session
variable {s t u : Session}

def Voiceless (s : Session) : Prop := ∀ f, s.voice f = []

open Classical in
noncomputable def unlogged (s : Session) : Session :=
  { s with
    policy := s.policy.unlogged
    logger := s.logger.silenced
    jsonErrors := false
    history := s.history.filterMap (Event.unlogged? (decide s.Voiceless)) }

/-- The sessions differ in how they log and in what they wrote, and in nothing else. -/
def SameButLog (s t : Session) : Prop := s.unlogged = t.unlogged

namespace SameButLog

theorem refl (s : Session) : s.SameButLog s := rfl

theorem symm (alike : s.SameButLog t) : t.SameButLog s := Eq.symm alike

theorem trans (first : s.SameButLog t) (second : t.SameButLog u) : s.SameButLog u :=
  Eq.trans first second

/-- What reads nothing of the log reads the same of both. -/
theorem read (alike : s.SameButLog t) {α : Type} (f : Session → α)
    (blind : ∀ x, f x.unlogged = f x) : f s = f t := by
  rw [← blind s, ← blind t, alike]

/-- What writes nothing to the log does the same to both. -/
theorem act (alike : s.SameButLog t) (f : Session → Session)
    (blind : ∀ x, (f x).unlogged = f x.unlogged) : (f s).SameButLog (f t) := by
  rw [SameButLog, blind, blind, alike]

theorem modules (alike : s.SameButLog t) : s.modules = t.modules := alike.read _ fun _ => rfl
theorem cwd (alike : s.SameButLog t) : s.cwd = t.cwd := alike.read _ fun _ => rfl
theorem testId (alike : s.SameButLog t) : s.logger.testId = t.logger.testId :=
  alike.read (fun x => x.logger.testId) fun _ => rfl

theorem buffer (alike : s.SameButLog t) (name : String) : s.buffer name = t.buffer name :=
  alike.read (fun x => x.buffer name) fun _ => rfl

theorem add (alike : s.SameButLog t) {e : Event} (kept : e.unlogged? false = some e) :
    (s.add e).SameButLog (t.add e) := by
  refine alike.act (fun x => x.add e) fun x => ?_
  have still : ∀ voiceless, e.unlogged? voiceless = some e := Event.unlogged?_of_kept kept
  simp only [Session.add, unlogged, List.filterMap_cons, still]
  rfl

end SameButLog

/-- Events that are erased make no difference. -/
theorem erased_sameButLog (s : Session) {es : List Event}
    (erased : ∀ e ∈ es, ∀ voiceless, (voiceless = true ↔ s.Voiceless) →
      e.unlogged? voiceless = none) :
    { s with history := es ++ s.history }.SameButLog s := by
  classical
  have gone : es.filterMap (Event.unlogged? (decide s.Voiceless)) = [] :=
    List.filterMap_eq_nil_iff.mpr fun e member => erased e member _ decide_eq_true_iff
  have history : { s with history := es ++ s.history }.unlogged.history = s.unlogged.history := by
    have all : { s with history := es ++ s.history }.unlogged.history =
        (es ++ s.history).filterMap (Event.unlogged? (decide s.Voiceless)) := rfl
    rw [all, List.filterMap_append, gone]
    rfl
  exact congrArg (fun past => { s.unlogged with history := past }) history

theorem wrote_sameButLog (s : Session) (line : Log.Line) (outlet : Log.Outlet) :
    (s.add (.wrote line outlet)).SameButLog s := rfl

theorem note_sameButLog (s : Session) (n : Log.Notice) : (s.note n).SameButLog s := by
  rw [note, addAll_eq]
  refine s.erased_sameButLog fun e member voiceless shows => ?_
  rcases mem_noticed (List.mem_reverse.mp member) with ⟨_, _, _, rfl⟩ | ⟨f, showing, said, rfl⟩
  · rfl
  · have heard : voiceless = false := by
      rw [← Bool.not_eq_true, shows]
      intro nothing
      rw [nothing f] at said
      cases said
    rw [heard]
    rfl

theorem noteAll_sameButLog (s : Session) (ns : List Log.Notice) : (s.noteAll ns).SameButLog s := by
  induction ns generalizing s with
  | nil => exact .refl s
  | cons n rest ih => exact (ih _).trans (s.note_sameButLog n)

theorem report_sameButLog (s : Session) (err : CaptureError) :
    (s.report err).SameButLog (s.add (.reported err)) := by
  have logged := (s.add (.reported err)).note_sameButLog (Log.errorNotice err)
  unfold report
  simp only
  split
  · exact (wrote_sameButLog _ _ _).trans logged
  · exact logged

theorem applyPolicy_sameButLog (disk : String → Log.Opening) (s : Session) (p : Policy) :
    (s.applyPolicy disk p).SameButLog { s with policy := p } := by
  let put : Session := { s with policy := p }
  let complained := put.noteAll (put.logger.levelNotices p.logLevel)
  let levelled : Session := { complained with logger := complained.logger.setLevel p.logLevel }
  let told := levelled.noteAll (Log.Logger.fileNotices disk p.logFile)
  have first : levelled.SameButLog complained := rfl
  have second : told.SameButLog levelled := noteAll_sameButLog levelled _
  have third : (s.applyPolicy disk p).SameButLog told := rfl
  exact third.trans (second.trans (first.trans (noteAll_sameButLog put _)))

end Session
end WarningCapture
