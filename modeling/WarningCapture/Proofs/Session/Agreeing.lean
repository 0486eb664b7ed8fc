import WarningCapture.Proofs.Session.Likeness
import WarningCapture.Proofs.Session.Silencing

/-! Sessions that are the same but for the log are alike. What has to do with the policy, the log,
the modules or the directory comes to the same in both, but for what it shows of the log, and so
does everything else, whatever the two write to their logs on the way. -/
namespace WarningCapture

namespace Session.SameButLog
variable {s t : Session}

theorem note (alike : s.SameButLog t) (n : Log.Notice) : (s.note n).SameButLog (t.note n) :=
  (s.note_sameButLog n).trans (alike.trans (t.note_sameButLog n).symm)

theorem noteAll (alike : s.SameButLog t) (ns : List Log.Notice) :
    (s.noteAll ns).SameButLog (t.noteAll ns) :=
  (s.noteAll_sameButLog ns).trans (alike.trans (t.noteAll_sameButLog ns).symm)

theorem report (alike : s.SameButLog t) (err : CaptureError) :
    (s.report err).SameButLog (t.report err) :=
  (s.report_sameButLog err).trans ((alike.add rfl).trans (t.report_sameButLog err).symm)

theorem scrubWith {σ κ : Type} [DecidableEq κ] (alike : s.SameButLog t) (r : Registry σ κ) (x : σ) :
    (s.scrubWith r x).1 = (t.scrubWith r x).1 ∧ (s.scrubWith r x).2.1 = (t.scrubWith r x).2.1 ∧
      (s.scrubWith r x).2.2.SameButLog (t.scrubWith r x).2.2 := by
  have passes : s.policy.maxScrubPasses = t.policy.maxScrubPasses :=
    alike.read (fun x => x.policy.maxScrubPasses) fun _ => rfl
  unfold Session.scrubWith
  rw [← passes]
  generalize r.walk s.policy.maxScrubPasses x = walked
  have noted := alike.noteAll (walked.1.notices s.policy.maxScrubPasses)
  simp only
  split
  · exact ⟨rfl, rfl, noted.note _⟩
  · exact ⟨rfl, rfl, SameButLog.note (noted.add rfl) _⟩

theorem scrubModules (alike : s.SameButLog t) :
    Agree SameButLog s.scrubModules t.scrubModules := by
  obtain ⟨outcome, modules, after⟩ := alike.scrubWith Modules.registry s.modules
  unfold Session.scrubModules
  rw [← alike.modules]
  split
  · exact ⟨rfl, alike⟩
  · refine ⟨outcome, ?_⟩
    simp only
    rw [modules]
    exact after.act (fun x => { x with modules := _ }) fun _ => rfl

theorem act_of_blind (alike : s.SameButLog t) {f : Session → Session} (blind : Blind f) :
    (f s).SameButLog (f t) := by
  refine alike.act f fun x => ?_
  calc (f x).unlogged = ((f x).amid x).unlogged := congrArg unlogged (blind x x)
    _ = (f x).amid x.unlogged := rfl
    _ = f x.unlogged := (blind x x.unlogged).symm

end Session.SameButLog

namespace Session
variable {s t : Session}

theorem sameButLog_likeness : Likeness SameButLog where
  rest {_ t} alike := (congrArg (fun x => x.amid t) alike :)
  act alike _ blind := alike.act_of_blind blind
  testId alike := alike.testId
  setTestId alike testId :=
    alike.act (fun x => { x with logger := { x.logger with testId } }) fun _ => rfl
  scrubs alike := alike.read (fun x => x.policy.scrubRegistry) fun _ => rfl
  replays alike := alike.read (fun x => x.policy.replayUnflushed) fun _ => rfl
  add alike e plain := alike.add (by cases e <;> first | rfl | cases plain)
  note alike n := alike.note n
  report alike err := alike.report err
  scrub alike := alike.scrubModules

namespace SameButLog

theorem raise {α : Type} (alike : s.SameButLog t) (err : CaptureError) :
    Agree SameButLog (s.raise err : Attempt α) (t.raise err) :=
  sameButLog_likeness.raise alike err

theorem resolve (alike : s.SameButLog t) (objects : HostObjects) (targets : List String) :
    s.resolve objects targets = t.resolve objects targets :=
  alike.read (fun x => x.resolve objects targets) fun _ => rfl

theorem noteResolution (alike : s.SameButLog t) (r : Resolution) :
    (s.noteResolution r).SameButLog (t.noteResolution r) :=
  SameButLog.noteAll (alike.act (fun x => { x with read := r.read ++ x.read }) fun _ => rfl) _

theorem functionLines (alike : s.SameButLog t) (objects : HostObjects) (target : String) :
    Agree SameButLog (s.functionLines objects target) (t.functionLines objects target) := by
  unfold Session.functionLines
  rw [← alike.resolve objects [target]]
  split
  · exact alike.raise _
  · exact ⟨rfl, alike.noteResolution _⟩

theorem origins (alike : s.SameButLog t) (objects : HostObjects) (targets : List String)
    (queries : List (String × Nat)) :
    Agree SameButLog (s.origins objects targets queries) (t.origins objects targets queries) := by
  unfold Session.origins
  rw [← alike.resolve objects targets]
  split
  · exact alike.raise _
  · exact ⟨rfl, (alike.noteResolution _).noteAll _⟩

theorem flush (alike : s.SameButLog t) (objects : HostObjects) (buffer : String)
    (targets : TargetList) :
    Agree SameButLog (s.flush objects buffer targets) (t.flush objects buffer targets) := by
  unfold Session.flush
  rw [← alike.buffer buffer, ← alike.cwd]
  split
  · exact sameButLog_likeness.takeRecords alike buffer _ _
  · exact ⟨rfl, alike⟩
  · rename_i names
    rw [← alike.resolve objects names]
    split
    · exact alike.raise _
    · exact sameButLog_likeness.takeRecords ((alike.noteResolution _).noteAll _) buffer _ _

theorem applied (alike : s.SameButLog t) {u u' : Policy.Update} (same : u.unlogged = u'.unlogged) :
    (s.policy.apply u).unlogged = (t.policy.apply u').unlogged := by
  have policies : s.policy.unlogged = t.policy.unlogged := congrArg Session.policy alike
  have both : ∀ (p : Policy) (u : Policy.Update),
      (p.apply u).unlogged = p.unlogged.apply u.unlogged := fun _ _ => rfl
  rw [both, both, policies, same]

theorem setPolicy (alike : s.SameButLog t) {p q : Policy} (same : p.unlogged = q.unlogged)
    (disk disk' : String → Log.Opening) :
    (s.applyPolicy disk p).SameButLog (t.applyPolicy disk' q) := by
  have put : { s with policy := p }.SameButLog { t with policy := q } := by
    have left : { s with policy := p }.unlogged = { s.unlogged with policy := p.unlogged } := rfl
    have right : { t with policy := q }.unlogged = { t.unlogged with policy := q.unlogged } := rfl
    rw [SameButLog, left, right, same, alike]
  exact (applyPolicy_sameButLog disk s p).trans (put.trans (applyPolicy_sameButLog disk' t q).symm)

theorem configure (alike : s.SameButLog t) {u u' : Policy.Update} (same : u.unlogged = u'.unlogged)
    (disk disk' : String → Log.Opening) :
    Agree SameButLog (s.configure disk u) (t.configure disk' u') := by
  have passes : u.unlogged.maxScrubPasses = u'.unlogged.maxScrubPasses :=
    congrArg Policy.Update.maxScrubPasses same
  change u.maxScrubPasses = u'.maxScrubPasses at passes
  unfold Session.configure Policy.configure
  rw [← passes]
  by_cases none : u.maxScrubPasses = some 0
  · simp only [none, if_true]
    exact alike.raise _
  · simp only [none, if_false]
    exact ⟨rfl, alike.setPolicy (alike.applied same) disk disk'⟩

theorem configureFrom (alike : s.SameButLog t) (env : Environment)
    (disk disk' : String → Log.Opening) :
    Agree SameButLog (s.configureFrom disk env) (t.configureFrom disk' env) := by
  unfold Session.configureFrom
  split
  · exact alike.raise _
  · exact ⟨rfl, alike.setPolicy (alike.applied rfl) disk disk'⟩

theorem setModules (alike : s.SameButLog t)
    (change : Table (Option Module) → Table (Option Module)) :
    (s.setModules (change s.modules.entries)).SameButLog
      (t.setModules (change t.modules.entries)) :=
  alike.act (fun x => x.setModules (change x.modules.entries)) fun _ => rfl

theorem giveCache (alike : s.SameButLog t) (name : String) :
    (s.giveCache name).SameButLog (t.giveCache name) := by
  unfold Session.giveCache
  rw [← alike.modules]
  split
  · exact alike.act (fun x => x.setModules _) fun _ => rfl
  · exact alike

theorem close (alike : s.SameButLog t) (step : String) {o o' : Outcome}
    (same : o.unlogged = o'.unlogged) : (s.close step o).SameButLog (t.close step o') := by
  have left : (s.close step o).unlogged = s.unlogged.close step o.unlogged := rfl
  have right : (t.close step o').unlogged = t.unlogged.close step o'.unlogged := rfl
  rw [SameButLog, left, right, same, alike]

end SameButLog
end Session

theorem Table.get?_map {α β : Type} (f : α → β) (name : String) (t : Table α) :
    Table.get? name (t.map fun entry => (entry.1, f entry.2)) = (Table.get? name t).map f := by
  induction t with
  | nil => rfl
  | cons entry rest ih =>
    simp only [List.map_cons, Table.get?, ih]
    split <;> rfl

namespace Scene
variable (scene : Scene)

theorem listener_unlogged (name : String) :
    scene.unlogged.listener name = (scene.listener name).unlogged := by
  unfold Scene.listener Scene.unlogged
  rw [Table.get?_map]
  cases Table.get? name scene.listeners <;> rfl

theorem totalLimit_unlogged : scene.unlogged.totalLimit = scene.totalLimit := by
  unfold Scene.totalLimit Scene.unlogged
  rw [List.foldl_map]
  rfl

end Scene

/-- A step and what is left of it without the log. -/
def Step.Unlogs (step step' : Step) : Prop := step' = step.unlogged

mutual

theorem Step.corresponds_unlogged (step : Step) : step.Corresponds Step.Unlogs step.unlogged := by
  cases step with
  | run _ _ body | collect _ _ body => exact ⟨_, rfl, allCorrespond_unlogged body⟩
  | _ => exact (rfl : Step.Unlogs _ _)

theorem allCorrespond_unlogged (steps : List Step) :
    AllCorrespond Step.Unlogs steps (allUnlogged steps) := by
  cases steps with
  | nil => rfl
  | cons step rest =>
    exact ⟨_, _, rfl, step.corresponds_unlogged, allCorrespond_unlogged rest⟩

end

/-- A step shows the same with what is left of it, but for the log. -/
theorem Session.SameButLog.performPlain {s t : Session} (alike : s.SameButLog t) (scene : Scene)
    {react react' : Reaction} (calls : react.Agree SameButLog react') (step : Step) :
    EndAlike Outcome.unlogged SameButLog (s.performPlain scene react step)
      (t.performPlain scene.unlogged react' step.unlogged) := by
  have objects : scene.objects = scene.unlogged.objects := rfl
  have callable : ∀ name,
      (scene.listener name).callable = (scene.unlogged.listener name).callable := fun name => by
    rw [scene.listener_unlogged]
    rfl
  cases step with
  | run | collect => exact ⟨rfl, alike⟩
  | flush buffer targets => exact ((alike.flush scene.objects buffer targets).of _).ends _
  | functionLines target => exact ((alike.functionLines scene.objects target).of _).ends _
  | origins targets queries => exact ((alike.origins scene.objects targets queries).of _).ends _
  | modules =>
    exact ⟨congrArg (fun shown => Outcome.returned (.modules shown))
      (alike.read moduleStates fun _ => rfl), alike⟩
  | setModule name m => exact ⟨rfl, alike.setModules (Table.put name m)⟩
  | deleteModule name => exact ⟨rfl, alike.setModules (Table.erase name)⟩
  | giveCache name => exact ⟨rfl, alike.giveCache name⟩
  | changeDirectory cwd => exact ⟨rfl, alike.act (fun x => { x with cwd }) fun _ => rfl⟩
  | configure update =>
    have same : update.unlogged = update.unlogged.unlogged := rfl
    exact ((alike.configure same scene.disk scene.unlogged.disk).of _).ends _
  | configureFrom env => exact ((alike.configureFrom env _ _).of _).ends _
  | policy =>
    have policies : s.policy.unlogged = t.policy.unlogged := congrArg Session.policy alike
    exact ⟨congrArg (fun p => Outcome.returned (.policy p)) policies, alike⟩
  | logState => exact ⟨rfl, alike⟩
  | _ => exact (sameButLog_likeness.performOrdinary alike objects callable calls rfl).ends _

/-- A scene and what is left of it without the log are played alike. -/
theorem Scene.parallel_unlogged (scene : Scene) :
    scene.Parallel Step.Unlogs Outcome.unlogged Session.SameButLog scene.unlogged where
  likeness := Session.sameButLog_likeness
  close alike step _ _ same := alike.close step same
  related {step _} unlogs _ := by
    subst unlogs
    cases step <;> first | exact ⟨rfl, rfl⟩ | contradiction
  plain unlogs _ calls _ _ alike := by
    subst unlogs
    exact alike.performPlain _ calls _
  listener name := by
    rw [scene.listener_unlogged]
    exact ⟨rfl, rfl, rfl, allCorrespond_unlogged _⟩
  totalLimit := scene.totalLimit_unlogged.symm

end WarningCapture
