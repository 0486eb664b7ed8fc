import WarningCapture.Proofs.Session.Proceeding
import WarningCapture.Session.Trace

/-! The scope of runs. Runs of buffers begin and end one inside the other, and the log names the
test of the innermost one in progress: whatever happens in a run, it ends with the test id and the
number of runs that it began with. -/
namespace WarningCapture

/-- The buffers of the runs in progress after the given events, the innermost first. The latest
event comes first, as in a history. -/
def openRuns : List Event → List String
  | [] => []
  | .began buffer :: earlier => buffer :: openRuns earlier
  | .ended buffer :: earlier => (openRuns earlier).erase buffer
  | _ :: earlier => openRuns earlier

namespace Event

/-- Only the innermost run ends. -/
def EndsInnermost (e : Event) (earlier : List Event) : Prop :=
  ∀ buffer, e = .ended buffer → (openRuns earlier).head? = some buffer

/-- A line names the test that is due at its time, if it names one. -/
def NamesTest (due : List Event → Option String) (e : Event) (earlier : List Event) : Prop :=
  ∀ line outlet, e = .wrote line outlet → ∀ named ∈ line.testId?, named = due earlier

/-- The event begins and ends no run, and a line that it writes names no other test. -/
def WithinRun (testId : Option String) : Event → Prop
  | began _ | ended _ => False
  | wrote line _ => ∀ named ∈ line.testId?, named = testId
  | _ => True

theorem began_endsInnermost (buffer : String) (earlier : List Event) :
    (began buffer).EndsInnermost earlier := by
  rintro _ ⟨⟩

variable (due : List Event → Option String)

theorem began_namesTest (buffer : String) (earlier : List Event) :
    (began buffer).NamesTest due earlier := by
  rintro _ _ ⟨⟩

theorem ended_namesTest (buffer : String) (earlier : List Event) :
    (ended buffer).NamesTest due earlier := by
  rintro _ _ ⟨⟩

variable {past : List Event}

theorem Within.withinRun {e : Event} {testId : Option String} {busy : List Nat}
    (within : e.Within testId busy) : e.WithinRun testId := by
  cases e with
  | wrote => exact within
  | began | ended => exact within.elim
  | _ => trivial

theorem openRuns_append {testId : Option String} {later : List Event}
    (within : ∀ e ∈ later, e.WithinRun testId) : openRuns (later ++ past) = openRuns past := by
  induction later with
  | nil => rfl
  | cons e rest ih =>
    have here := within e List.mem_cons_self
    have rest := ih fun other member => within other (List.mem_cons_of_mem e member)
    cases e with
    | began | ended => exact here.elim
    | _ => exact rest

end Event

namespace Session
variable {Tags : Option String → Prop} {s t u start : Session}

/-- No run begins or ends from one session to the other, and lines name the test of the first. -/
structure SameScope (s t : Session) : Prop where
  testId : t.logger.testId = s.logger.testId
  ids : ∀ buffer, (t.buffer buffer).testId = (s.buffer buffer).testId
  running : ∀ buffer, (t.buffer buffer).running = (s.buffer buffer).running
  told : ∃ later, t.history = later ++ s.history ∧ ∀ e ∈ later, e.WithinRun s.logger.testId

theorem Steady.sameScope (steady : s.Steady t) : s.SameScope t where
  testId := steady.testId
  ids := steady.ids
  running := steady.running
  told := by
    obtain ⟨later, told, within⟩ := steady.told
    exact ⟨later, told, fun e member => (within e member).withinRun⟩

theorem SameScope.of_event {e : Event} (testId : t.logger.testId = s.logger.testId)
    (buffers : t.buffers = s.buffers) (history : t.history = e :: s.history)
    (within : e.WithinRun s.logger.testId) : s.SameScope t where
  testId := testId
  ids buffer := congrArg Buffer.testId (buffer_congr buffers buffer)
  running buffer := congrArg Buffer.running (buffer_congr buffers buffer)
  told := ⟨[e], history, by simpa using within⟩

/-- The test that the innermost of the runs in progress names. -/
def innermostTest (s : Session) (past : List Event) : Option String :=
  (openRuns past).head?.bind fun buffer => (s.buffer buffer).testId

theorem SameScope.openRuns (same : s.SameScope t) : openRuns t.history = openRuns s.history := by
  obtain ⟨later, told, within⟩ := same.told
  rw [told, Event.openRuns_append within]

/-- Whatever a session comes to, the runs that it begins on the way are over. -/
theorem Proceeds.openRuns (proceeds : Proceeds Tags s t) :
    openRuns t.history = openRuns s.history := by
  induction proceeds with
  | deed deed =>
    rcases deed.steady with steady | ⟨testId, _, rfl⟩
    · exact steady.sameScope.openRuns
    · rfl
  | trans _ _ first second => exact second.trans first
  | run _ inside => exact (congrArg (List.erase · _) inside).trans (List.erase_cons_head _ _)
  | call _ _ _ _ inside => exact inside

theorem enterRun_buffer (s : Session) (name other : String) :
    (s.enterRun name).buffer other =
      if other = name then (s.buffer name).enter else s.buffer other :=
  s.buffer_setBuffer name _ other

theorem leaveRun_buffer (s : Session) (name other : String) (testId : Option String) :
    (s.leaveRun name testId).buffer other =
      if other = name then (s.buffer name).leave else s.buffer other :=
  s.buffer_setBuffer name _ other

/-- The state of the runs is what the history tells of them. -/
structure InScope (Tags : Option String → Prop) (start s : Session) : Prop where
  ids : ∀ buffer, (s.buffer buffer).testId = (start.buffer buffer).testId
  running : ∀ buffer, (s.buffer buffer).running = (openRuns s.history).count buffer
  ends : Event.Each Event.EndsInnermost s.history
  testId : (∀ testId, ¬ Tags testId) → s.logger.testId = start.innermostTest s.history
  named : (∀ testId, ¬ Tags testId) →
    Event.Each (Event.NamesTest start.innermostTest) s.history

namespace InScope

theorem enterRun (kept : InScope Tags start s) (name : String) :
    InScope Tags start (s.enterRun name) where
  ids other := by
    have same := kept.ids other
    rw [enterRun_buffer]
    split
    · rename_i here
      rw [← here]
      exact same
    · exact same
  running other := by
    have same := kept.running other
    have runs : openRuns (s.enterRun name).history = name :: openRuns s.history := rfl
    rw [enterRun_buffer, runs, List.count_cons]
    by_cases here : other = name
    · subst here
      simp [Buffer.enter, same]
    · simp [here, Ne.symm here, same]
  ends := Event.each_cons.mpr ⟨Event.began_endsInnermost _ _, kept.ends⟩
  testId _ := kept.ids name
  named unset := Event.each_cons.mpr ⟨Event.began_namesTest _ _ _, kept.named unset⟩

/-- What happens in the scope of a run is seen from there. -/
theorem sameScope (kept : InScope Tags start s) (same : s.SameScope t) : InScope Tags start t where
  ids buffer := (same.ids buffer).trans (kept.ids buffer)
  running buffer := by rw [same.running, kept.running, same.openRuns]
  ends := by
    obtain ⟨later, told, within⟩ := same.told
    rw [told]
    refine Event.each_append kept.ends fun e member between _ buffer ended => ?_
    subst ended
    exact (within _ member).elim
  testId unset := by
    rw [same.testId, kept.testId unset, innermostTest, innermostTest, same.openRuns]
  named unset := by
    obtain ⟨later, told, within⟩ := same.told
    rw [told]
    refine Event.each_append (kept.named unset) fun e member between suffix line outlet wrote => ?_
    subst wrote
    have before : openRuns (between ++ s.history) = openRuns s.history :=
      Event.openRuns_append fun other inside => within other (suffix.subset inside)
    intro named names
    have here : named = s.logger.testId := within _ member named names
    rw [here, kept.testId unset, innermostTest, innermostTest, before]

theorem deed (kept : InScope Tags start s) (deed : Deed Tags s t) : InScope Tags start t := by
  rcases deed.steady with steady | ⟨testId, given, rfl⟩
  · exact kept.sameScope steady.sameScope
  · exact ⟨kept.ids, kept.running, kept.ends, fun unset => absurd given (unset testId),
      kept.named⟩

/-- A run that ends is the innermost, and the one around it is in its place again. -/
theorem leaveRun {name : String} (before : InScope Tags start s) (kept : InScope Tags start t)
    (runs : openRuns t.history = name :: openRuns s.history) :
    InScope Tags start (t.leaveRun name s.logger.testId) := by
  have left : openRuns (t.leaveRun name s.logger.testId).history = openRuns s.history := by
    show (openRuns t.history).erase name = openRuns s.history
    rw [runs, List.erase_cons_head]
  refine ⟨fun other => ?_, fun other => ?_, Event.each_cons.mpr ⟨?_, kept.ends⟩, fun unset => ?_,
    fun unset => Event.each_cons.mpr ⟨Event.ended_namesTest _ _ _, kept.named unset⟩⟩
  · have same := kept.ids other
    rw [leaveRun_buffer]
    split
    · rename_i here
      rw [← here]
      exact same
    · exact same
  · have same := kept.running other
    rw [runs, List.count_cons] at same
    rw [leaveRun_buffer, left]
    by_cases here : other = name
    · subst here
      simp [Buffer.leave, same]
    · simpa [here, Ne.symm here] using same
  · rintro buffer ⟨⟩
    exact congrArg List.head? runs
  · rw [innermostTest, left]
    exact before.testId unset

theorem enterListener (kept : InScope Tags start s) (o : Observer) (listener : String)
    (r : Record) : InScope Tags start ((s.add (.captured r)).enterListener o listener r) := by
  have captured : InScope Tags start (s.add (.captured r)) :=
    kept.sameScope (.of_event rfl rfl rfl trivial)
  exact captured.sameScope (.of_event rfl rfl rfl trivial)

theorem leaveListener (kept : InScope Tags start s) (o : Observer) :
    InScope Tags start (s.leaveListener o) :=
  kept.sameScope (.of_event rfl rfl rfl trivial)

theorem proceeds (proceeds : Proceeds Tags s t) (kept : InScope Tags start s) :
    InScope Tags start t := by
  induction proceeds with
  | deed deed => exact kept.deed deed
  | trans _ _ first second => exact second (first kept)
  | run inner inside => exact kept.leaveRun (inside (kept.enterRun _)) inner.openRuns
  | call _ _ _ _ inside => exact (inside (kept.enterListener _ _ _)).leaveListener _

/-- In runs and calls of listeners, too, the state of the runs is what the history tells. -/
theorem passes (passes : Passes Tags s u) (kept : InScope Tags start s) :
    InScope Tags start u := by
  induction passes with
  | now before => exact kept.proceeds before
  | running before _ ih => exact ih ((kept.proceeds before).enterRun _)
  | called before _ _ _ _ ih => exact ih ((kept.proceeds before).enterListener _ _ _)

end InScope

/-- Nothing has happened yet, no test is named, and no run is in progress. -/
structure Unstarted (s : Session) : Prop where
  history : s.history = []
  testId : s.logger.testId = none
  running : ∀ buffer, (s.buffer buffer).running = 0

theorem Unstarted.inScope (unstarted : start.Unstarted) : InScope Tags start start where
  ids _ := rfl
  running buffer := by simp [unstarted.running, unstarted.history, openRuns]
  ends := unstarted.history ▸ Event.each_nil _
  testId _ := by simp [unstarted.testId, unstarted.history, innermostTest, openRuns]
  named _ := unstarted.history ▸ Event.each_nil _

/-- A policy that is put in force at the start names no test and begins no run. -/
theorem start_unstarted (scene : Scene) (policy : Policy.Update) (filters : List Filter)
    (modules : Modules) {buffers : Table Buffer} (cwd : String)
    (idle : ∀ name, ((Table.get? name buffers).getD {}).running = 0) :
    (Session.start scene policy filters modules buffers cwd).Unstarted := by
  let before := Session.fresh scene filters modules buffers cwd
  have configured : before.Steady (before.configure scene.disk policy).2 :=
    .configure scene.disk before policy
  exact ⟨rfl, configured.testId, fun name => (configured.running name).trans (idle name)⟩

/-- At every moment of a session, a buffer is active if and only if a run of it is in progress, and
only the innermost run ever ends. If nothing but runs sets the test id, it is that of the buffer of
the innermost run in progress, and so is every test id that was ever written to the log or to the
description of an error. -/
theorem test_id_is_that_of_innermost_run (start u : Session) (unstarted : start.Unstarted)
    (now : Passes Tags start u) :
    (∀ buffer, (u.buffer buffer).isActive = true ↔ buffer ∈ openRuns u.history) ∧
    (∀ buffer earlier, .ended buffer :: earlier <:+ u.history →
      (openRuns earlier).head? = some buffer) ∧
    (∀ buffer, (u.buffer buffer).testId = (start.buffer buffer).testId) ∧
    ((∀ testId, ¬ Tags testId) →
      u.logger.testId = start.innermostTest u.history ∧
      ∀ line outlet earlier, .wrote line outlet :: earlier <:+ u.history →
        ∀ named ∈ line.testId?, named = start.innermostTest earlier) := by
  have kept : InScope Tags start u := unstarted.inScope.passes now
  refine ⟨fun buffer => ?_, ?_, kept.ids, fun unset => ⟨kept.testId unset, ?_⟩⟩
  · rw [Buffer.isActive, decide_eq_true_iff, kept.running, List.count_pos_iff]
  · intro buffer earlier suffix
    exact kept.ends _ _ suffix buffer rfl
  · intro line outlet earlier suffix
    exact kept.named unset _ _ suffix line outlet rfl

/-- A session with a buffer for the test of some id; other buffers have no test. -/
def titled : Session :=
  Session.start {} {} [] {} [("titled", { testId := some "case" })] "/"

theorem titled_unstarted : titled.Unstarted := by
  refine start_unstarted {} {} [] {} "/" fun name => ?_
  by_cases named : "titled" = name <;> simp [Table.get?, named]

def remark : Step := .log { level := .error, target := "trial_warnings", message := "remark" }

/-- A run that begins in the session, with its sink in place. -/
def inRun (s : Session) (buffer : String) : Session :=
  ((s.enterRun buffer).opened (.buffer buffer)).2

theorem Passes.inRun {name : String} (passes : Passes Tags (s.inRun name) u) : Passes Tags s u :=
  .running (.refl s) (passes.after (opened_proceeds _ _))

/-- The test ids that the lines of the history name, the latest line first. -/
def namedTests (s : Session) : List (Option (Option String)) :=
  (s.history.filterMap Event.line?).map fun (line, _) => line.testId?

/-- In a run of the buffer with an id a run of another buffer, in which two more runs of the first
end, with an exception and with the failure to install a sink. -/
def inTwoRuns : Session :=
  performAll {} (({} : Scene).reaction 0)
    [.run "titled" {} [remark] (.raises (.raised "ValueError" "raised")), remark,
      .damage (.facility .missingHook), .run "titled" {} [remark] (.returns .null), .heal]
    ((titled.inRun "titled").inRun "untitled")

/-- The failed run reports its error under the id of its test, and both end in the run that has no
id. -/
theorem failed_runs_end_in_the_outer :
    titled.Unstarted ∧ Passes (fun _ => False) titled inTwoRuns ∧
    openRuns inTwoRuns.history = ["untitled", "titled"] ∧
    inTwoRuns.logger.testId = none ∧ (inTwoRuns.buffer "titled").isActive = true ∧
    (inTwoRuns.buffer "other").isActive = false ∧
    inTwoRuns.namedTests = [some (some "case"), some none, some (some "case")] := by
  have quiet : AllThroughout (Step.TagsWithin fun _ => False)
      [.run "titled" {} [remark] (.raises (.raised "ValueError" "raised")), remark,
        .damage (.facility .missingHook), .run "titled" {} [remark] (.returns .null), .heal] := by
    simp [AllThroughout, Step.Throughout, Step.TagsWithin, remark]
  have alone : Scene.Throughout (Step.TagsWithin fun _ => False) {} := fun _ => trivial
  have performed : Proceeds (fun _ => False) ((titled.inRun "titled").inRun "untitled") inTwoRuns :=
    performAll_proceeds (reaction_proceeds alone 0) _ quiet _
  have now : Passes (fun _ => False) titled inTwoRuns := (Passes.now performed).inRun.inRun
  have runs : openRuns inTwoRuns.history = ["untitled", "titled"] := by decide +kernel
  obtain ⟨active, _, _, named⟩ := test_id_is_that_of_innermost_run titled inTwoRuns
    titled_unstarted now
  obtain ⟨testId, _⟩ := named fun _ => not_false
  refine ⟨titled_unstarted, now, runs, ?_, ?_, ?_, by decide +kernel⟩
  · rw [testId, innermostTest, runs]
    decide +kernel
  · rw [active, runs]
    simp
  · rw [← Bool.not_eq_true, active, runs]
    simp

/-- A session whose test id is set with no run in progress. -/
def tagged : Session := ({} : Scene).play [.setTestId (some "case"), remark] titled

def fullDisk : Scene := { disk := fun _ => .full "No space left on device" }

/-- A session whose log cannot be written, with a run of the buffer that has an id. -/
def grumbling : Session :=
  fullDisk.play [.configure { logFile := some "log" }, .run "titled" {} [remark] (.returns .null)]
    titled

/-- A test id can be set with no run in progress, and the complaint about a line that could not be
written in a run names no test. -/
theorem test_id_is_set_without_a_run :
    titled.Unstarted ∧
    Passes (fun _ => True) titled tagged ∧ openRuns tagged.history = [] ∧
    tagged.logger.testId = some "case" ∧ tagged.namedTests = [some (some "case")] ∧
    Passes (fun _ => False) titled grumbling ∧
    grumbling.namedTests = [none, some (some "case")] := by
  have sets : AllThroughout (Step.TagsWithin fun _ => True)
      [.setTestId (some "case"), remark] := by
    simp [AllThroughout, Step.Throughout, Step.TagsWithin, remark]
  have runs : AllThroughout (Step.TagsWithin fun _ => False)
      [.configure { logFile := some "log" },
        .run "titled" {} [remark] (.returns .null)] := by
    simp [AllThroughout, Step.Throughout, Step.TagsWithin, remark]
  refine ⟨titled_unstarted, .now ?_, by decide +kernel, by decide +kernel, by decide +kernel,
    .now ?_, by decide +kernel⟩
  · exact play_proceeds {} (fun _ => trivial) _ sets titled
  · exact play_proceeds fullDisk (fun _ => trivial) _ runs titled

end Session
end WarningCapture
