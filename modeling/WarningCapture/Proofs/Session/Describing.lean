import WarningCapture.Proofs.Session.Answering

/-! Errors are reported once. The operation that raises an error reports it, and describes it if
that is asked for. Captures that it passes through, and what collects or swallows it, say no more of
it than a line in the log. -/
namespace WarningCapture

/-- The trailer describes the error. -/
structure Log.Trailer.Describes (t : Log.Trailer) (err : CaptureError) : Prop where
  code : t.code = err.code
  kind : t.kind = err.kind
  message : t.message = err.message
  context : t.context = orderedContext err.context

/-- A change of the policy that does not turn the descriptions of errors off. -/
def Policy.KeepsDescribing (p q : Policy) : Prop :=
  p.jsonErrors = true → q.jsonErrors = true

namespace Event

def report? : Event → Option CaptureError
  | reported err => some err
  | _ => none

def trailer? : Event → Option Log.Trailer
  | wrote (.trailer t) _ => some t
  | _ => none

/-- The error of the library that a step failed with. -/
def failure? : Event → Option CaptureError
  | finished entry =>
      match entry.outcome with
      | .failed (.reported err) => some err
      | _ => none
  | _ => none

theorem answer_error (e : Event) : e.answer?.bind Answer.error? = e.report? := by
  cases e <;> rfl

theorem shows_error (e : Event) : e.shows?.bind Answer.error? = e.failure? := by
  cases e with
  | finished entry =>
    obtain ⟨step, outcome⟩ := entry
    cases outcome with
    | silent => rfl
    | failed f => cases f <;> rfl
    | returned result =>
      cases result with
      | records records =>
        by_cases flush : step = "flush" <;>
          simp [shows?, Outcome.answer?, failure?, flush, Answer.error?]
      | faults raised =>
        by_cases finish : step = "finish" <;>
          simp [shows?, Outcome.answer?, failure?, finish, Answer.error?]
      | _ => rfl
  | _ => rfl

theorem quiet_report {e : Event} (quiet : e.quiet = true) : e.report? = none := by
  cases e <;> first | rfl | cases quiet

theorem quiet_trailer {e : Event} (quiet : e.quiet = true) : e.trailer? = none := by
  cases e with
  | wrote line => cases line <;> first | rfl | cases quiet
  | _ => rfl

theorem quiet_errors {events : List Event} (quiet : ∀ e ∈ events, e.quiet = true) :
    events.filterMap report? = [] ∧ events.filterMap trailer? = [] :=
  ⟨List.filterMap_eq_nil_iff.mpr fun e member => quiet_report (quiet e member),
    List.filterMap_eq_nil_iff.mpr fun e member => quiet_trailer (quiet e member)⟩

end Event

/-- The error of the library that an attempt ends with, if it does. -/
def errorsOf (outcome : Except Fault α) : List CaptureError :=
  match outcome with
  | .error (.reported err) => [err]
  | _ => []

namespace Session
variable {given : CaptureError → Prop} {Sets : Policy → Policy → Prop} {s t u : Session}
  {answer : Option Answer} {errs more : List CaptureError}

/-- Errors are described, and will be until the policy changes. -/
structure Describing (s : Session) : Prop where
  policy : s.policy.jsonErrors = true
  switch : s.jsonErrors = true

/-- Just the given errors were reported, the latest first. Each has a trailer if errors are
described, and otherwise there are no trailers. -/
structure Reports (errs : List CaptureError) (s t : Session) : Prop where
  jsonErrors : t.jsonErrors = s.jsonErrors
  told : ∃ later, t.history = later ++ s.history ∧ later.filterMap Event.report? = errs ∧
    List.Forall₂ Log.Trailer.Describes (later.filterMap Event.trailer?)
      (if s.jsonErrors then errs else [])

namespace Reports

theorem of_quiet (quiet : s.Quiet t) : Reports [] s t where
  jsonErrors := quiet.jsonErrors
  told := by
    obtain ⟨later, told, quiet⟩ := quiet.told
    obtain ⟨reports, trailers⟩ := Event.quiet_errors quiet
    refine ⟨later, told, reports, ?_⟩
    rw [trailers, ite_self]
    exact .nil

theorem report (s : Session) (err : CaptureError) : Reports [err] s (s.report err) where
  jsonErrors := (s.report_told err).2.1
  told := by
    obtain ⟨_, _, lines, quiet, told⟩ := s.report_told err
    obtain ⟨reports, trailers⟩ := Event.quiet_errors quiet
    refine ⟨_, told.trans (List.append_cons _ _ _), ?_⟩
    simp only [List.filterMap_append, reports, trailers]
    split
    · exact ⟨rfl, .cons ⟨rfl, rfl, rfl, rfl⟩ .nil⟩
    · exact ⟨rfl, .nil⟩

theorem of_event {e : Event} (jsonErrors : t.jsonErrors = s.jsonErrors)
    (history : t.history = e :: s.history) (unreported : e.report? = none)
    (undescribed : e.trailer? = none) : Reports [] s t where
  jsonErrors := jsonErrors
  told := by
    refine ⟨[e], history, List.filterMap_cons_none unreported, ?_⟩
    rw [List.filterMap_cons_none undescribed, ite_self]
    exact .nil

theorem trans (first : Reports errs s t) (second : Reports more t u) :
    Reports (more ++ errs) s u where
  jsonErrors := second.jsonErrors.trans first.jsonErrors
  told := by
    obtain ⟨es, told, reports, trailers⟩ := first.told
    obtain ⟨fs, toldNext, reportsNext, trailersNext⟩ := second.told
    refine ⟨fs ++ es, by rw [toldNext, told, List.append_assoc], ?_, ?_⟩
    · rw [List.filterMap_append, reports, reportsNext]
    · rw [first.jsonErrors] at trailersNext
      rw [List.filterMap_append]
      cases on : s.jsonErrors <;> rw [on] at trailers trailersNext <;>
        exact List.rel_append trailersNext trailers

theorem after (before : Reports [] s t) (reports : Reports errs t u) : Reports errs s u := by
  simpa using before.trans reports

theorem settle (reports : Reports errs s t) (quiet : t.Quiet u) : Reports errs s u := by
  simpa using reports.trans (of_quiet quiet)

end Reports
end Session

/-- Operations that put no policy in force and raise no error from before, while nothing is reported
inside them. -/
def Bounds.unreported : Bounds where
  remembers := Session.remembers_anything
  given _ := False
  sets _ _ := False
  inside := Session.Reports []

namespace Session
variable {given : CaptureError → Prop} {s t : Session} {answer : Option Answer}

theorem reports_neutral :
    Neutral .unreported fun s answer t => Reports (answer.bind Answer.error?).toList s t where
  quiet := .of_quiet
  trans := .after
  settle := .settle
  inside := id
  apply _ _ _ sets := sets.elim
  report := .report
  again _ _ given := given.elim
  flush _ _ _ := .of_event rfl rfl rfl rfl
  pass s := .of_quiet (.refl s)
  replay _ inside _ := by
    have swept (s : Session) (buffer : String) : Reports [] s (s.sweep buffer) :=
      .of_event rfl rfl rfl rfl
    exact .after (swept _ _) (.after inside (.of_event rfl rfl rfl rfl))

/-- While descriptions are not turned off, trailers describe the reported errors, one for each and
in order. -/
theorem Conducts.describes (conducts : Conducts given Policy.KeepsDescribing s answer t)
    (describing : s.Describing) : t.Describing ∧ ∃ errs, Reports errs s t := by
  induction conducts with
  | quiet quiet =>
    exact ⟨⟨quiet.policy ▸ describing.policy, quiet.jsonErrors ▸ describing.switch⟩, [],
      .of_quiet quiet⟩
  | trans _ _ first second =>
    obtain ⟨between, errs, before⟩ := first describing
    obtain ⟨last, more, after⟩ := second between
    exact ⟨last, more ++ errs, before.trans after⟩
  | settle _ quiet ih =>
    obtain ⟨between, errs, before⟩ := ih describing
    exact ⟨⟨quiet.policy ▸ between.policy, quiet.jsonErrors ▸ between.switch⟩, errs,
      before.settle quiet⟩
  | apply s disk sets =>
    obtain ⟨policy, switch, lines, quiet, told⟩ := s.applyPolicy_told disk _
    obtain ⟨reports, trailers⟩ := Event.quiet_errors quiet
    have on := sets describing.policy
    refine ⟨⟨policy ▸ on, switch.trans on⟩, [], switch.trans (on.trans describing.switch.symm),
      lines, told, reports, ?_⟩
    rw [trailers, ite_self]
    exact .nil
  | report s err =>
    obtain ⟨policy, switch, _⟩ := s.report_told err
    exact ⟨⟨policy ▸ describing.policy, switch ▸ describing.switch⟩, [err], .report s err⟩
  | again | pass => exact ⟨describing, [], .of_quiet (.refl _)⟩
  | flush => exact ⟨⟨describing.policy, describing.switch⟩, [], .of_event rfl rfl rfl rfl⟩
  | @replay t s raised buffer _ _ _ ih =>
    have swept : Reports [] s (s.sweep buffer) := .of_event rfl rfl rfl rfl
    obtain ⟨between, errs, inside⟩ := ih ⟨describing.policy, describing.switch⟩
    exact ⟨⟨between.policy, between.switch⟩, _,
      (swept.trans inside).trans (.of_event rfl rfl rfl rfl)⟩
  | close _ _ _ ih =>
    obtain ⟨between, errs, inside⟩ := ih describing
    exact ⟨⟨between.policy, between.switch⟩, _, inside.trans (.of_event rfl rfl rfl rfl)⟩

/-- The error that a call ends with though the function returned. -/
@[simp] def ownErrors (called ended : Except Fault Value) : List CaptureError :=
  match called with
  | .ok _ => errorsOf ended
  | .error _ => []

/-- How a call ends reports its own errors and nothing else. -/
def ReportsOwn (ends : Closing) : Prop :=
  ∀ called u, Reports (ownErrors called (ends called u).1) u (ends called u).2

theorem settle_reports (s : Session) (called : Except Fault Value)
    (restored : Except CaptureError Unit) :
    Reports (ownErrors called (s.settle called restored).1) s (s.settle called restored).2 := by
  cases restored with
  | ok => cases called <;> exact .of_quiet (.refl s)
  | error err =>
    cases called with
    | ok => exact .report s err
    | error => exact .of_quiet (.note s _)

theorem concluded_reportsOwn (token : Nat) :
    ReportsOwn fun called u => u.concluded token called := fun _ u =>
  .after (.of_quiet (.releaseSink u token false)) (settle_reports _ _ _)

/-- What the inner call fails with is the function's exception to the outer one. -/
theorem ReportsOwn.around {outer inner : Closing} (first : ReportsOwn outer)
    (passesOn : PassesOn outer) (second : ReportsOwn inner) (passesInner : PassesOn inner) :
    ReportsOwn fun called u => outer (inner called u).1 (inner called u).2 := by
  intro called u
  have both := (second called u).trans (first (inner called u).1 (inner called u).2)
  have same : ownErrors (inner called u).1 (outer (inner called u).1 (inner called u).2).1 ++
      ownErrors called (inner called u).1 =
        ownErrors called (outer (inner called u).1 (inner called u).2).1 := by
    cases called with
    | error fault =>
      rw [passesInner.raised]
      rfl
    | ok v =>
      cases ended : (inner (.ok v) u).1 with
      | ok => exact List.append_nil _
      | error fault =>
        rw [passesOn.raised]
        rfl
  exact same ▸ both

end Session

namespace Capturing

theorem left_quiet (c : Capturing) (s t : Session) : t.Quiet (c.left s t) := by
  cases c with
  | run => exact .leaveRun t _ _
  | collect => exact .refl t

theorem opened_reports (c : Capturing) (s : Session) : Session.Reports [] s (c.opened s).2 := by
  have begun : Session.Reports [] s (c.begun s) := by
    cases c with
    | run => exact .of_quiet (.enterRun s _)
    | collect => exact .of_quiet (.refl s)
  have scrubbed := (c.begun s).scrubBeforeCapture_story.keeps Session.reports_neutral
  exact .after begun (.after scrubbed (.of_quiet (.pushNew c.collector rfl)))

/-- What a call, whatever the function, reports: the failure to begin it, or else what it fails with
itself though the function returned. An exception of the function passes as it is. -/
inductive CallReports (call : Callee → Attempt Value) (arguments : Arguments)
    (s : Session) : Prop
  | refused (fault : Fault) (t : Session)
      (reports : Session.Reports (errorsOf (.error fault : Except Fault Value)) s t)
      (ended : ∀ f, call f = (.error fault, t))
  | called (t : Session) (ends : Session.Closing) (begun : Session.Reports [] s t)
      (passesOn : Session.PassesOn ends) (own : Session.ReportsOwn ends)
      (ended : ∀ f, call f = ends (f arguments t).1 (f arguments t).2)

theorem call_reports (scene : Scene) (c : Capturing) (arguments : Arguments) (s : Session) :
    CallReports (fun f => c.call scene f arguments s) arguments s := by
  by_cases accepted : c.Accepted scene
  · have opens := c.opened_reports s
    cases opened : c.opened s with
    | mk outcome t =>
      rw [opened] at opens
      cases outcome with
      | error err =>
        refine .refused (.reported err) (c.left s (t.report err)) ?_ fun f => ?_
        · exact .after opens ((Session.Reports.report t err).settle (c.left_quiet s _))
        · rw [call_eq accepted, opened]
      | ok token =>
        have passesOn := (Session.concluded_concludes token).passesOn
        refine .called t (fun called u =>
          ((u.concluded token called).1, c.left s (u.concluded token called).2))
          opens ⟨passesOn.raised, passesOn.returned⟩ (fun called u => ?_) fun f => ?_
        · exact (Session.concluded_reportsOwn token called u).settle (c.left_quiet s _)
        · rw [call_eq accepted, opened]
  · cases c with
    | run => exact absurd trivial accepted
    | collect listener =>
      refine .refused (.raised "TypeError" "observer must be callable") s (.of_quiet (.refl s))
        fun f => ?_
      exact if_neg accepted

/-- An exception passes through captures around captures without a report. -/
theorem callAll_reports (scene : Scene) (cs : List Capturing) (arguments : Arguments)
    (s : Session) : CallReports (fun f => callAll scene cs f arguments s) arguments s := by
  induction cs generalizing s with
  | nil =>
    refine .called s (fun called u => (called, u)) (.of_quiet (.refl s))
      ⟨fun _ _ => rfl, fun _ _ => .inl rfl⟩ (fun called u => ?_) fun f => rfl
    cases called <;> exact .of_quiet (.refl u)
  | cons c rest ih =>
    cases c.call_reports scene arguments s with
    | refused fault t reports refused => exact .refused fault t reports fun f => refused _
    | called t ends reports passesOn own called =>
      cases ih t with
      | refused fault u inside refused =>
        -- The failure of an inner call is an exception like any other to the call around it.
        refine .refused fault (ends (.error fault) u).2 ?_ fun f => ?_
        · simpa using (reports.trans inside).trans (own (.error fault) u)
        · show c.call scene (callAll scene rest f) arguments s = _
          rw [called, refused]
          exact Prod.ext (passesOn.raised _ u) rfl
      | called u innerEnds inside innerPasses innerOwn calledInside =>
        refine .called u _ (reports.trans inside) (passesOn.around innerPasses)
          (own.around passesOn innerOwn innerPasses) fun f => ?_
        show c.call scene (callAll scene rest f) arguments s = _
        rw [called, calledInside]

end Capturing

namespace Session

theorem finish_errors (attempt : Attempt (List Fault)) :
    (((Outcome.of .faults attempt).1.answer? "finish").bind Answer.error?).toList =
      errorsOf attempt.1 := by
  rcases attempt with ⟨(_ | _) | _, _⟩ <;> rfl

/-- The end of a test reports what it fails with. What it collects it does not report, errors of the
library included. -/
theorem finish_reports {react : Reaction} (silent : ∀ name r t, Reports [] t (react name r t).2)
    (s : Session) (buffer : String) :
    Reports (errorsOf (s.finish react buffer).1) s (s.finish react buffer).2 := by
  have conveys : react.Conveys (fun _ => True) (Reports []) :=
    fun name r t => ⟨silent name r t, fun f _ => f.given_anything⟩
  have told := (finish_story (b := .unreported) conveys s buffer).keeps reports_neutral
  rwa [finish_errors, of_fst_snd] at told

/-- What a whole session tells of errors. -/
structure PlayReports (scene : Scene) (given : CaptureError → Prop) (steps : List Step)
    (s : Session) (later : List Event) : Prop where
  told : (scene.play steps s).history = later ++ s.history
  /-- Every error that is reported is what the step fails with that is finished next, and of the
  failures with an error only those with errors that were handed in are not reported. -/
  reported : LeavesOut given (later.filterMap Event.failure?) (later.filterMap Event.report?)
  /-- As long as descriptions are not turned off, the trailers describe the reported errors one by
  one. -/
  described : s.Describing → scene.Throughout (Step.SetsWithin Policy.KeepsDescribing) →
    AllThroughout (Step.SetsWithin Policy.KeepsDescribing) steps →
    List.Forall₂ Log.Trailer.Describes (later.filterMap Event.trailer?)
      (later.filterMap Event.report?)

/-- Nothing is reported of a failure that gives way to something else. -/
structure SwallowsFailures (s : Session) : Prop where
  scrub : Reports [] s s.scrubBeforeCapture
  rollback (o : Observer) : Reports [] s (s.pushSink o).2
  dropped (guard : String) : Reports [] s (s.dropGuard guard).2
  /-- A sink that cannot be taken off gives way to the exception of the function. -/
  superseded (f : Fault) (err : CaptureError) :
    Reports [] s (s.settle (.error f : Except Fault Value) (.error err)).2

theorem swallowsFailures (s : Session) : s.SwallowsFailures where
  scrub := s.scrubBeforeCapture_story.keeps reports_neutral
  rollback o := .of_quiet (.pushSink s o)
  dropped guard := (dropGuard_story trivial s guard).keeps reports_neutral
  superseded _ _ := .of_quiet (.note s _)

/-- Who reports which errors in a scene, while the given errors are handed in. -/
structure ReportsOnce (scene : Scene) (given : CaptureError → Prop) (steps : List Step)
    (s : Session) : Prop where
  played : ∃ later, PlayReports scene given steps s later
  /-- An exception passes through any number of captures as it is and without a report. -/
  called (cs : List Capturing) (arguments : Arguments) (t : Session) :
    Capturing.CallReports (fun f => Capturing.callAll scene cs f arguments t) arguments t
  swallowed (t : Session) : t.SwallowsFailures
  /-- The end of a test reports what it fails with, and nothing of what it collects. -/
  finished (react : Reaction) (silent : ∀ name r t, Reports [] t (react name r t).2) (t : Session)
    (buffer : String) :
    Reports (errorsOf (t.finish react buffer).1) t (t.finish react buffer).2

theorem play_reports {scene : Scene} {given : CaptureError → Prop} (hands : scene.HandsIn given)
    {steps : List Step} (handsSteps : AllThroughout (Step.HandsIn given) steps) (s : Session) :
    ∃ later, PlayReports scene given steps s later := by
  obtain ⟨later, told, answers⟩ := (play_conducts hands
    (fun _ => allThroughout_of_forall Step.setsWithin_anything _) steps handsSteps
    (allThroughout_of_forall Step.setsWithin_anything steps) s).answers
  refine ⟨later, told, ?_, fun describing sets setsSteps => ?_⟩
  · have errors := answers.filterMap (Q := given) Answer.error? (by
      intro a err unreported same
      cases a <;> cases same
      exact unreported)
    simpa only [Option.toList_none, List.nil_append, List.filterMap_filterMap, Event.answer_error,
      Event.shows_error] using errors
  · obtain ⟨_, errs, reports⟩ :=
      (play_conducts hands sets steps handsSteps setsSteps s).describes describing
    obtain ⟨more, toldAgain, reported, trailers⟩ := reports.told
    rw [List.append_cancel_right (told.symm.trans toldAgain), reported]
    rwa [if_pos describing.switch] at trailers

/-- Errors are reported once: each by the operation that it comes from, and by nothing that it
passes through or gives way to. -/
theorem errors_are_reported_once (scene : Scene) (given : CaptureError → Prop)
    (hands : scene.HandsIn given) (steps : List Step)
    (handsSteps : AllThroughout (Step.HandsIn given) steps) (s : Session) :
    ReportsOnce scene given steps s where
  played := play_reports hands handsSteps s
  called cs arguments t := Capturing.callAll_reports scene cs arguments t
  swallowed := swallowsFailures
  finished _ silent := finish_reports silent

/-- A listener that raises an error from before whenever it is called. -/
def relaying : Scene :=
  { listeners := [("listener", { raises := some (.reported Policy.noPasses) })] }

/-- Under a guard over the listener, an inner run fails to take its sink off, a flush fails, and the
outer run raises the error from before; then the end of a test collects the same error. -/
def troubled : List Step :=
  [.observe "observer" "listener", .push "guard" "observer", .pushRecord "buffer" plain,
    .run "outer" {}
      [.run "inner" {} [.damage (.facility .missingFilters)] (.returns .null), .heal,
        .flush "buffer" (some (.ok ["nowhere"]))] (.raises (.reported Policy.noPasses)),
    .finish "buffer"]

/-- A session in which errors are described. -/
def described : Session := start {} { jsonErrors := some true } [] {} [] "/"

theorem relaying_listener (name : String) : (relaying.listener name).steps = [] ∧
    ∀ f, (relaying.listener name).raises = some f → f = .reported Policy.noPasses := by
  by_cases listener : name = "listener"
  · subst listener
    exact ⟨rfl, fun f raised => (Option.some.inj raised).symm⟩
  · have other : relaying.listener name = {} := by
      simp [relaying, Scene.listener, Table.get?, Ne.symm listener]
    rw [other]
    refine ⟨rfl, fun f raised => ?_⟩
    cases raised

/-- Two errors are reported and described. The error from before is what the outer run fails with
and what the end of the test returns, and is not reported. -/
theorem error_from_before_is_not_reported :
    relaying.HandsIn (· = Policy.noPasses) ∧
    AllThroughout (Step.HandsIn (· = Policy.noPasses)) troubled ∧
    described.Describing ∧ relaying.Throughout (Step.SetsWithin Policy.KeepsDescribing) ∧
    AllThroughout (Step.SetsWithin Policy.KeepsDescribing) troubled ∧
    ∃ later, (relaying.play troubled described).history = later ++ described.history ∧
      LeavesOut (· = Policy.noPasses) (later.filterMap Event.failure?)
        (later.filterMap Event.report?) ∧
      List.Forall₂ Log.Trailer.Describes (later.filterMap Event.trailer?)
        (later.filterMap Event.report?) ∧
      (later.filterMap Event.failure?).map CaptureError.code =
        [.invalidPolicyValue, .invalidFilterTarget, .sinkRestoreFailed] ∧
      (later.filterMap Event.trailer?).map Log.Trailer.code =
        [.invalidFilterTarget, .sinkRestoreFailed] ∧
      (later.filterMap Event.answer?).head? = some (.faults [.reported Policy.noPasses]) := by
  have hands : relaying.HandsIn (· = Policy.noPasses) := by
    constructor
    · intro name
      rw [(relaying_listener name).1]
      trivial
    · intro name f raised
      rw [(relaying_listener name).2 f raised]
      exact rfl
  have handsSteps : AllThroughout (Step.HandsIn (· = Policy.noPasses)) troubled := by
    simp [troubled, AllThroughout, Step.Throughout, Step.HandsIn, Ending.HandsIn, Ending.conclude,
      Fault.Given]
  have sets : relaying.Throughout (Step.SetsWithin Policy.KeepsDescribing) := by
    intro name
    rw [(relaying_listener name).1]
    trivial
  have setsSteps : AllThroughout (Step.SetsWithin Policy.KeepsDescribing) troubled := by
    simp [troubled, AllThroughout, Step.Throughout, Step.SetsWithin]
  have describing : described.Describing := ⟨by decide +kernel, by decide +kernel⟩
  obtain ⟨later, told, answers, describes⟩ :=
    (errors_are_reported_once relaying _ hands troubled handsSteps described).played
  have all : later = (relaying.play troubled described).history := by
    rw [told]
    exact (List.append_nil later).symm
  refine ⟨hands, handsSteps, describing, sets, setsSteps, later, told, answers,
    describes describing sets setsSteps, ?_⟩
  rw [all]
  exact ⟨by decide +kernel, by decide +kernel, by decide +kernel⟩

end Session
end WarningCapture
