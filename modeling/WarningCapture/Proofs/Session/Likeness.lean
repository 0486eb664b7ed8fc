import WarningCapture.Session.Perform

/-! Sessions alike. Two sessions may differ in what hardly any operation depends on: in how they
log, or in what holds their modules. Such a likeness is described by the few operations that do.
From these it follows, once for every likeness, that all operations come to the same in both and
leave them alike, and so do steps, listeners and whole plays. -/
namespace WarningCapture

namespace Session

/-- The session in the circumstances of another one: with its policy, its logger and its past, and
with its modules and its directory. -/
def amid (s t : Session) : Session :=
  { s with
    policy := t.policy
    logger := t.logger
    jsonErrors := t.jsonErrors
    modules := t.modules
    cwd := t.cwd
    voice := t.voice
    history := t.history }

/-- The function does the same in all circumstances, and leaves these as they are. -/
def Blind (f : Session → Session) : Prop := ∀ s t : Session, f (s.amid t) = (f s).amid t

/-- Two operations come to the same, and leave related sessions. -/
structure Agree (R : Session → Session → Prop) {ε : Type} (a b : ε × Session) : Prop where
  outcome : a.1 = b.1
  after : R a.2 b.2

/-- Two steps end the same, as far as it is shown, and leave related sessions. -/
structure EndAlike (shown : Outcome → Outcome) (R : Session → Session → Prop)
    (a b : Outcome × Session) : Prop where
  outcome : shown a.1 = shown b.1
  after : R a.2 b.2

namespace Agree
variable {ε : Type} {R : Session → Session → Prop}

theorem parts {a b : ε × Session} (agree : Agree R a b) :
    ∃ x s t, a = (x, s) ∧ b = (x, t) ∧ R s t :=
  ⟨a.1, a.2, b.2, rfl, Prod.ext agree.outcome.symm rfl, agree.after⟩

theorem of {a b : Attempt ε} (agree : Agree R a b) (result : ε → Result) :
    Agree R (Outcome.of result a) (Outcome.of result b) := by
  obtain ⟨x, s, t, rfl, rfl, alike⟩ := agree.parts
  cases x <;> exact ⟨rfl, alike⟩

theorem quiet {a b : Attempt Unit} (agree : Agree R a b) :
    Agree R (Outcome.quiet a) (Outcome.quiet b) := by
  obtain ⟨x, s, t, rfl, rfl, alike⟩ := agree.parts
  cases x <;> exact ⟨rfl, alike⟩

theorem ends {a b : Outcome × Session} (agree : Agree R a b) (shown : Outcome → Outcome) :
    EndAlike shown R a b :=
  ⟨congrArg shown agree.outcome, agree.after⟩

end Agree
end Session

/-- Calls of a listener come to the same. -/
def Reaction.Agree (R : Session → Session → Prop) (react react' : Reaction) : Prop :=
  ∀ name r s t, R s t → Session.Agree R (react name r s) (react' name r t)

/-- Calls of a function of the code under test come to the same. -/
def Callee.Agree (R : Session → Session → Prop) (f f' : Callee) : Prop :=
  ∀ arguments s t, R s t → Session.Agree R (f arguments s) (f' arguments t)

/-- The event is neither of the log nor the end of a step. -/
def Event.plain : Event → Bool
  | wrote .. | uttered _ | finished _ => false
  | _ => true

/-- A likeness of sessions: they differ in their circumstances only, and whatever depends on these
comes to the same in both. -/
structure Likeness (R : Session → Session → Prop) : Prop where
  /-- All but the circumstances is the same. -/
  rest : ∀ {s t}, R s t → s.amid t = t
  act : ∀ {s t}, R s t → ∀ {f}, Session.Blind f → R (f s) (f t)
  testId : ∀ {s t}, R s t → s.logger.testId = t.logger.testId
  setTestId : ∀ {s t}, R s t → ∀ testId, R { s with logger := { s.logger with testId } }
    { t with logger := { t.logger with testId } }
  scrubs : ∀ {s t}, R s t → s.policy.scrubRegistry = t.policy.scrubRegistry
  replays : ∀ {s t}, R s t → s.policy.replayUnflushed = t.policy.replayUnflushed
  add : ∀ {s t}, R s t → ∀ e : Event, e.plain = true → R (s.add e) (t.add e)
  note : ∀ {s t}, R s t → ∀ n, R (s.note n) (t.note n)
  report : ∀ {s t}, R s t → ∀ err, R (s.report err) (t.report err)
  scrub : ∀ {s t}, R s t → Session.Agree R s.scrubModules t.scrubModules

namespace Likeness
open Session
variable {R : Session → Session → Prop} {react react' : Reaction} {f f' : Callee} {α : Type}

section
variable (likeness : Likeness R) {s t : Session} (alike : R s t)
include likeness alike

/-- What depends on no circumstances is the same in both. -/
theorem read (f : Session → α) (blind : ∀ s t : Session, f (s.amid t) = f s) : f s = f t := by
  rw [← blind s t, likeness.rest alike]

theorem sinks : s.sinks = t.sinks := likeness.read alike _ fun _ _ => rfl

theorem types : s.types = t.types := likeness.read alike _ fun _ _ => rfl

theorem buffer (name : String) : s.buffer name = t.buffer name :=
  likeness.read alike (fun x => x.buffer name) fun _ _ => rfl

theorem observer (name : String) : s.observer name = t.observer name :=
  likeness.read alike (fun x => x.observer name) fun _ _ => rfl

theorem liveGuard? (guard : String) : s.liveGuard? guard = t.liveGuard? guard :=
  likeness.read alike (fun x => x.liveGuard? guard) fun _ _ => rfl

theorem noteAll (ns : List Log.Notice) : R (s.noteAll ns) (t.noteAll ns) := by
  induction ns generalizing s t with
  | nil => exact alike
  | cons n rest ih => exact ih (likeness.note alike n)

theorem raise (err : CaptureError) : Agree R (s.raise err : Attempt α) (t.raise err) :=
  ⟨rfl, likeness.report alike err⟩

theorem withSinks (sinks : Sinks) : R { s with sinks } { t with sinks } :=
  likeness.act alike (f := fun x => { x with sinks }) fun _ _ => rfl

theorem withFacility (facility : Facility) :
    R (s.withFacility facility) (t.withFacility facility) :=
  likeness.act alike (f := fun x => x.withFacility facility) fun _ _ => rfl

theorem setGuard (guard : String) (token : Option Nat) :
    R (s.setGuard guard token) (t.setGuard guard token) :=
  likeness.act alike (f := fun x => x.setGuard guard token) fun _ _ => rfl

theorem changeBuffer (buffer : String) (change : Buffer → Buffer) :
    R (s.setBuffer buffer (change (s.buffer buffer)))
      (t.setBuffer buffer (change (t.buffer buffer))) :=
  likeness.act alike (f := fun x => x.setBuffer buffer (change (x.buffer buffer))) fun _ _ => rfl

theorem pushSink (o : Observer) : Agree R (s.pushSink o) (t.pushSink o) := by
  unfold Session.pushSink
  rw [← likeness.sinks alike]
  exact ⟨rfl, likeness.noteAll (likeness.withSinks alike _) _⟩

theorem releaseSink (token : Nat) (elsewhere : Bool) :
    Agree R (s.releaseSink token elsewhere) (t.releaseSink token elsewhere) := by
  unfold Session.releaseSink
  rw [← likeness.sinks alike]
  exact ⟨rfl, likeness.noteAll (likeness.withSinks alike _) _⟩

theorem dropSink (token : Nat) : R (s.dropSink token) (t.dropSink token) := by
  unfold Session.dropSink
  rw [← likeness.sinks alike]
  exact likeness.noteAll (likeness.withSinks alike _) _

theorem scrubResult : Agree R s.scrubResult t.scrubResult := by
  obtain ⟨outcome, s', t', here, there, after⟩ := (likeness.scrub alike).parts
  simp only [Session.scrubResult, here, there]
  cases outcome with
  | ok report => exact ⟨rfl, after⟩
  | error err => exact likeness.raise after err

theorem scrubBeforeCapture : R s.scrubBeforeCapture t.scrubBeforeCapture := by
  unfold Session.scrubBeforeCapture
  rw [← likeness.scrubs alike]
  split
  · exact (likeness.scrub alike).after
  · exact alike

theorem newObserver (collector : Collector) :
    Agree R (s.newObserver collector) (t.newObserver collector) where
  outcome := likeness.read alike (fun x => (x.newObserver collector).1) fun _ _ => rfl
  after := likeness.act alike (f := fun x => (x.newObserver collector).2) fun _ _ => rfl

theorem nameObserver (name : String) (collector : Collector) :
    R (s.nameObserver name collector) (t.nameObserver name collector) :=
  likeness.act alike (f := fun x => x.nameObserver name collector) fun _ _ => rfl

theorem settle (called : Except Fault α) (restored : Except CaptureError Unit) :
    Agree R (s.settle called restored) (t.settle called restored) := by
  cases restored with
  | ok => cases called <;> exact ⟨rfl, alike⟩
  | error err =>
    cases called with
    | ok => exact likeness.raise alike err
    | error => exact ⟨rfl, likeness.note alike _⟩

theorem capture (calls : f.Agree R f') (collector : Collector) (arguments : Arguments) :
    Agree R (s.capture collector f arguments) (t.capture collector f' arguments) := by
  obtain ⟨observer, s₁, t₁, first, second, named⟩ :=
    (likeness.newObserver (likeness.scrubBeforeCapture alike) collector).parts
  obtain ⟨outcome, s₂, t₂, pushed, pushed', opened⟩ := (likeness.pushSink named observer).parts
  simp only [Session.capture, first, second, pushed, pushed']
  cases outcome with
  | error err => exact likeness.raise opened err
  | ok token =>
    obtain ⟨called, s₃, t₃, ran, ran', ended⟩ := (calls arguments _ _ opened).parts
    obtain ⟨restored, s₄, t₄, left, left', closed⟩ :=
      (likeness.releaseSink ended token false).parts
    simp only [ran, ran', left, left']
    exact likeness.settle closed called restored

theorem collect (calls : f.Agree R f') {scene scene' : Scene} (listener : String)
    (callable : (scene.listener listener).callable = (scene'.listener listener).callable)
    (arguments : Arguments) :
    Agree R (s.collect scene listener f arguments) (t.collect scene' listener f' arguments) := by
  unfold Session.collect
  rw [← callable]
  split
  · exact likeness.capture alike calls _ arguments
  · exact ⟨rfl, alike⟩

theorem enterRun (buffer : String) : R (s.enterRun buffer) (t.enterRun buffer) := by
  have entered := likeness.changeBuffer alike buffer Buffer.enter
  have tagged := likeness.setTestId entered (s.buffer buffer).testId
  unfold Session.enterRun
  rw [← likeness.buffer alike buffer] at tagged ⊢
  exact likeness.add tagged (.began buffer) rfl

theorem leaveRun (buffer : String) (previous : Option String) :
    R (s.leaveRun buffer previous) (t.leaveRun buffer previous) := by
  have left := likeness.changeBuffer alike buffer Buffer.leave
  exact likeness.add (likeness.setTestId left previous) (.ended buffer) rfl

theorem run (calls : f.Agree R f') (buffer : String) (arguments : Arguments) :
    Agree R (s.run buffer f arguments) (t.run buffer f' arguments) := by
  obtain ⟨outcome, s', t', first, second, after⟩ :=
    (likeness.capture (likeness.enterRun alike buffer) calls (.buffer buffer) arguments).parts
  simp only [Session.run, first, second]
  rw [← likeness.testId alike]
  exact ⟨rfl, likeness.leaveRun after buffer _⟩

theorem store (buffer : String) (r : Record) : R (s.store buffer r) (t.store buffer r) :=
  likeness.add (likeness.changeBuffer alike buffer fun b => b.push r) (.stored buffer r) rfl

theorem place (buffer : String) (r : Record) : R (s.place buffer r) (t.place buffer r) :=
  likeness.add (likeness.changeBuffer alike buffer fun b => b.push r) (.placed buffer r) rfl

theorem enterListener (o : Observer) (listener : String) (r : Record) :
    R (s.enterListener o listener r) (t.enterListener o listener r) := by
  have entered : R { s with busy := o.id :: s.busy } { t with busy := o.id :: t.busy } :=
    likeness.act alike (f := fun x => { x with busy := o.id :: x.busy }) fun _ _ => rfl
  exact likeness.add entered (.called listener o.id r) rfl

theorem leaveListener (o : Observer) : R (s.leaveListener o) (t.leaveListener o) := by
  have left : R { s with busy := s.busy.erase o.id } { t with busy := t.busy.erase o.id } :=
    likeness.act alike (f := fun x => { x with busy := x.busy.erase o.id }) fun _ _ => rfl
  exact likeness.add left (.returned o.id) rfl

theorem deliver (calls : react.Agree R react') (o : Observer) (r : Record) :
    Agree R (s.deliver react o r) (t.deliver react' o r) := by
  have busy : s.isBusy o = t.isBusy o :=
    likeness.read alike (fun x => x.isBusy o) fun _ _ => rfl
  unfold Session.deliver
  rw [← busy]
  split
  · exact ⟨rfl, likeness.store alike _ r⟩
  · rename_i listener _
    split
    · exact ⟨rfl, likeness.note (likeness.add alike (.dropped o.id r) rfl) _⟩
    · obtain ⟨outcome, s', t', first, second, after⟩ :=
        (calls listener r _ _ (likeness.enterListener alike o listener r)).parts
      simp only [first, second]
      exact ⟨rfl, likeness.leaveListener after o⟩

theorem callObserver (calls : react.Agree R react') (o : Observer) (message : Printable)
    (category : Category) (file : Printable) (line : Value) :
    Agree R (s.callObserver react o message category file line)
      (t.callObserver react' o message category file line) := by
  unfold Session.callObserver
  split
  · exact ⟨rfl, alike⟩
  · exact likeness.deliver (likeness.add alike _ rfl) calls o _

theorem callHook (calls : react.Agree R react') (hook : Hook) (message : Printable)
    (category : Category) (file : Printable) (line : Value) :
    Agree R (s.callHook react hook message category file line)
      (t.callHook react' hook message category file line) := by
  unfold Session.callHook
  split
  · exact likeness.callObserver alike calls _ message category file line
  · split
    · exact ⟨rfl, alike⟩
    · exact ⟨rfl, likeness.add alike _ rfl⟩

theorem showWarning (calls : react.Agree R react') (message : Printable) (category : Category)
    (file : Printable) (line : Value) :
    Agree R (s.showWarning react message category file line)
      (t.showWarning react' message category file line) := by
  unfold Session.showWarning
  rw [← likeness.sinks alike]
  split
  · exact ⟨rfl, alike⟩
  · exact likeness.callHook alike calls _ message category file line

theorem emit (calls : react.Agree R react') (message : String) (category : Category)
    (file : String) (line : Int) :
    Agree R (s.emit react message category file line)
      (t.emit react' message category file line) := by
  have written := likeness.withFacility alike (s.sinks.facility.emit message category line).2
  unfold Session.emit
  rw [← likeness.sinks alike]
  simp only
  split
  · exact ⟨rfl, written⟩
  · exact ⟨rfl, written⟩
  · exact ⟨rfl, written⟩
  · exact likeness.callHook written calls _ _ category _ _

theorem emitAgain (calls : react.Agree R react') (emitter : FunctionState) (r : Record) :
    Agree R (s.emitAgain react emitter r) (t.emitAgain react' emitter r) := by
  unfold Session.emitAgain
  split
  · exact ⟨rfl, alike⟩
  · exact likeness.emit alike calls _ _ _ _

theorem emitAll (calls : react.Agree R react') (emitter : FunctionState) (buffer : String)
    (records : List Record) :
    Agree R (Session.emitAll react emitter buffer records s)
      (Session.emitAll react' emitter buffer records t) := by
  induction records generalizing s t with
  | nil => exact ⟨rfl, alike⟩
  | cons r rest ih =>
    obtain ⟨outcome, s', t', first, second, after⟩ :=
      (likeness.emitAgain (likeness.add alike (.handed buffer r) rfl) calls emitter r).parts
    simp only [Session.emitAll, first, second]
    cases outcome with
    | ok => exact ih after
    | error fault =>
      have replayed := ih (likeness.note after (replayNotice r fault))
      exact ⟨congrArg (fault :: ·) replayed.outcome, replayed.after⟩

theorem finish (calls : react.Agree R react') (buffer : String) :
    Agree R (s.finish react buffer) (t.finish react' buffer) := by
  have pending : (s.buffer buffer).records = (t.buffer buffer).records :=
    congrArg Buffer.records (likeness.buffer alike buffer)
  have emptied := likeness.changeBuffer alike buffer fun b => { b with records := [] }
  unfold Session.finish
  generalize s.setBuffer buffer { s.buffer buffer with records := [] } = s' at emptied ⊢
  generalize t.setBuffer buffer { t.buffer buffer with records := [] } = t' at emptied ⊢
  rw [← pending]
  simp only [← likeness.sinks emptied, ← likeness.replays emptied]
  split
  · exact ⟨rfl, emptied⟩
  · split
    · exact ⟨rfl, likeness.note (likeness.add emptied _ rfl) _⟩
    · split
      · exact likeness.raise (likeness.add emptied _ rfl) _
      · have taken := likeness.add emptied (.taken buffer (s.buffer buffer).records .replayed) rfl
        have replayed := likeness.emitAll taken calls s'.sinks.facility.warnExplicit buffer
          (s.buffer buffer).records
        simp only [replayed.outcome]
        exact ⟨rfl, likeness.add replayed.after _ rfl⟩

theorem takeRecords (buffer : String) (taken kept : List Record) :
    Agree R (s.takeRecords buffer taken kept) (t.takeRecords buffer taken kept) := by
  have removed := likeness.changeBuffer alike buffer fun b => { b with records := kept }
  exact ⟨rfl, likeness.note (likeness.add removed _ rfl) _⟩

theorem contain (label : String) (operation : Operation) :
    Agree R (s.contain label operation) (t.contain label operation) := by
  cases operation with
  | returns | raises => exact ⟨rfl, alike⟩
  | fails err => exact likeness.raise alike err
  | panics text => exact likeness.raise (likeness.add alike _ rfl) _

theorem pushGuard (guard : String) (o : Observer) :
    Agree R (s.pushGuard guard o) (t.pushGuard guard o) := by
  obtain ⟨outcome, s', t', first, second, pushed⟩ := (likeness.pushSink alike o).parts
  simp only [Session.pushGuard, first, second]
  cases outcome with
  | error err => exact likeness.raise pushed err
  | ok token =>
    have held := likeness.setGuard pushed guard (some token)
    simp only [← likeness.liveGuard? pushed guard]
    cases s'.liveGuard? guard with
    | none => exact ⟨rfl, held⟩
    | some previous => exact ⟨rfl, likeness.dropSink held previous⟩

theorem releaseGuard (guard : String) (elsewhere : Bool) :
    Agree R (s.releaseGuard guard elsewhere) (t.releaseGuard guard elsewhere) := by
  unfold Session.releaseGuard
  rw [← likeness.liveGuard? alike guard]
  split
  · exact ⟨rfl, alike⟩
  · rename_i token _
    obtain ⟨outcome, s', t', first, second, released⟩ :=
      (likeness.releaseSink (likeness.setGuard alike guard none) token elsewhere).parts
    simp only [first, second]
    cases outcome with
    | ok => exact ⟨rfl, released⟩
    | error err => exact likeness.raise released err

theorem dropGuard (guard : String) : Agree R (s.dropGuard guard) (t.dropGuard guard) := by
  unfold Session.dropGuard
  rw [← likeness.liveGuard? alike guard]
  split
  · exact ⟨rfl, alike⟩
  · exact ⟨rfl, likeness.dropSink (likeness.setGuard alike guard none) _⟩

theorem change (act : Facility → Except Fault Unit × Facility) :
    Agree R (s.change (act s.sinks.facility)) (t.change (act t.sinks.facility)) := by
  rw [← likeness.sinks alike]
  exact ⟨rfl, likeness.withFacility alike _⟩

theorem damage (d : HostDamage) : R (s.damage d) (t.damage d) := by
  cases d <;> exact likeness.act alike (f := fun x => x.damage _) fun _ _ => rfl

theorem heal : R s.heal t.heal :=
  likeness.act alike (f := Session.heal) fun _ _ => rfl

end
end Likeness

/-- The step holds others. -/
def Step.isCapture : Step → Bool
  | .run .. | .collect .. => true
  | _ => false

/-- The step holds no others, and has to do with neither the policy nor the log, and with neither
the modules nor the directory. -/
def Step.ordinary : Step → Bool
  | .run .. | .collect .. | .configure _ | .configureFrom _ | .policy | .logState _ | .modules
  | .setModule .. | .deleteModule _ | .giveCache _ | .changeDirectory _ | .flush ..
  | .functionLines _ | .origins .. => false
  | _ => true

theorem Step.perform_plain {step : Step} (plain : step.isCapture = false) (scene : Scene)
    (react : Reaction) (s : Session) :
    step.perform scene react s = s.performPlain scene react step := by
  cases step <;> first | rfl | cases plain

theorem Likeness.performOrdinary {R : Session → Session → Prop} (likeness : Likeness R)
    {s t : Session} (alike : R s t) {scene scene' : Scene} {react react' : Reaction}
    (objects : scene.objects = scene'.objects)
    (callable : ∀ name, (scene.listener name).callable = (scene'.listener name).callable)
    (calls : react.Agree R react') {step : Step} (ordinary : step.ordinary = true) :
    Session.Agree R (s.performPlain scene react step) (t.performPlain scene' react' step) := by
  cases step with
  | run | collect | configure | configureFrom | policy | logState | modules | setModule
  | deleteModule | giveCache | changeDirectory | flush | functionLines | origins => cases ordinary
  | warn message category file line =>
    exact (likeness.emit alike calls message category file line).of _
  | showWith message category file line =>
    exact (likeness.showWarning alike calls message category file line).of _
  | callObserver name message category file line =>
    simp only [Session.performPlain, likeness.observer alike name]
    exact (likeness.callObserver alike calls _ message category file line).of _
  | observe name listener =>
    simp only [Session.performPlain, callable]
    split
    · exact ⟨rfl, likeness.nameObserver alike name _⟩
    · exact ⟨rfl, alike⟩
  | observeInto name buffer => exact ⟨rfl, likeness.nameObserver alike name _⟩
  | push guard name =>
    simp only [Session.performPlain, likeness.observer alike name]
    exact (likeness.pushGuard alike guard _).quiet
  | release guard elsewhere => exact (likeness.releaseGuard alike guard elsewhere).of _
  | drop guard =>
    have dropped := likeness.dropGuard alike guard
    exact ⟨congrArg (fun live => Outcome.returned (.truth live)) dropped.outcome, dropped.after⟩
  | finish buffer => exact (likeness.finish alike calls buffer).of _
  | pending buffer =>
    exact ⟨congrArg (fun b : Buffer => Outcome.returned (.records b.records))
      (likeness.buffer alike buffer), alike⟩
  | describe buffer =>
    exact ⟨congrArg (fun b : Buffer => Outcome.returned (.description b.describe b.testId))
      (likeness.buffer alike buffer), alike⟩
  | pushRecord buffer record =>
    have placed := likeness.place alike buffer record
    exact ⟨congrArg (fun b : Buffer => Outcome.returned (.truth b.records.isEmpty))
      (likeness.buffer placed buffer), placed⟩
  | validate targets =>
    simp only [Session.performPlain, ← likeness.types alike, objects]
    split
    · exact ⟨rfl, alike⟩
    · exact (likeness.raise alike _).quiet
  | scrub => exact (likeness.scrubResult alike).of _
  | replaceHook => exact (likeness.change alike fun f => f.setHook .custom).quiet
  | setFilters filters => exact (likeness.change alike fun f => f.replaceFilters filters).quiet
  | log notice => exact ⟨rfl, likeness.note alike notice⟩
  | setTestId testId =>
    exact ⟨congrArg (fun id => Outcome.returned (.testId id)) (likeness.testId alike),
      likeness.setTestId alike testId⟩
  | fail err => exact (likeness.raise alike err).quiet
  | boundary label operation => exact (likeness.contain alike label operation).of _
  | damage d => exact ⟨rfl, likeness.damage alike d⟩
  | heal => exact ⟨rfl, likeness.heal alike⟩

section
variable (P : Step → Step → Prop)

mutual

/-- The steps are captures that hold corresponding steps, or are related. -/
def Step.Corresponds : Step → Step → Prop
  | .run buffer arguments body ending, step' =>
      ∃ body', step' = .run buffer arguments body' ending ∧ AllCorrespond body body'
  | .collect listener arguments body ending, step' =>
      ∃ body', step' = .collect listener arguments body' ending ∧ AllCorrespond body body'
  | step, step' => P step step'

def AllCorrespond : List Step → List Step → Prop
  | [], steps' => steps' = []
  | step :: rest, steps' =>
      ∃ step' rest', steps' = step' :: rest' ∧ step.Corresponds step' ∧ AllCorrespond rest rest'

end
end

/-- The listeners are taken alike and raise the same, and their steps correspond. -/
structure Listener.Corresponds (P : Step → Step → Prop) (l l' : Listener) : Prop where
  callable : l.callable = l'.callable
  limit : l.limit = l'.limit
  raises : l.raises = l'.raises
  steps : AllCorrespond P l.steps l'.steps

/-- Two scenes in which sessions that are alike stay so: related steps end alike, and listeners
correspond. -/
structure Scene.Parallel (P : Step → Step → Prop) (shown : Outcome → Outcome)
    (R : Session → Session → Prop) (scene scene' : Scene) : Prop where
  likeness : Likeness R
  close : ∀ {s t}, R s t → ∀ step {o o'}, shown o = shown o' → R (s.close step o) (t.close step o')
  related : ∀ {step step'}, P step step' → step.isCapture = false →
    step'.isCapture = false ∧ step'.name = step.name
  plain : ∀ {step step' react react'}, P step step' → step.isCapture = false →
    react.Agree R react' → ∀ {s t}, R s t →
    Session.EndAlike shown R (s.performPlain scene react step) (t.performPlain scene' react' step')
  listener : ∀ name, (scene.listener name).Corresponds P (scene'.listener name)
  totalLimit : scene.totalLimit = scene'.totalLimit

namespace Scene.Parallel
open Session
variable {P : Step → Step → Prop} {shown : Outcome → Outcome} {R : Session → Session → Prop}
  {scene scene' : Scene} {react react' : Reaction}

/-- The function under test of a capture comes to the same if its steps do. -/
theorem body {body body' : List Step}
    (performed : ∀ s t, R s t →
      R (performAll scene react body s) (performAll scene' react' body' t))
    (ending : Ending) :
    Callee.Agree R
      (fun arguments s => (ending.conclude arguments,
        if ending.entered then performAll scene react body s else s))
      (fun arguments s => (ending.conclude arguments,
        if ending.entered then performAll scene' react' body' s else s)) := by
  intro arguments s t alike
  cases ending.entered with
  | true => exact ⟨rfl, performed s t alike⟩
  | false => exact ⟨rfl, alike⟩

theorem name (parallel : scene.Parallel P shown R scene') {step step' : Step}
    (corresponds : step.Corresponds P step') : step'.name = step.name := by
  cases step with
  | run | collect =>
    obtain ⟨_, rfl, _⟩ := corresponds
    rfl
  | _ => exact (parallel.related corresponds rfl).2

mutual

theorem perform (parallel : scene.Parallel P shown R scene') (calls : react.Agree R react')
    (step : Step) {step' : Step} (corresponds : step.Corresponds P step') (s t : Session)
    (alike : R s t) :
    EndAlike shown R (step.perform scene react s) (step'.perform scene' react' t) := by
  cases step with
  | run buffer arguments steps ending =>
    obtain ⟨steps', rfl, inside⟩ := corresponds
    have calls := body (performAll parallel calls steps inside) ending
    exact ((parallel.likeness.run alike calls buffer arguments).of _).ends shown
  | collect listener arguments steps ending =>
    obtain ⟨steps', rfl, inside⟩ := corresponds
    have calls := body (performAll parallel calls steps inside) ending
    exact ((parallel.likeness.collect alike calls listener (parallel.listener listener).callable
      arguments).of _).ends shown
  | _ =>
    rw [Step.perform_plain rfl, Step.perform_plain (parallel.related corresponds rfl).1]
    exact parallel.plain corresponds rfl calls alike

theorem performAll (parallel : scene.Parallel P shown R scene') (calls : react.Agree R react')
    (steps : List Step) {steps' : List Step} (correspond : AllCorrespond P steps steps')
    (s t : Session) (alike : R s t) :
    R (WarningCapture.performAll scene react steps s)
      (WarningCapture.performAll scene' react' steps' t) := by
  cases steps with
  | nil =>
    cases correspond
    exact alike
  | cons step rest =>
    obtain ⟨step', rest', rfl, first, others⟩ := correspond
    have performed := perform parallel calls step first s t alike
    have closed := parallel.close performed.after step.name performed.outcome
    rw [WarningCapture.performAll, WarningCapture.performAll, parallel.name first]
    exact performAll parallel calls rest others _ _ closed

end

/-- A listener comes to the same if its steps do. -/
theorem respond (parallel : scene.Parallel P shown R scene')
    {performSteps performSteps' : List Step → Session → Session}
    (performed : ∀ {steps steps'}, AllCorrespond P steps steps' → ∀ s t, R s t →
      R (performSteps steps s) (performSteps' steps' t)) :
    (Listener.respond scene performSteps).Agree R (Listener.respond scene' performSteps') := by
  intro name r s t alike
  have listener := parallel.listener name
  have calls : s.calls = t.calls := parallel.likeness.read alike _ fun _ _ => rfl
  have counted (calls : Table Nat) : R { s with calls } { t with calls } :=
    parallel.likeness.act alike (f := fun x => { x with calls }) fun _ _ => rfl
  simp only [Listener.respond, ← listener.raises, ← listener.limit, ← calls]
  refine ⟨rfl, ?_⟩
  by_cases performs : (Table.get? name s.calls).getD 0 < (scene.listener name).limit
  · simp only [performs, if_true]
    exact performed listener.steps _ _ (counted _)
  · simp only [performs, if_false]
    exact counted _

/-- Calls of listeners come to the same, however deep they are nested. -/
theorem reaction (parallel : scene.Parallel P shown R scene') (depth : Nat) :
    (scene.reaction depth).Agree R (scene'.reaction depth) := by
  induction depth with
  | zero => exact parallel.respond fun _ _ _ alike => alike
  | succ depth ih => exact parallel.respond fun correspond => performAll parallel ih _ correspond

theorem play (parallel : scene.Parallel P shown R scene') {steps steps' : List Step}
    (correspond : AllCorrespond P steps steps') {s t : Session} (alike : R s t) :
    R (scene.play steps s) (scene'.play steps' t) := by
  unfold Scene.play
  rw [← parallel.totalLimit]
  exact performAll parallel (parallel.reaction _) steps correspond s t alike

end Scene.Parallel
end WarningCapture
