import WarningCapture.Proofs.Session.Bounds
import WarningCapture.Proofs.Session.Draining

/-! What operations do, said once. The story of an operation tells its deeds one after another, each
to the letter, and the answer that it comes to. What happens while it calls into the code under test
is left to the bounds. Whatever else is said of operations is read off their stories. -/
namespace WarningCapture

/-- What an operation comes to, if the history tells of it. -/
inductive Answer where
  | error (err : CaptureError)
  | records (records : List Record)
  | faults (raised : List Fault)
  deriving DecidableEq

/-- The error of the library that is raised, if one is. -/
def raises? (outcome : Except Fault α) : Option Answer :=
  match outcome with
  | .error (.reported err) => some (.error err)
  | _ => none

/-- The answer that a step shows. Of the steps that return records only a flush takes them out. -/
def Outcome.answer? (step : String) : Outcome → Option Answer
  | .failed (.reported err) => some (.error err)
  | .returned (.records records) => if step = "flush" then some (.records records) else none
  | .returned (.faults raised) => if step = "finish" then some (.faults raised) else none
  | _ => none

namespace Event

/-- Events that show or count what an operation does, and that nothing depends on. -/
def incidental : Event → Bool
  | shown .. | scrubbed _ | panicked _ => true
  | _ => false

theorem incidental_aside {e : Event} (incidental : e.incidental = true) : e.aside = true := by
  cases e <;> first | rfl | cases incidental

end Event

namespace Session

/-- A warning may come to the observer: it stands in for the hook, or it has a name. -/
def Reaches (s : Session) (o : Observer) : Prop :=
  s.sinks.facility.hook = some (.observer o) ∨ ∃ name, s.observer name = o

/-- A guard is named, released or dropped. -/
inductive TurnsGuard (s : Session) : Session → Prop where
  | push (guard : String) (o : Observer) : TurnsGuard s (s.pushGuard guard o).2
  | release (guard : String) (elsewhere : Bool) : TurnsGuard s (s.releaseGuard guard elsewhere).2
  | drop (guard : String) : TurnsGuard s (s.dropGuard guard).2

/-- Sinks are installed for named observers and taken off, and guards are set. -/
inductive Handles : Session → Session → Prop where
  | refl (s : Session) : Handles s s
  | trans : Handles s t → Handles t u → Handles s u
  | push (s : Session) (name : String) : Handles s (s.pushSink (s.observer name)).2
  | release (s : Session) (token : Nat) (elsewhere : Bool) :
      Handles s (s.releaseSink token elsewhere).2
  | drop (s : Session) (token : Nat) : Handles s (s.dropSink token)
  | set (s : Session) (guard : String) (held : Option Nat) : Handles s (s.setGuard guard held)

/-- The story of an operation within bounds, from one session to another, with its answer. Records
that are owed at the beginning are emitted again, each of them once and in order. -/
inductive Story (b : Bounds) :
    Session → List (String × Record) → Option Answer → Session → Prop where
  | trans : Story b s [] none t → Story b t [] answer u → Story b s [] answer u
  | arrange (s : Session) (modules : Modules) (types : CallableTypes) (cwd : String)
      (read : List String) (calls : Table Nat) :
      Story b s [] none { s with modules, types, cwd, read, calls }
  | nameObserver (s : Session) (name : String) (collector : Collector) :
      Story b s [] none (s.nameObserver name collector)
  | tag (s : Session) : b.tags testId →
      Story b s [] none { s with logger := { s.logger with testId } }
  | applyPolicy (s : Session) (disk : String → Log.Opening) : b.sets s.policy p →
      Story b s [] none (s.applyPolicy disk p)
  | note (s : Session) (n : Log.Notice) : Story b s [] none (s.note n)
  | tell (s : Session) : e.incidental = true → Story b s [] none (s.add e)
  | report (s : Session) (err : CaptureError) : Story b s [] (some (.error err)) (s.report err)
  /-- An error that was handed in is raised again. -/
  | again (s : Session) : b.given err → Story b s [] (some (.error err)) s
  /-- The facility is written, but no observer comes to stand in for the hook. -/
  | write (s : Session) : b.writes s.sinks.facility f →
      (∀ o, f.hook = some (.observer o) → s.sinks.facility.hook = some (.observer o)) →
      Story b s [] none (s.withFacility f)
  | guard : b.guards → s.TurnsGuard t → s.Handles t → Story b s [] none t
  | guardFailed : b.guards → s.TurnsGuard (t.report err) → s.Handles t →
      Story b s [] (some (.error err)) (t.report err)
  /-- An observer delivers a record to its buffer. -/
  | store (s : Session) (buffer : String) (r : Record) :
      Story b s [] none ((s.add (.captured r)).store buffer r)
  /-- An observer whose listener is running drops a record. -/
  | dismiss (s : Session) (r : Record) : o.collector = .listener listener → s.isBusy o = true →
      Story b s [] none ((s.add (.captured r)).dropRecord o r)
  | call : s.Reaches o → o.collector = .listener listener → s.isBusy o = false →
      b.inside ((s.add (.captured r)).enterListener o listener r) t →
      Story b s [] none (t.leaveListener o)
  | place (s : Session) (buffer : String) (r : Record) : Story b s [] none (s.place buffer r)
  /-- A flush takes the records out that it claims. -/
  | flush (s : Session) (buffer : String) (claimed : Record → Bool) :
      Story b s [] (some (.records ((s.buffer buffer).records.filter claimed)))
        (s.takeRecords buffer ((s.buffer buffer).records.filter claimed)
          ((s.buffer buffer).records.filter (!claimed ·))).2
  /-- A buffer is written as it is. -/
  | touch (s : Session) (buffer : String) :
      Story b s [] none (s.setBuffer buffer (s.buffer buffer))
  | discard (s : Session) (buffer : String) : s.fate ≠ .replayed →
      Story b s [] none (s.sweep buffer)
  /-- The end of a test that emits nothing again. -/
  | pass (s : Session) : Story b s [] (some (.faults [])) s
  | replay {buffer : String} : s.fate = .replayed →
      Story b (s.sweep buffer) ((s.buffer buffer).records.map (buffer, ·)) none t →
      raised.length ≤ (s.buffer buffer).records.length →
      Story b s [] (some (.faults raised))
        (t.add (.replayed buffer (s.buffer buffer).records.length raised))
  | hand {buffer : String} : Story b (s.add (.handed buffer r)) [] none t →
      Story b t owed none u → Story b s ((buffer, r) :: owed) none u
  /-- A capture is refused its sink. -/
  | refuse {collector : Collector} :
      (s.newObserver collector).2.pushSink (s.newObserver collector).1 = (.error err, t) →
      Story b s [] none t
  | capture {collector : Collector} :
      (s.newObserver collector).2.pushSink (s.newObserver collector).1 = (.ok token, t) →
      b.inside t u → Story b s [] none (u.releaseSink token false).2
  | run {buffer : String} : Story b (s.enterRun buffer) [] answer t →
      Story b s [] answer (t.leaveRun buffer s.logger.testId)

/-- The attempt keeps to a relation and raises no error of the library but given ones. -/
structure Conveys (given : CaptureError → Prop) (R : Session → Session → Prop) (s : Session)
    (attempt : Attempt α) : Prop where
  comes : R s attempt.2
  fault : ∀ f, attempt.1 = .error f → f.Given given

end Session

/-- Every call of a listener keeps to a relation, and raises no error of the library but given
ones. -/
def Reaction.Conveys (given : CaptureError → Prop) (R : Session → Session → Prop)
    (react : Reaction) : Prop :=
  ∀ name r s, Session.Conveys given R s (react name r s)

/-- Every call of a function of the code under test keeps to a relation, and raises no error of the
library but given ones. -/
def Callee.Conveys (given : CaptureError → Prop) (R : Session → Session → Prop)
    (f : Callee) : Prop :=
  ∀ arguments s, Session.Conveys given R s (f arguments s)

namespace Session

theorem of_fst_snd (result : α → Result) (attempt : Attempt α) :
    (Outcome.of result attempt).2 = attempt.2 := by
  rcases attempt with ⟨_ | _, _⟩ <;> rfl

variable {b : Bounds} {given : CaptureError → Prop} {s t u : Session} {answer : Option Answer}
  {react : Reaction} {f : Callee} {scene : Scene}

namespace Story

theorem refl (s : Session) : Story b s [] none s :=
  .arrange s s.modules s.types s.cwd s.read s.calls

theorem withModules (s : Session) (modules : Modules) : Story b s [] none { s with modules } :=
  .arrange s modules s.types s.cwd s.read s.calls

theorem noteAll (s : Session) (ns : List Log.Notice) : Story b s [] none (s.noteAll ns) := by
  induction ns generalizing s with
  | nil => exact .refl s
  | cons n rest ih => exact (Story.note s n).trans (ih _)

theorem raise (s : Session) (err : CaptureError) :
    Story b s [] (raises? (s.raise err : Attempt α).1) (s.raise err : Attempt α).2 :=
  .report s err

theorem handed {outcome : Except Fault α} (s : Session)
    (fault : ∀ f, outcome = .error f → f.Given b.given) :
    Story b s [] (raises? outcome) s := by
  rcases outcome with (_ | err) | _
  · exact .refl s
  · exact .again s (fault _ rfl)
  · exact .refl s

theorem of_conveys {attempt : Attempt α}
    (conveys : Conveys b.given (Story b · [] none ·) s attempt) :
    Story b s [] (raises? attempt.1) attempt.2 :=
  conveys.comes.trans (.handed _ conveys.fault)

/-- A step that returns no records of a flush and no collected exceptions answers what it raises. -/
theorem of_attempt {attempt : Attempt α} {result : α → Result} {step : String}
    (silent : ∀ a, (Outcome.returned (result a)).answer? step = none)
    (story : Story b s [] (raises? attempt.1) attempt.2) :
    Story b s [] ((Outcome.of result attempt).1.answer? step) (Outcome.of result attempt).2 := by
  rcases attempt with ⟨(_ | _) | a, t⟩
  · exact story
  · exact story
  · exact (silent a).symm ▸ story

theorem of_quiet_attempt {attempt : Attempt Unit} {step : String}
    (story : Story b s [] (raises? attempt.1) attempt.2) :
    Story b s [] ((Outcome.quiet attempt).1.answer? step) (Outcome.quiet attempt).2 := by
  rcases attempt with ⟨(_ | _) | _, t⟩ <;> exact story

end Story

theorem scrubWith_story {σ κ : Type} [DecidableEq κ] (s : Session) (r : Registry σ κ) (x : σ) :
    Story b s [] none (s.scrubWith r x).2.2 := by
  have walked : Story b s [] none (s.noteAll ((r.walk s.policy.maxScrubPasses x).1.notices
    s.policy.maxScrubPasses)) := .noteAll _ _
  unfold scrubWith
  simp only
  split
  · exact walked.trans (.note _ _)
  · exact walked.trans ((Story.tell _ rfl).trans (.note _ _))

theorem scrubModules_story (s : Session) : Story b s [] none s.scrubModules.2 := by
  unfold scrubModules
  split
  · exact .refl s
  · exact (s.scrubWith_story Modules.registry s.modules).trans (.withModules _ _)

theorem scrubBeforeCapture_story (s : Session) : Story b s [] none s.scrubBeforeCapture := by
  unfold scrubBeforeCapture
  split
  · exact s.scrubModules_story
  · exact .refl s

theorem scrubResult_story (s : Session) :
    Story b s [] (raises? s.scrubResult.1) s.scrubResult.2 := by
  have scrubbed : Story b s [] none s.scrubModules.2 := s.scrubModules_story
  unfold scrubResult
  split
  · rename_i outcome
    rwa [outcome] at scrubbed
  · rename_i outcome
    rw [outcome] at scrubbed
    exact scrubbed.trans (.raise _ _)

/-- A capture as far as to the call: the caches are cleared and the sink is installed. -/
def opened (s : Session) (collector : Collector) : Except CaptureError Nat × Session :=
  let (observer, s) := s.scrubBeforeCapture.newObserver collector
  s.pushSink observer

/-- A capture from the call on: the sink is taken off, and the ending is settled. -/
def concluded (s : Session) (token : Nat) (called : Except Fault Value) : Attempt Value :=
  let (restored, s) := s.releaseSink token false
  s.settle called restored

theorem capture_eq (s : Session) (collector : Collector) (f : Callee) (arguments : Arguments) :
    s.capture collector f arguments =
      match s.opened collector with
      | (.error err, t) => t.raise err
      | (.ok token, t) => (f arguments t).2.concluded token (f arguments t).1 := rfl

/-- A failure to take the sink off is raised if the function returned, and logged if it raised. -/
theorem settle_story (s : Session) {called : Except Fault Value}
    (fault : ∀ f, called = .error f → f.Given b.given) (restored : Except CaptureError Unit) :
    Story b s [] (raises? (s.settle called restored).1) (s.settle called restored).2 := by
  cases restored with
  | ok => exact .handed s fault
  | error err =>
    cases called with
    | ok => exact .report s err
    | error => exact (Story.note s _).trans (.handed _ fault)

theorem capture_story (conveys : f.Conveys b.given b.inside) (s : Session) (collector : Collector)
    (arguments : Arguments) :
    Story b s [] (raises? (s.capture collector f arguments).1)
      (s.capture collector f arguments).2 := by
  have scrubbed : Story b s [] none s.scrubBeforeCapture := s.scrubBeforeCapture_story
  rw [capture_eq]
  split
  · rename_i refused
    exact scrubbed.trans ((Story.refuse refused).trans (.raise _ _))
  · rename_i t installed
    have called := conveys arguments t
    exact scrubbed.trans ((Story.capture installed called.comes).trans
      (settle_story _ called.fault _))

theorem collect_story (conveys : f.Conveys b.given b.inside) (s : Session) (listener : String)
    (arguments : Arguments) :
    Story b s [] (raises? (s.collect scene listener f arguments).1)
      (s.collect scene listener f arguments).2 := by
  unfold collect
  split
  · exact capture_story conveys s _ arguments
  · exact .refl s

theorem run_story (conveys : f.Conveys b.given b.inside) (s : Session) (buffer : String)
    (arguments : Arguments) :
    Story b s [] (raises? (s.run buffer f arguments).1) (s.run buffer f arguments).2 :=
  .run (capture_story conveys _ _ arguments)

/-- An observer takes what makes a record, and passes it on once. -/
theorem callObserver_story (conveys : react.Conveys given b.inside) {o : Observer}
    (reaches : s.Reaches o) {message : Printable} {category : Category} {file : Printable}
    {line : Value} (hands : message.HandsIn given) (handsFile : file.HandsIn given) :
    Conveys given (Story b · [] none ·) s
      (s.callObserver react o message category file line) := by
  unfold callObserver
  split
  · rename_i failed
    refine ⟨.refl s, fun f raised => ?_⟩
    cases raised
    exact Record.ofShown_given hands handsFile failed
  · rename_i r _
    unfold deliver
    split
    · exact ⟨.store s _ r, nofun⟩
    · rename_i listener collector
      split
      · rename_i busy
        exact ⟨.dismiss s r collector busy, nofun⟩
      · rename_i idle
        rw [Bool.not_eq_true] at idle
        have called := conveys listener r ((s.add (.captured r)).enterListener o listener r)
        exact ⟨.call reaches collector idle called.comes, called.fault⟩

theorem callHook_story (conveys : react.Conveys given b.inside) {hook : Hook}
    (current : s.sinks.facility.hook = some hook) {message : Printable} {category : Category}
    {file : Printable} {line : Value} (hands : message.HandsIn given)
    (handsFile : file.HandsIn given) :
    Conveys given (Story b · [] none ·) s
      (s.callHook react hook message category file line) := by
  unfold callHook
  split
  · exact callObserver_story conveys (.inl current) hands handsFile
  · split
    · rename_i failed
      refine ⟨.refl s, fun f raised => ?_⟩
      cases raised
      exact hands _ failed
    · exact ⟨.tell s rfl, nofun⟩

theorem showWarning_story (conveys : react.Conveys given b.inside) (s : Session)
    {message : Printable} {category : Category} {file : Printable} {line : Value}
    (hands : message.HandsIn given) (handsFile : file.HandsIn given) :
    Conveys given (Story b · [] none ·) s
      (s.showWarning react message category file line) := by
  unfold showWarning Facility.getHook
  cases current : s.sinks.facility.hook with
  | none =>
    refine ⟨.refl s, fun f raised => ?_⟩
    cases raised
    trivial
  | some hook => exact callHook_story conveys current hands handsFile

/-- A warning that is emitted leaves its mark on the memory of the facility first. -/
theorem emit_story (conveys : react.Conveys given b.inside) (s : Session) (message : String)
    (category : Category) (file : String) (line : Int) :
    Conveys given (Story b · [] none ·) s (s.emit react message category file line) := by
  have written : Story b s [] none
      (s.withFacility (s.sinks.facility.emit message category line).2) :=
    .write s (b.remembers _ _ _ _) fun o hook => by rwa [Facility.emit_keeps_hook] at hook
  unfold emit
  simp only
  split
  · rename_i failed
    refine ⟨written, fun f raised => ?_⟩
    cases raised
    exact Facility.emit_given (Prod.ext failed rfl)
  · exact ⟨written, nofun⟩
  · exact ⟨written, nofun⟩
  · rename_i hook shown
    have current : (s.sinks.facility.emit message category line).2.hook = some hook :=
      Facility.emit_hook (Prod.ext shown rfl)
    have called : Conveys given (Story b · [] none ·) _
        ((s.withFacility (s.sinks.facility.emit message category line).2).callHook react hook
          (.value (.text message)) category (.value (.text file)) (.int line)) :=
      callHook_story conveys current nofun nofun
    exact ⟨written.trans called.comes, called.fault⟩

theorem emitAgain_story (conveys : react.Conveys given b.inside) (emitter : FunctionState)
    (s : Session) (r : Record) :
    Conveys given (Story b · [] none ·) s (s.emitAgain react emitter r) := by
  unfold emitAgain
  split
  · refine ⟨.refl s, fun f raised => ?_⟩
    cases raised
    trivial
  · exact emit_story conveys s _ _ _ _

/-- Emitting records again hands over, one after another, those that were owed. -/
theorem emitAll_story (conveys : react.Conveys given b.inside) (emitter : FunctionState)
    (buffer : String) (records : List Record) (s : Session) :
    Story b s (records.map (buffer, ·)) none (emitAll react emitter buffer records s).2 := by
  induction records generalizing s with
  | nil => exact .refl s
  | cons r rest ih =>
    have emitted := (emitAgain_story conveys emitter (s.add (.handed buffer r)) r).comes
    unfold emitAll
    split
    · rename_i outcome
      rw [outcome] at emitted
      exact .hand emitted (ih _)
    · rename_i outcome
      rw [outcome] at emitted
      exact .hand (emitted.trans (.note _ _)) (ih _)

theorem emitAll_length (react : Reaction) (emitter : FunctionState) (buffer : String)
    (records : List Record) (s : Session) :
    (emitAll react emitter buffer records s).1.length ≤ records.length := by
  induction records generalizing s with
  | nil => exact Nat.le_refl 0
  | cons r rest ih =>
    unfold emitAll
    split
    · exact (ih _).trans (Nat.le_succ _)
    · exact Nat.succ_le_succ (ih _)

theorem finish_story (conveys : react.Conveys given b.inside) (s : Session) (buffer : String) :
    Story b s [] ((Outcome.of .faults (s.finish react buffer)).1.answer? "finish")
      (Outcome.of .faults (s.finish react buffer)).2 := by
  have swept (away : s.fate ≠ .replayed) : Story b s [] none (s.sweep buffer) :=
    .discard s buffer away
  rw [finish_eq]
  split
  · exact (Story.touch s buffer).trans (.pass _)
  · split
    · rename_i fate
      exact (swept (by simp [fate])).trans ((Story.note _ _).trans (.pass _))
    · rename_i fate
      exact (swept (by simp [fate])).trans (.report _ _)
    · rename_i fate
      exact .replay fate (emitAll_story conveys _ buffer _ _) (emitAll_length react _ buffer _ _)

theorem noteResolution_story (s : Session) (r : Resolution) :
    Story b s [] none (s.noteResolution r) :=
  (Story.arrange s s.modules s.types s.cwd (r.read ++ s.read) s.calls).trans (.noteAll _ _)

theorem functionLines_story (objects : HostObjects) (s : Session) (target : String) :
    Story b s [] (raises? (s.functionLines objects target).1)
      (s.functionLines objects target).2 := by
  unfold functionLines
  split
  · exact .raise s _
  · exact s.noteResolution_story _

theorem origins_story (objects : HostObjects) (s : Session) (targets : List String)
    (queries : List (String × Nat)) :
    Story b s [] ((Outcome.of id (s.origins objects targets queries)).1.answer? "origins")
      (Outcome.of id (s.origins objects targets queries)).2 := by
  unfold origins
  split
  · exact .report s _
  · exact (s.noteResolution_story _).trans (.noteAll _ _)

/-- A flush of all records claims all of them. -/
theorem flush_story (objects : HostObjects) (s : Session) (buffer : String)
    {targets : TargetList} (hands : (Step.flush buffer targets).HandsIn b.given) :
    Story b s [] ((Outcome.of .records (s.flush objects buffer targets)).1.answer? "flush")
      (Outcome.of .records (s.flush objects buffer targets)).2 := by
  unfold flush
  split
  · have everything : Story b s [] _ _ := .flush s buffer fun _ => true
    rw [List.filter_eq_self.mpr fun _ _ => rfl, List.filter_eq_nil_iff.mpr (by simp)] at everything
    exact everything
  · rename_i f
    cases f with
    | raised => exact .refl s
    | reported err => exact .again s hands
  · split
    · exact .report s _
    · rename_i resolution _
      let u := (s.noteResolution resolution).noteAll
        ((s.buffer buffer).records.flatMap (resolution.recordNotices s.cwd))
      have noted : Story b s [] none u := (s.noteResolution_story _).trans (.noteAll _ _)
      have same : u.buffer buffer = s.buffer buffer := by
        have remarked := (s.noteResolution_remarked resolution).trans (noteAll_remarked _
          ((s.buffer buffer).records.flatMap (resolution.recordNotices s.cwd)))
        exact buffer_congr remarked.buffers buffer
      have taken : Story b u [] _ _ := .flush u buffer (resolution.claimsRecord s.cwd)
      rw [same] at taken
      exact noted.trans taken

theorem contain_story (s : Session) (label : String) {operation : Operation}
    (hands : (Step.boundary label operation).HandsIn b.given) :
    Story b s [] (raises? (s.contain label operation).1) (s.contain label operation).2 := by
  cases operation with
  | returns => exact .refl s
  | fails err => exact .report s err
  | raises f => exact .handed s fun _ raised => by cases raised; exact hands
  | panics text => exact (Story.tell s rfl).trans (.report _ _)

theorem configure_story (disk : String → Log.Opening) (s : Session) {u : Policy.Update}
    (sets : (Step.configure u).SetsWithin b.sets) :
    Story b s [] (raises? (s.configure disk u).1) (s.configure disk u).2 := by
  unfold configure
  split
  · exact .report s _
  · rename_i accepted
    exact .applyPolicy s disk (sets _ _ accepted)

theorem configureFrom_story (disk : String → Log.Opening) (s : Session) {env : Environment}
    (sets : (Step.configureFrom env).SetsWithin b.sets) :
    Story b s [] (raises? (s.configureFrom disk env).1) (s.configureFrom disk env).2 := by
  unfold configureFrom
  split
  · exact .report s _
  · rename_i accepted
    exact .applyPolicy s disk (sets _ _ accepted)

theorem giveCache_story (s : Session) (name : String) : Story b s [] none (s.giveCache name) := by
  unfold giveCache
  split
  · exact .withModules s _
  · exact .refl s

theorem pushGuard_story (guards : b.guards) (s : Session) (guard name : String) :
    Story b s [] (raises? (s.pushGuard guard (s.observer name)).1)
      (s.pushGuard guard (s.observer name)).2 := by
  have turned : s.TurnsGuard (s.pushGuard guard (s.observer name)).2 := .push guard _
  have pushed : s.Handles (s.pushSink (s.observer name)).2 := .push s name
  unfold pushGuard at turned ⊢
  cases outcome : s.pushSink (s.observer name) with
  | mk result t =>
    rw [outcome] at turned pushed
    cases result with
    | error err => exact .guardFailed guards turned pushed
    | ok token =>
      refine .guard guards turned (pushed.trans ?_)
      have held : t.Handles (t.setGuard guard (some token)) := .set t guard _
      simp only
      cases t.liveGuard? guard with
      | none => exact held
      | some old => exact held.trans (.drop _ old)

theorem releaseGuard_story (guards : b.guards) (s : Session) (guard : String) (elsewhere : Bool) :
    Story b s [] (raises? (s.releaseGuard guard elsewhere).1)
      (s.releaseGuard guard elsewhere).2 := by
  have turned : s.TurnsGuard (s.releaseGuard guard elsewhere).2 := .release guard elsewhere
  unfold releaseGuard at turned ⊢
  cases held : s.liveGuard? guard with
  | none => exact .refl s
  | some token =>
    simp only [held] at turned ⊢
    have released : s.Handles ((s.setGuard guard none).releaseSink token elsewhere).2 :=
      (Handles.set s guard none).trans (.release _ token elsewhere)
    cases outcome : (s.setGuard guard none).releaseSink token elsewhere with
    | mk result t =>
      rw [outcome] at turned released
      cases result with
      | ok => exact .guard guards turned released
      | error err => exact .guardFailed guards turned released

theorem dropGuard_story (guards : b.guards) (s : Session) (guard : String) :
    Story b s [] none (s.dropGuard guard).2 := by
  refine .guard guards (.drop guard) ?_
  unfold dropGuard
  split
  · exact .refl s
  · exact (Handles.set s guard none).trans (.drop _ _)

/-- What the facility refuses to be changed with is no error of the library. -/
theorem change_story (s : Session) {attempt : Except Fault Unit × Facility}
    (writes : b.writes s.sinks.facility attempt.2)
    (hook : ∀ o, attempt.2.hook = some (.observer o) → s.sinks.facility.hook = some (.observer o))
    (fault : ∀ f, attempt.1 = .error f → f.Given b.given) :
    Story b s [] (raises? (s.change attempt).1) (s.change attempt).2 :=
  (Story.write s writes hook).trans (.handed _ fault)

/-- What the code under test assigns to the hook is no observer. -/
theorem replaceHook_story (s : Session)
    (writes : b.writes s.sinks.facility (s.sinks.facility.setHook .custom).2) :
    Story b s [] (raises? (s.change (s.sinks.facility.setHook .custom)).1)
      (s.change (s.sinks.facility.setHook .custom)).2 := by
  refine s.change_story writes (fun o hook => ?_) fun f refused => ?_
  · unfold Facility.setHook at hook
    split at hook
    · exact hook
    · cases hook
  · unfold Facility.setHook at refused
    split at refused <;> cases refused
    trivial

theorem setFilters_story (s : Session) (filters : List Filter)
    (writes : b.writes s.sinks.facility (s.sinks.facility.replaceFilters filters).2) :
    Story b s [] (raises? (s.change (s.sinks.facility.replaceFilters filters)).1)
      (s.change (s.sinks.facility.replaceFilters filters)).2 := by
  refine s.change_story writes (fun o hook => ?_) fun f refused => ?_
  · unfold Facility.replaceFilters Facility.assignFilters at hook
    cases bound : s.sinks.facility.binding <;> rw [bound] at hook <;> exact hook
  · unfold Facility.replaceFilters Facility.assignFilters at refused
    cases bound : s.sinks.facility.binding <;> rw [bound] at refused <;> cases refused <;> trivial

theorem damage_story (s : Session) {d : HostDamage}
    (writes : (Step.damage d).WritesWithin b.writes) : Story b s [] none (s.damage d) := by
  cases d with
  | facility d =>
    refine .write s (writes _) fun o hook => ?_
    cases d <;> first | exact hook | cases hook
  | functionType => exact .arrange s s.modules _ s.cwd s.read s.calls
  | methodType => exact .arrange s s.modules _ s.cwd s.read s.calls

theorem heal_story (s : Session) (writes : Step.heal.WritesWithin b.writes) :
    Story b s [] none s.heal := by
  have mended : Story b s [] none (s.withFacility s.sinks.facility.heal) :=
    .write s (writes _) fun _ hook => nomatch hook
  exact mended.trans (.arrange _ s.modules {} s.cwd s.read s.calls)

theorem performPlain_story (conveys : react.Conveys b.given b.inside) (step : Step)
    (within : step.Within b) (s : Session) :
    Story b s [] ((s.performPlain scene react step).1.answer? step.name)
      (s.performPlain scene react step).2 := by
  have guards := within.guards
  obtain ⟨writes, tags, hands, sets, _⟩ := within
  cases step with
  | run | collect | pending | describe | modules | policy | logState => exact .refl s
  | warn message category file line =>
    exact .of_attempt (fun _ => rfl) (.of_conveys (emit_story conveys s message category file line))
  | showWith message category file line =>
    exact .of_attempt (fun _ => rfl) (.of_conveys (showWarning_story conveys s hands.1 hands.2))
  | callObserver name message category file line =>
    exact .of_attempt (fun _ => rfl)
      (.of_conveys (callObserver_story conveys (.inr ⟨name, rfl⟩) hands.1 hands.2))
  | observe name listener =>
    simp only [performPlain]
    split
    · exact .nameObserver s name _
    · exact .refl s
  | observeInto name buffer => exact .nameObserver s name _
  | push guard name => exact .of_quiet_attempt (pushGuard_story (guards trivial) s guard name)
  | release guard elsewhere =>
    exact .of_attempt (fun _ => rfl) (releaseGuard_story (guards trivial) s guard elsewhere)
  | drop guard => exact dropGuard_story (guards trivial) s guard
  | flush buffer targets => exact flush_story scene.objects s buffer hands
  | finish buffer => exact finish_story conveys s buffer
  | pushRecord buffer record => exact .place s buffer record
  | functionLines target =>
    exact .of_attempt (fun _ => rfl) (s.functionLines_story scene.objects target)
  | validate targets =>
    simp only [performPlain]
    split
    · exact .refl s
    · exact .of_quiet_attempt (.raise s _)
  | origins targets queries => exact s.origins_story scene.objects targets queries
  | scrub => exact .of_attempt (fun _ => rfl) s.scrubResult_story
  | setModule | deleteModule => exact .withModules s _
  | giveCache name => exact s.giveCache_story name
  | changeDirectory cwd => exact .arrange s s.modules s.types cwd s.read s.calls
  | replaceHook => exact .of_quiet_attempt (s.replaceHook_story (writes _))
  | setFilters filters => exact .of_quiet_attempt (s.setFilters_story filters (writes _))
  | configure update => exact .of_attempt (fun _ => rfl) (s.configure_story scene.disk sets)
  | configureFrom env => exact .of_attempt (fun _ => rfl) (s.configureFrom_story scene.disk sets)
  | log notice => exact .note s notice
  | setTestId testId => exact .tag s tags
  | fail err => exact .of_quiet_attempt (.raise s err)
  | boundary label operation => exact .of_attempt (fun _ => rfl) (s.contain_story label hands)
  | damage d => exact s.damage_story writes
  | heal => exact s.heal_story writes

end Session
end WarningCapture
