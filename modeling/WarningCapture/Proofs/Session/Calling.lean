import WarningCapture.Proofs.Session.Layering

/-! What a capture comes to. Whether its sink can be installed is decided by the sinks alone; then
the function is called once, and what it raises goes before anything else. Captures around captures
do the same. -/
namespace WarningCapture

namespace Session

theorem opened_cases (s : Session) (collector : Collector) :
    (s.opened collector).1 = (s.sinks.push (s.newObserver collector).1).1 ∧
    ∃ modules, ({ s with
        modules, nextObserver := s.nextObserver + 1
        sinks := (s.sinks.push (s.newObserver collector).1).2.1 } : Session).Remarked
      (s.opened collector).2 := by
  obtain ⟨modules, es, scrubbed, asides⟩ := s.scrubBeforeCapture_remarked
  let begun : Session := { s with modules, nextObserver := s.nextObserver + 1 }
  have opens : s.opened collector =
      { begun with history := es ++ s.history }.pushSink (s.newObserver collector).1 := by
    simp only [opened, scrubbed, newObserver, begun]
  have remarked : begun.Remarked { begun with history := es ++ s.history } := ⟨es, rfl, asides⟩
  rw [opens]
  exact ⟨rfl, modules, (remarked.moved [.push _]).trans (pushSink_remarked _ _)⟩

/-- How a call ends, from what the function came to and the session that it left. -/
abbrev Closing := Except Fault Value → Session → Attempt Value

/-- A call ends by taking the sink off. -/
structure Concludes (token : Nat) (ends : Closing) : Prop where
  raised : ∀ fault u, (ends (.error fault) u).1 = .error fault
  returned : ∀ v u, (u.sinks.release token false).1 = .ok () → (ends (.ok v) u).1 = .ok v
  unrestored : ∀ v u err, (u.sinks.release token false).1 = .error err →
    (ends (.ok v) u).1 = .error (.reported err) ∧ err.code = .sinkRestoreFailed ∧
      err.errorClass = .environment
  takenOff : ∀ called u, (ends called u).2.sinks = (u.sinks.release token false).2.1
  history : ∀ called u, u.history <:+ (ends called u).2.history

/-- A call ends with the exception of the function, with its value, or with the failure to take a
sink off again. -/
structure PassesOn (ends : Closing) : Prop where
  raised : ∀ fault u, (ends (.error fault) u).1 = .error fault
  returned : ∀ v u, (ends (.ok v) u).1 = .ok v ∨
    ∃ err, err.code = .sinkRestoreFailed ∧ (ends (.ok v) u).1 = .error (.reported err)

theorem Concludes.passesOn {token : Nat} {ends : Closing} (concludes : Concludes token ends) :
    PassesOn ends where
  raised := concludes.raised
  returned v u := by
    cases restored : (u.sinks.release token false).1 with
    | ok => exact .inl (concludes.returned v u restored)
    | error err =>
      obtain ⟨reported, code, _⟩ := concludes.unrestored v u err restored
      exact .inr ⟨err, code, reported⟩

/-- The failure of an inner call is an exception like any other to the call around it. -/
theorem PassesOn.around {outer inner : Closing} (first : PassesOn outer) (second : PassesOn inner) :
    PassesOn fun called u => outer (inner called u).1 (inner called u).2 where
  raised fault u := by
    rw [second.raised]
    exact first.raised fault _
  returned v u := by
    rcases second.returned v u with ok | ⟨err, code, failed⟩
    · rw [ok]
      exact first.returned v _
    · rw [failed]
      exact .inr ⟨err, code, first.raised _ _⟩

theorem settle_outcome (s : Session) (called : Except Fault Value)
    (restored : Except CaptureError Unit) :
    (s.settle called restored).1 =
      match called, restored with
      | .error fault, _ => .error fault
      | .ok v, .ok () => .ok v
      | .ok _, .error err => .error (.reported err) := by
  cases called <;> cases restored <;> rfl

theorem concluded_concludes (token : Nat) :
    Concludes token fun called u => u.concluded token called := by
  have released (u : Session) :
      (u.releaseSink token false).1 = (u.sinks.release token false).1 := rfl
  have remarked (called : Except Fault Value) (u : Session) :
      (u.releaseSink token false).2.Remarked (u.concluded token called).2 :=
    settle_remarked _ _ _
  constructor
  · intro fault u
    simp only [concluded, settle_outcome]
  · intro v u ok
    simp only [concluded, settle_outcome, released, ok]
  · intro v u err failed
    refine ⟨?_, Sinks.release_failure failed⟩
    simp only [concluded, settle_outcome, released, failed]
  · intro called u
    exact (remarked called u).sinks.trans (releaseSink_sinks u token false)
  · intro called u
    exact (u.releaseSink_remarked token false).history.trans (remarked called u).history

end Session

/-- The two ways to call a function with its warnings captured. -/
inductive Capturing where
  | run (buffer : String)
  | collect (listener : String)

namespace Capturing

def collector : Capturing → Collector
  | run buffer => .buffer buffer
  | collect listener => .listener listener

/-- What is to collect the warnings is acceptable: a listener has to be callable. -/
def Accepted (scene : Scene) : Capturing → Prop
  | run _ => True
  | collect listener => (scene.listener listener).callable = true

def call (scene : Scene) (c : Capturing) (f : Callee) : Callee := fun arguments s =>
  match c with
  | run buffer => s.run buffer f arguments
  | collect listener => s.collect scene listener f arguments

/-- Captures one around the other, the outermost first, each called by the one around it. -/
def callAll (scene : Scene) : List Capturing → Callee → Callee
  | [], f => f
  | c :: rest, f => c.call scene (callAll scene rest f)

/-- A run of a buffer begins before its capture does. -/
def begun (c : Capturing) (s : Session) : Session :=
  match c with
  | run buffer => s.enterRun buffer
  | collect _ => s

/-- A run of a buffer that began in the first session ends in the second. -/
def left (c : Capturing) (s t : Session) : Session :=
  match c with
  | run buffer => t.leaveRun buffer s.logger.testId
  | collect _ => t

/-- The outcome of installing the sink, and the session in which the function is called. -/
def opened (c : Capturing) (s : Session) : Except CaptureError Nat × Session :=
  (c.begun s).opened c.collector

variable {scene : Scene} {c : Capturing} {s : Session}

theorem call_eq (accepted : c.Accepted scene) (f : Callee) (arguments : Arguments) :
    c.call scene f arguments s =
      match c.opened s with
      | (.error err, t) => (.error (.reported err), c.left s (t.report err))
      | (.ok token, t) =>
          (((f arguments t).2.concluded token (f arguments t).1).1,
            c.left s ((f arguments t).2.concluded token (f arguments t).1).2) := by
  cases c with
  | run buffer =>
    simp only [call, opened, begun, left, collector, Session.run, Session.capture_eq]
    rcases (s.enterRun buffer).opened (.buffer buffer) with ⟨_ | _, _⟩ <;> rfl
  | collect listener =>
    simp only [call, opened, begun, left, collector, Session.collect, Session.capture_eq,
      if_pos (show (scene.listener listener).callable = true from accepted)]
    rcases s.opened (.listener listener) with ⟨_ | _, _⟩ <;> rfl

theorem left_sinks (c : Capturing) (s t : Session) : (c.left s t).sinks = t.sinks := by
  cases c <;> rfl

theorem left_history (c : Capturing) (s t : Session) : t.history <:+ (c.left s t).history := by
  cases c with
  | run => exact List.suffix_cons _ _
  | collect => exact List.suffix_rfl

/-- The session in which the function is called differs from the one in which the capture begins by
the sink, by caches that were cleared, and by remarks. -/
def Opens (c : Capturing) (s t : Session) : Prop :=
  ∃ modules, ({ c.begun s with
      modules, nextObserver := s.nextObserver + 1
      sinks := (s.sinks.push (s.newObserver c.collector).1).2.1 } : Session).Remarked t

theorem opened_opens (c : Capturing) (s : Session) :
    (c.opened s).1 = (s.sinks.push (s.newObserver c.collector).1).1 ∧
      c.Opens s (c.opened s).2 := by
  have sinks : (c.begun s).sinks = s.sinks := by cases c <;> rfl
  have next : (c.begun s).nextObserver = s.nextObserver := by cases c <;> rfl
  obtain ⟨outcome, modules, remarked⟩ := (c.begun s).opened_cases c.collector
  simp only [Session.newObserver, sinks, next] at outcome remarked
  exact ⟨outcome, modules, remarked⟩

theorem Opens.sinks {t : Session} (opens : c.Opens s t) :
    t.sinks = (s.sinks.push (s.newObserver c.collector).1).2.1 := by
  obtain ⟨_, remarked⟩ := opens
  exact remarked.sinks

theorem Opens.busy {t : Session} (opens : c.Opens s t) : t.busy = s.busy := by
  obtain ⟨_, remarked⟩ := opens
  rw [remarked.busy]
  cases c <;> rfl

theorem Opens.history {t : Session} (opens : c.Opens s t) : s.history <:+ t.history := by
  have begun : s.history <:+ (c.begun s).history := by
    cases c with
    | run => exact List.suffix_cons _ _
    | collect => exact List.suffix_rfl
  obtain ⟨_, remarked⟩ := opens
  exact begun.trans remarked.history

/-- The sink of a capture is refused, or it is installed for a new observer of the collector. -/
theorem opened_cases (c : Capturing) (s : Session) :
    (∃ fault t, c.opened s = (.error (Sinks.installFailed fault), t) ∧
      (s.sinks.push (s.newObserver c.collector).1).1 = .error (Sinks.installFailed fault) ∧
      s.sinks.Refuses t.sinks ∧ c.Opens s t) ∨
    ∃ frame t, c.opened s = (.ok frame.token, t) ∧
      s.sinks.Installs (s.newObserver c.collector).1 frame t.sinks ∧ c.Opens s t := by
  obtain ⟨outcome, opens⟩ := c.opened_opens s
  cases opened : c.opened s with
  | mk result t =>
    rw [opened] at outcome opens
    have pushed : s.sinks.push (s.newObserver c.collector).1 = (result, t.sinks, _) :=
      Prod.ext outcome.symm (Prod.ext opens.sinks.symm rfl)
    cases result with
    | error err =>
      obtain ⟨fault, rfl⟩ := Sinks.push_refusal outcome.symm
      exact .inl ⟨fault, t, rfl, outcome.symm, Sinks.push_error pushed, opens⟩
    | ok token =>
      obtain ⟨frame, rfl, installs⟩ := Sinks.push_ok pushed
      exact .inr ⟨frame, t, rfl, installs, opens⟩

/-- A sink that cannot be installed is reported and nothing is called. Otherwise the function is
called once, under the sink, and the call ends by what came of it and of taking the sink off. -/
theorem call_cases (accepted : c.Accepted scene) (arguments : Arguments) (s : Session) :
    (∃ err t, (s.sinks.push (s.newObserver c.collector).1).1 = .error err ∧
      err.code = .sinkInstallFailed ∧ err.errorClass = .environment ∧
      ∀ f, c.call scene f arguments s = (.error (.reported err), t)) ∨
    ∃ frame t ends, s.sinks.Installs (s.newObserver c.collector).1 frame t.sinks ∧ c.Opens s t ∧
      Session.Concludes frame.token ends ∧
      ∀ f, c.call scene f arguments s = ends (f arguments t).1 (f arguments t).2 := by
  rcases c.opened_cases s with
    ⟨fault, t, opened, refused, _⟩ | ⟨frame, t, opened, installs, opens⟩
  · refine .inl ⟨_, c.left s (t.report (Sinks.installFailed fault)), refused, rfl, rfl, fun f => ?_⟩
    rw [call_eq accepted, opened]
  · have ends := Session.concluded_concludes frame.token
    refine .inr ⟨frame, t, fun called u =>
      ((u.concluded frame.token called).1, c.left s (u.concluded frame.token called).2),
      installs, opens, ⟨ends.raised, ends.returned, ends.unrestored, ?_, ?_⟩, fun f => ?_⟩
    · exact fun called u => (c.left_sinks s _).trans (ends.takenOff called u)
    · exact fun called u => (ends.history called u).trans (c.left_history s _)
    · rw [call_eq accepted, opened]

/-- A function under any number of captures is called once, under the sinks of all of them, or not
at all; its exception passes through all of them, and a value does unless a sink cannot be taken
off. -/
theorem callAll_cases {cs : List Capturing} (accepted : ∀ c ∈ cs, c.Accepted scene)
    (arguments : Arguments) (s : Session) :
    (∃ err t, err.code = .sinkInstallFailed ∧
      ∀ f, callAll scene cs f arguments s = (.error (.reported err), t)) ∨
    ∃ (t : Session) (ends : Session.Closing), t.sinks.depth = s.sinks.depth + cs.length ∧
      Session.PassesOn ends ∧
      ∀ f, callAll scene cs f arguments s = ends (f arguments t).1 (f arguments t).2 := by
  -- The captures inside are called in the session that the outer one opens, not in this one.
  induction cs generalizing s with
  | nil =>
    exact .inr ⟨s, fun called u => (called, u), rfl, ⟨fun _ _ => rfl, fun _ _ => .inl rfl⟩,
      fun f => rfl⟩
  | cons c rest ih =>
    obtain ⟨outer, inner⟩ := List.forall_mem_cons.mp accepted
    rcases call_cases outer arguments s with
      ⟨err, t, _, code, _, refused⟩ | ⟨frame, t, ends, installs, _, concludes, called⟩
    · exact .inl ⟨err, t, code, fun f => refused _⟩
    · rcases ih inner t with
        ⟨err, u, code, refused⟩ | ⟨u, innerEnds, depth, passesOn, calledInside⟩
      · refine .inl ⟨err, (ends (.error (.reported err)) u).2, code, fun f => ?_⟩
        rw [callAll, called, refused]
        exact Prod.ext (concludes.raised _ u) rfl
      · refine .inr ⟨u, _, ?_, concludes.passesOn.around passesOn, fun f => ?_⟩
        · rw [depth, Sinks.depth, installs.frames, List.length_append, List.length_singleton,
            List.length_cons, Sinks.depth]
          omega
        · rw [callAll, called, calledInside]

/-- The function under test of a capture. -/
def callee (scene : Scene) (react : Reaction) (body : List Step) (ending : Ending) : Callee :=
  fun arguments s =>
    (ending.conclude arguments, if ending.entered then performAll scene react body s else s)

theorem perform_run (react : Reaction) (buffer : String) (arguments : Arguments) (body : List Step)
    (ending : Ending) (s : Session) :
    ((Step.run buffer arguments body ending).perform scene react s).2 =
      ((run buffer).call scene (callee scene react body ending) arguments s).2 :=
  Session.of_fst_snd _ _

theorem perform_collect (react : Reaction) (listener : String) (arguments : Arguments)
    (body : List Step) (ending : Ending) (s : Session) :
    ((Step.collect listener arguments body ending).perform scene react s).2 =
      ((collect listener).call scene (callee scene react body ending) arguments s).2 :=
  Session.of_fst_snd _ _

/-- For every function of the code under test, every policy and every table of modules: a call under
an acceptable capture is refused without calling the function if the sinks do not take its sink,
whatever clearing the caches came to. Otherwise the function is called once with the arguments,
under the sink. Its exception is raised as it is, its value is returned if the sink can be taken
off, and the failure of that is raised if it cannot. Any number of captures around each other do the
same. -/
theorem captured_calls_conclude (scene : Scene) (s : Session) (arguments : Arguments) :
    (∀ c : Capturing, c.Accepted scene →
      (∃ err t, (s.sinks.push (s.newObserver c.collector).1).1 = .error err ∧
        err.code = .sinkInstallFailed ∧ err.errorClass = .environment ∧
        ∀ f, c.call scene f arguments s = (.error (.reported err), t)) ∨
      ∃ frame t ends, s.sinks.Installs (s.newObserver c.collector).1 frame t.sinks ∧
        c.Opens s t ∧ Session.Concludes frame.token ends ∧
        ∀ f, c.call scene f arguments s = ends (f arguments t).1 (f arguments t).2) ∧
    ∀ cs : List Capturing, (∀ c ∈ cs, c.Accepted scene) →
      (∃ err t, err.code = .sinkInstallFailed ∧
        ∀ f, callAll scene cs f arguments s = (.error (.reported err), t)) ∨
      ∃ (t : Session) (ends : Session.Closing), t.sinks.depth = s.sinks.depth + cs.length ∧
        Session.PassesOn ends ∧
        ∀ f, callAll scene cs f arguments s = ends (f arguments t).1 (f arguments t).2 :=
  ⟨fun _ accepted => call_cases accepted arguments s,
    fun _ accepted => callAll_cases accepted arguments s⟩

/-- A session whose modules are listed once and then no more. -/
def unlisted : Session :=
  { Session.bare with
    modules := {
      store := .failing 1 (.raised "RuntimeError" "keys broke")
      entries := [("module", some (.mk none none .present [] none))] } }

/-- Takes away the name of the filters, which the sinks need to be taken off, and returns. -/
def losesFilters : Callee := fun arguments s =>
  (.ok (Ending.echo arguments), s.damage (.facility .missingFilters))

/-- The modules of this session can be listed only once, which the scrub before each capture
survives. A run ends with the failure to take its sink off; two captures call the function under two
sinks. -/
theorem lost_filters_are_raised :
    (run "buffer").Accepted {} ∧
    (∀ c ∈ [run "buffer", collect "listener"], c.Accepted {}) ∧
    (∃ err, err.code = .sinkRestoreFailed ∧
      ((run "buffer").call {} losesFilters {} unlisted).1 = .error (.reported err)) ∧
    ∃ (t : Session) (ends : Session.Closing), t.sinks.depth = 2 ∧ Session.PassesOn ends ∧
      ∀ f, callAll {} [run "buffer", collect "listener"] f {} unlisted =
        ends (f {} t).1 (f {} t).2 := by
  have each : ∀ c ∈ [run "buffer", collect "listener"], c.Accepted {} := by
    simp [Accepted, Scene.listener, Table.get?]
  obtain ⟨single, nested⟩ := captured_calls_conclude {} unlisted {}
  refine ⟨trivial, each, ?_, ?_⟩
  · have installed : (unlisted.sinks.push (unlisted.newObserver (.buffer "buffer")).1).1 = .ok 1 :=
      rfl
    rcases single (run "buffer") trivial with
      ⟨err, t, refused, _⟩ | ⟨frame, t, ends, installs, ⟨_, remarked⟩, concludes, called⟩
    · cases installed.symm.trans refused
    · have token : frame.token = 1 := installs.token
      have lost : ((losesFilters {} t).2.sinks.release frame.token false).1 = .error
          (Frame.restoreFailed ⟨1, .ambient, []⟩ (Facility.missing "filters")) := by
        rw [token]
        show ((t.damage (.facility .missingFilters)).sinks.release 1 false).1 = _
        simp only [Session.damage, Session.withFacility, remarked.sinks]
        rfl
      obtain ⟨reported, code, _⟩ := concludes.unrestored _ _ _ lost
      exact ⟨_, code, by rw [called]; exact reported⟩
  · rcases nested _ each with ⟨err, t, _, refused⟩ | ⟨t, ends, depth, passesOn, called⟩
    · have returned : (callAll {} [run "buffer", collect "listener"]
          (fun _ s => (.ok .null, s)) {} unlisted).1 = .ok .null := rfl
      rw [refused] at returned
      cases returned
    · exact ⟨t, ends, depth, passesOn, called⟩

end Capturing
end WarningCapture
