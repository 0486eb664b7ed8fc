import WarningCapture.Proofs.Session.Replaying
import WarningCapture.Proofs.Session.Showing
import WarningCapture.Proofs.Session.Undisturbed

/-! Every warning under a capture is collected. The steps of a session are listed as they are
performed, each with the captures around it. As long as only captures change the hook and the
filters, the observer of the innermost one is in force before each of these steps. -/
namespace WarningCapture

/-- A step that holds no others, as it is performed: under which observers of captures, the
innermost first, and in which session. -/
structure Performed where
  step : Step
  active : List Observer
  found : Session

namespace Performed
variable (scene : Scene) (react : Reaction)

/-- What the step comes to, and the session that it leaves. -/
def ends (p : Performed) : Outcome × Session := p.found.performPlain scene react p.step

def left (p : Performed) : Session := (p.ends scene react).2

end Performed

namespace Capturing

instance (scene : Scene) : (c : Capturing) → Decidable (c.Accepted scene)
  | run _ => inferInstanceAs (Decidable True)
  | collect listener => inferInstanceAs (Decidable ((scene.listener listener).callable = true))

/-- What is performed under a capture, if it comes to that. -/
def performed (scene : Scene) (c : Capturing) (active : List Observer) (ending : Ending)
    (body : List Observer → Session → List Performed) (s : Session) : List Performed :=
  if c.Accepted scene ∧ ending.entered = true then
    match c.opened s with
    | (.ok _, t) => body ((s.newObserver c.collector).1 :: active) t
    | (.error _, _) => []
  else []

end Capturing

section
variable (scene : Scene) (react : Reaction)

/-- The session after a step, once what came of it is on record. -/
def Step.completed (step : Step) (s : Session) : Session :=
  let (outcome, t) := step.perform scene react s
  t.close step.name outcome

mutual

/-- The steps that are performed by a step, outside listeners, one after another. -/
def Step.performed (active : List Observer) : Step → Session → List Performed
  | .run buffer _ body ending, s =>
      (Capturing.run buffer).performed scene active ending
        (fun active t => allPerformed active body t) s
  | .collect listener _ body ending, s =>
      (Capturing.collect listener).performed scene active ending
        (fun active t => allPerformed active body t) s
  | step, s => [⟨step, active, s⟩]

def allPerformed (active : List Observer) : List Step → Session → List Performed
  | [], _ => []
  | step :: rest, s =>
      step.performed active s ++ allPerformed active rest (step.completed scene react s)

end

end

namespace Capturing
variable {scene : Scene} {react : Reaction} {c : Capturing} {s t : Session} {ending : Ending}
  {active : List Observer} {p : Performed} {token : Nat}

theorem performed_eq (accepted : c.Accepted scene) (entered : ending.entered = true)
    (opened : c.opened s = (.ok token, t)) (body : List Observer → Session → List Performed) :
    c.performed scene active ending body s =
      body ((s.newObserver c.collector).1 :: active) t := by
  rw [performed, if_pos ⟨accepted, entered⟩, opened]

theorem mem_performed {body : List Observer → Session → List Performed}
    (member : p ∈ c.performed scene active ending body s) :
    c.Accepted scene ∧ ending.entered = true ∧ ∃ frame t, c.opened s = (.ok frame.token, t) ∧
      s.sinks.Installs (s.newObserver c.collector).1 frame t.sinks ∧ c.Opens s t ∧
      p ∈ body ((s.newObserver c.collector).1 :: active) t := by
  unfold performed at member
  split at member
  · rename_i entered
    refine ⟨entered.1, entered.2, ?_⟩
    rcases c.opened_cases s with
      ⟨fault, t, opened, _⟩ | ⟨frame, t, opened, installs, opens⟩
    · rw [opened] at member
      cases member
    · rw [opened] at member
      exact ⟨frame, t, opened, installs, opens, member⟩
  · cases member

end Capturing

/-- A sink that has just been installed shows every warning to its observer. -/
theorem Sinks.Installs.showsTo {s t : Sinks} {o : Observer} {frame : Frame}
    (installs : s.Installs o frame t) : t.facility.ShowsTo o :=
  ⟨installs.observing, installs.binding, _, installs.prioritised⟩

namespace Session
variable {scene : Scene} {react : Reaction} {s t : Session} {active : List Observer}

/-- The observer of the innermost capture, if there is one, is in force. -/
def InForce (s : Session) (active : List Observer) : Prop :=
  ∀ o ∈ active.head?, s.sinks.facility.ShowsTo o

theorem InForce.undisturbed (inForce : s.InForce active) (same : active ≠ [] → s.Undisturbed t) :
    t.InForce active := by
  intro o innermost
  have inside : active ≠ [] := by
    rintro rfl
    cases innermost
  exact (inForce o innermost).of_leftAlone (same inside).facility

/-- Under captures, the steps leave the hook, the filters and the sinks as they are. -/
def Leave (scene : Scene) (react : Reaction) (ps : List Performed) : Prop :=
  ∀ p ∈ ps, p.active ≠ [] → p.found.Undisturbed (p.left scene react)

/-- What is performed under captures leaves alone what they put in place, and in every step of it
the innermost one is in force. -/
structure Overseen (active : List Observer) (s : Session) (ps : List Performed) (t : Session) :
    Prop where
  undisturbed : active ≠ [] → s.Undisturbed t
  inForce : ∀ p ∈ ps, p.found.InForce p.active

theorem plain_overseen {step : Step} (inForce : s.InForce active)
    (leave : Leave scene react [⟨step, active, s⟩]) :
    Overseen active s [⟨step, active, s⟩] (s.performPlain scene react step).2 where
  undisturbed inside := leave _ List.mem_cons_self inside
  inForce p member := by
    cases List.mem_singleton.mp member
    exact inForce

theorem completed_course (follows : react.Follows Facility.Anything) (step : Step) (s : Session) :
    Course Facility.Anything s [] (step.completed scene react s) :=
  (step_course follows step s).trans (.change (.close _ _ _))

/-- The sink of a capture shows every warning to its observer, and taking it off leaves the one
around it in force. -/
theorem capture_overseen (follows : react.Follows Facility.Anything) {c : Capturing}
    {body : List Step} {ending : Ending}
    (overseen : ∀ active t, t.sinks.Ordered → t.InForce active →
      Leave scene react (allPerformed scene react active body t) →
      Overseen active t (allPerformed scene react active body t) (performAll scene react body t))
    (ordered : s.sinks.Ordered) (arguments : Arguments)
    (leave : Leave scene react (c.performed scene active ending
      (fun active t => allPerformed scene react active body t) s)) :
    Overseen active s (c.performed scene active ending
        (fun active t => allPerformed scene react active body t) s)
      (c.call scene (Capturing.callee scene react body ending) arguments s).2 := by
  -- Inside the capture its own observer is in force, whatever `active` says of those around it.
  let o := (s.newObserver c.collector).1
  have inside {frame : Frame} {t : Session} (accepted : c.Accepted scene)
      (entered : ending.entered = true) (opened : c.opened s = (.ok frame.token, t))
      (installs : s.sinks.Installs o frame t.sinks) (opens : c.Opens s t) :
      Overseen (o :: active) t (allPerformed scene react (o :: active) body t)
        (performAll scene react body t) := by
    rw [Capturing.performed_eq accepted entered opened] at leave
    refine overseen _ t (opens.ordered ordered) ?_ leave
    intro innermost isFirst
    cases isFirst
    exact installs.showsTo
  constructor
  · intro _
    refine Capturing.call_undisturbed fun accepted frame t opened installs opens => ?_
    exact callee_undisturbed follows (opens.ordered ordered) arguments fun entered =>
      (inside accepted entered opened installs opens).undisturbed (List.cons_ne_nil _ _)
  · intro p member
    obtain ⟨accepted, entered, frame, t, opened, installs, opens, member⟩ :=
      Capturing.mem_performed member
    exact (inside accepted entered opened installs opens).inForce p member

mutual

theorem perform_overseen (follows : react.Follows Facility.Anything) (step : Step)
    (active : List Observer) (s : Session) (ordered : s.sinks.Ordered) (inForce : s.InForce active)
    (leave : Leave scene react (step.performed scene react active s)) :
    Overseen active s (step.performed scene react active s) (step.perform scene react s).2 := by
  cases step with
  | run buffer arguments body ending =>
    rw [Capturing.perform_run]
    exact capture_overseen follows (performAll_overseen follows body) ordered arguments leave
  | collect listener arguments body ending =>
    rw [Capturing.perform_collect]
    exact capture_overseen follows (performAll_overseen follows body) ordered arguments leave
  | _ => exact plain_overseen inForce leave

theorem performAll_overseen (follows : react.Follows Facility.Anything) (steps : List Step)
    (active : List Observer) (s : Session) (ordered : s.sinks.Ordered) (inForce : s.InForce active)
    (leave : Leave scene react (allPerformed scene react active steps s)) :
    Overseen active s (allPerformed scene react active steps s)
      (performAll scene react steps s) := by
  cases steps with
  | nil => exact ⟨fun _ => .refl s, fun p member => by cases member⟩
  | cons step rest =>
    obtain ⟨leaveFirst, leaveRest⟩ := List.forall_mem_append.mp leave
    have first := perform_overseen follows step active s ordered inForce leaveFirst
    -- Outside captures the first step may rewrite the hook: there nothing has to stay in force.
    have undisturbed (inside : active ≠ []) : s.Undisturbed (step.completed scene react s) :=
      (first.undisturbed inside).trans (.of_sinks rfl)
    have still : (step.completed scene react s).sinks.Ordered :=
      (completed_course follows step s).moves.ordered ordered
    have later := performAll_overseen follows rest active _ still (inForce.undisturbed undisturbed)
      leaveRest
    exact ⟨fun inside => (undisturbed inside).trans (later.undisturbed inside),
      List.forall_mem_append.mpr ⟨first.inForce, later.inForce⟩⟩

end

/-- Steps are performed one after another on the way from one session to another, with as many
listeners running as at the start. -/
structure Listed (scene : Scene) (react : Reaction) (s : Session) (ps : List Performed)
    (t : Session) : Prop where
  busy : ∀ p ∈ ps, p.found.busy = s.busy
  moves : ∀ p ∈ ps, Moves Facility.Anything s p.found
  amid : ∀ p ∈ ps, (p.left scene react).history <:+ t.history
  since : ∀ p ∈ ps, s.history <:+ p.found.history
  successive : ps.Pairwise fun p q => (p.left scene react).history <:+ q.found.history

namespace Listed
variable {u : Session} {ps qs : List Performed}

theorem nil (s t : Session) : Listed scene react s [] t := by
  constructor <;> simp

theorem plain (step : Step) (active : List Observer) (s : Session) :
    Listed scene react s [⟨step, active, s⟩] (s.performPlain scene react step).2 where
  busy := List.forall_mem_singleton.mpr rfl
  moves := List.forall_mem_singleton.mpr (.of_sinks rfl)
  amid := List.forall_mem_singleton.mpr List.suffix_rfl
  since := List.forall_mem_singleton.mpr List.suffix_rfl
  successive := List.pairwise_singleton _ _

theorem widen {s' t' : Session} (listed : Listed scene react s ps t) (busy : s.busy = s'.busy)
    (moves : Moves Facility.Anything s' s) (earlier : s'.history <:+ s.history)
    (later : t.history <:+ t'.history) : Listed scene react s' ps t' where
  busy p member := (listed.busy p member).trans busy
  moves p member := moves.trans (listed.moves p member)
  amid p member := (listed.amid p member).trans later
  since p member := earlier.trans (listed.since p member)
  successive := listed.successive

theorem append (first : Listed scene react s ps t) (second : Listed scene react t qs u)
    (course : Course Facility.Anything s [] t) (after : t.history <:+ u.history) :
    Listed scene react s (ps ++ qs) u where
  busy := List.forall_mem_append.mpr
    ⟨first.busy, fun p member => (second.busy p member).trans course.busy⟩
  moves := List.forall_mem_append.mpr
    ⟨first.moves, fun p member => course.moves.trans (second.moves p member)⟩
  amid := List.forall_mem_append.mpr
    ⟨fun p member => (first.amid p member).trans after, second.amid⟩
  since := List.forall_mem_append.mpr
    ⟨first.since, fun p member => course.history.trans (second.since p member)⟩
  successive := List.pairwise_append.mpr ⟨first.successive, second.successive,
    fun p earlier q later => (first.amid p earlier).trans (second.since q later)⟩

end Listed

theorem capture_listed {c : Capturing} {body : List Step} {ending : Ending}
    (listed : ∀ active t, Listed scene react t (allPerformed scene react active body t)
      (performAll scene react body t)) (active : List Observer) (arguments : Arguments)
    (s : Session) :
    Listed scene react s (c.performed scene active ending
        (fun active t => allPerformed scene react active body t) s)
      (c.call scene (Capturing.callee scene react body ending) arguments s).2 := by
  by_cases under : c.Accepted scene ∧ ending.entered = true
  · obtain ⟨accepted, entered⟩ := under
    rcases c.opened_cases s with ⟨fault, t, opened, _⟩ | ⟨frame, t, opened, _, opens⟩
    · rw [Capturing.performed, if_pos ⟨accepted, entered⟩, opened]
      exact .nil _ _
    · obtain ⟨_, later⟩ :=
        Capturing.call_opened accepted opened (Capturing.callee scene react body ending) arguments
      rw [Capturing.performed_eq accepted entered opened]
      simp only [Capturing.callee, entered, if_true] at later ⊢
      exact (listed _ t).widen opens.busy opens.moves opens.history later
  · rw [Capturing.performed, if_neg under]
    exact .nil _ _

mutual

theorem perform_listed (follows : react.Follows Facility.Anything) (step : Step)
    (active : List Observer) (s : Session) :
    Listed scene react s (step.performed scene react active s) (step.perform scene react s).2 := by
  cases step with
  | run buffer arguments body ending =>
    rw [Capturing.perform_run]
    exact capture_listed (performAll_listed follows body) active arguments s
  | collect listener arguments body ending =>
    rw [Capturing.perform_collect]
    exact capture_listed (performAll_listed follows body) active arguments s
  | _ =>
    exact .plain _ active s

theorem performAll_listed (follows : react.Follows Facility.Anything) (steps : List Step)
    (active : List Observer) (s : Session) :
    Listed scene react s (allPerformed scene react active steps s)
      (performAll scene react steps s) := by
  cases steps with
  | nil => exact .nil s s
  | cons step rest =>
    have course : Course Facility.Anything s [] (step.completed scene react s) :=
      completed_course follows step s
    have closed : (step.perform scene react s).2.history <:+
        (step.completed scene react s).history := List.suffix_cons _ _
    have first := (perform_listed follows step active s).widen rfl (.of_sinks rfl) List.suffix_rfl
      closed
    have later := performAll_listed follows rest active (step.completed scene react s)
    exact first.append later course (body_course follows rest _).history

end

theorem capture_throughout {P : Step → Prop} {c : Capturing} {body : List Step} {ending : Ending}
    (inside : ∀ active t, ∀ p ∈ allPerformed scene react active body t, P p.step)
    (active : List Observer) (s : Session) :
    ∀ p ∈ c.performed scene active ending
      (fun active t => allPerformed scene react active body t) s, P p.step := by
  intro p member
  obtain ⟨_, _, _, t, _, _, _, member⟩ := Capturing.mem_performed member
  exact inside _ t p member

mutual

/-- What holds of a step throughout holds of each step that it performs. -/
theorem performed_throughout {P : Step → Prop} (step : Step) (all : step.Throughout P)
    (active : List Observer) (s : Session) :
    ∀ p ∈ step.performed scene react active s, P p.step := by
  cases step with
  | run buffer arguments body ending =>
    exact capture_throughout (allPerformed_throughout body all.2) active s
  | collect listener arguments body ending =>
    exact capture_throughout (allPerformed_throughout body all.2) active s
  | _ => exact List.forall_mem_singleton.mpr all.here

theorem allPerformed_throughout {P : Step → Prop} (steps : List Step) (all : AllThroughout P steps)
    (active : List Observer) (s : Session) :
    ∀ p ∈ allPerformed scene react active steps s, P p.step := by
  cases steps with
  | nil => simp [allPerformed]
  | cons step rest =>
    exact List.forall_mem_append.mpr ⟨performed_throughout step all.1 active s,
      allPerformed_throughout rest all.2 active _⟩

end

/-- Steps and listeners that change the hook and the filters only by captures leave them as they
are, whatever else they do. -/
theorem leave_of_throughout {steps : List Step} (listeners : scene.Throughout Step.LeavesSinks)
    (leaves : AllThroughout Step.LeavesSinks steps) (depth : Nat) (ordered : s.sinks.Ordered) :
    Leave scene (scene.reaction depth)
      (allPerformed scene (scene.reaction depth) active steps s) := by
  intro p member _
  have listed : Listed scene (scene.reaction depth) s _ _ :=
    performAll_listed (reaction_course scene depth) steps active s
  exact performPlain_undisturbed (reaction_undisturbing listeners depth)
    ((listed.moves p member).ordered ordered)
    (allPerformed_throughout steps leaves active s p member)

theorem events_longer (longer : s.history <:+ t.history) : s.events <+: t.events :=
  List.reverse_prefix.mpr longer

end Session

/-- A buffer takes records, and a listener may raise instead of returning. -/
def Collector.Returns (scene : Scene) : Collector → Prop
  | buffer _ => True
  | listener name => (scene.listener name).raises = none

namespace Session
variable {scene : Scene} {react : Reaction} {s t : Session} {o : Observer} {r : Record}

/-- One record, and no other, goes from the observer to its collector: it is stored in the buffer,
or the listener is called with it. -/
def Collects (react : Reaction) (o : Observer) (r : Record) (s t : Session) : Prop :=
  match o.collector with
  | .buffer name =>
      t.events = s.events ++ [.captured r, .stored name r] ∧
      ∀ other, t.pendingIn other = s.pendingIn other ++ if other = name then [r] else []
  | .listener name => ∃ called inside,
      called.events = s.events ++ [.captured r, .called name o.id r] ∧
      (react name r called).2.events = called.events ++ inside ∧
      t.events = called.events ++ inside ++ [.returned o.id]

theorem reaction_returns {name : String} (returns : (scene.listener name).raises = none)
    (depth : Nat) (r : Record) (s : Session) : (scene.reaction depth name r s).1 = .ok () := by
  cases depth <;> simp only [Scene.reaction, Listener.respond, returns, Option.elim]

theorem emit_collects (depth : Nat) {message : String} {category : Category} (file : String)
    {line : Int} (shows : s.sinks.facility.ShowsTo o) (idle : s.busy = [])
    (taken : Facility.Takes message category line) (returns : o.collector.Returns scene) :
    (s.emit (scene.reaction depth) message category file line).1 = .ok () ∧
    Collects (scene.reaction depth) o ⟨message, category, file, line.toNat⟩ s
      (s.emit (scene.reaction depth) message category file line).2 := by
  let r : Record := ⟨message, category, file, line.toNat⟩
  let found := (s.withFacility s.sinks.facility.consult.2).add (.captured r)
  have captured : found.events = s.events ++ [.captured r] := add_events _ _
  have free : found.isBusy o = false := by
    show s.busy.contains o.id = false
    rw [idle]
    rfl
  rw [emit_shown shows taken]
  unfold Collects
  rcases found.deliver_cases (scene.reaction depth) o r with
    ⟨name, buffer, delivered⟩ | ⟨_, busy⟩ | ⟨name, listener, _, delivered⟩
  · have stored : (found.store name r).events = found.events ++ [.stored name r] := add_events _ _
    rw [captured, List.append_assoc] at stored
    rw [delivered, buffer]
    exact ⟨rfl, stored, fun other => found.store_pendingIn name other r⟩
  · -- Outside listeners no observer is busy, so none drops the record.
    cases free.symm.trans busy
  · let entered := found.enterListener o name r
    let responded := (scene.reaction depth name r entered).2
    have called : entered.events = found.events ++ [.called name o.id r] := add_events _ _
    have returned : (responded.leaveListener o).events = responded.events ++ [.returned o.id] :=
      add_events _ _
    obtain ⟨inside, same⟩ :=
      events_longer (reaction_course scene depth name r entered).history
    rw [captured, List.append_assoc] at called
    rw [← same] at returned
    rw [listener] at returns
    rw [delivered, listener]
    exact ⟨reaction_returns returns depth r _, entered, inside, called, same.symm, returned⟩

/-- In any session with its sinks in order, outside listeners, and for any steps, in which under
captures only captures change the hook and the filters: the steps are performed one after another,
and every warning among them that is emitted under a capture, and that the emitting function takes,
is collected by the innermost capture as one record with its message, category, file and line, where
a negative line counts as zero. Emitting it raises nothing. -/
theorem captures_collect_every_warning (scene : Scene) (depth : Nat) (steps : List Step)
    (s : Session) (ordered : s.sinks.Ordered) (idle : s.busy = [])
    (leave : Leave scene (scene.reaction depth)
      (allPerformed scene (scene.reaction depth) [] steps s)) :
    (allPerformed scene (scene.reaction depth) [] steps s).Pairwise
      (fun p q => (p.left scene (scene.reaction depth)).events <+: q.found.events) ∧
    ∀ p ∈ allPerformed scene (scene.reaction depth) [] steps s,
      s.events <+: p.found.events ∧
      (p.left scene (scene.reaction depth)).events <+:
        (performAll scene (scene.reaction depth) steps s).events ∧
      ∀ message category file line o, p.step = .warn message category file line →
        p.active.head? = some o → Facility.Takes message category line →
        o.collector.Returns scene →
        (p.ends scene (scene.reaction depth)).1 = .returned .nothing ∧
        Collects (scene.reaction depth) o ⟨message, category, file, line.toNat⟩ p.found
          (p.left scene (scene.reaction depth)) := by
  have follows := reaction_course scene depth
  have listed : Listed scene (scene.reaction depth) s _ _ := performAll_listed follows steps [] s
  have overseen := performAll_overseen follows steps [] s ordered (by simp [InForce]) leave
  refine ⟨listed.successive.imp fun longer => events_longer longer, fun p member => ?_⟩
  refine ⟨events_longer (listed.since p member), events_longer (listed.amid p member), ?_⟩
  intro message category file line o warns innermost taken returns
  obtain ⟨ok, collects⟩ := emit_collects depth file (overseen.inForce p member o innermost)
    ((listed.busy p member).trans idle) taken returns
  have ends : p.ends scene (scene.reaction depth) = Outcome.of (fun _ => .nothing)
      (p.found.emit (scene.reaction depth) message category file line) := by
    rw [Performed.ends, warns]
    rfl
  rw [Performed.left, ends, of_fst_snd]
  refine ⟨?_, collects⟩
  rw [← Prod.eta (p.found.emit (scene.reaction depth) message category file line), ok]
  rfl

/-- A session in which every warning is to be raised. -/
def strict : Session := start {} {} [⟨.error, .warning⟩] {} [] "/"

/-- The same warning before, under and after a capture inside a run. -/
def repeated : List Step :=
  [.run "buffer" {} [.warn "message" .warning "file.py" 1,
    .collect "listener" {} [.warn "message" .warning "file.py" 1] .echoes,
    .warn "message" .warning "file.py" 1] .echoes]

/-- Three equal warnings are collected, and the one in the middle goes to the listener. -/
theorem equal_warnings_are_collected :
    strict.sinks.Ordered ∧ strict.busy = [] ∧
    Leave {} (({} : Scene).reaction 0)
      (allPerformed {} (({} : Scene).reaction 0) [] repeated strict) ∧
    (allPerformed {} (({} : Scene).reaction 0) [] repeated strict).map (·.active.head?) =
      [some ⟨1, .buffer "buffer"⟩, some ⟨2, .listener "listener"⟩, some ⟨1, .buffer "buffer"⟩] ∧
    ∀ p ∈ allPerformed {} (({} : Scene).reaction 0) [] repeated strict,
      (p.ends {} (({} : Scene).reaction 0)).1 = .returned .nothing ∧
      ∃ o ∈ p.active.head?, Collects (({} : Scene).reaction 0) o plain p.found
        (p.left {} (({} : Scene).reaction 0)) := by
  have ordered : strict.sinks.Ordered := Sinks.ordered_of_empty (by decide +kernel)
  have idle : strict.busy = [] := by decide +kernel
  have quiet : ({} : Scene).Throughout Step.LeavesSinks := fun _ => trivial
  have leave : Leave {} (({} : Scene).reaction 0)
      (allPerformed {} (({} : Scene).reaction 0) [] repeated strict) := by
    refine leave_of_throughout quiet ?_ 0 ordered
    simp only [repeated, AllThroughout, Step.Throughout, Step.LeavesSinks, Step.WritesWithin,
      and_self]
  have taken : Facility.Takes "message" .warning 1 := ⟨rfl, rfl, by decide +kernel⟩
  obtain ⟨_, each⟩ := captures_collect_every_warning {} 0 repeated strict ordered idle leave
  have listing : ∃ a b c : Session, allPerformed {} (({} : Scene).reaction 0) [] repeated strict =
      [⟨.warn "message" .warning "file.py" 1, [⟨1, .buffer "buffer"⟩], a⟩,
        ⟨.warn "message" .warning "file.py" 1,
          [⟨2, .listener "listener"⟩, ⟨1, .buffer "buffer"⟩], b⟩,
        ⟨.warn "message" .warning "file.py" 1, [⟨1, .buffer "buffer"⟩], c⟩] := ⟨_, _, _, rfl⟩
  obtain ⟨a, b, c, same⟩ := listing
  refine ⟨ordered, idle, leave, by rw [same]; rfl, fun p member => ?_⟩
  obtain ⟨_, _, collected⟩ := each p member
  rw [same] at member
  have emits : ∃ o ∈ p.active.head?, o.collector.Returns {} ∧
      p.step = .warn "message" .warning "file.py" 1 := by
    rcases List.mem_cons.mp member with rfl | member
    · exact ⟨_, rfl, trivial, rfl⟩
    · rcases List.mem_cons.mp member with rfl | member
      · exact ⟨_, rfl, rfl, rfl⟩
      · rw [List.mem_singleton.mp member]
        exact ⟨_, rfl, trivial, rfl⟩
  obtain ⟨o, innermost, returns, warns⟩ := emits
  obtain ⟨outcome, collects⟩ := collected _ _ _ _ o warns innermost taken returns
  exact ⟨outcome, o, innermost, collects⟩

/-- A run in which a warning with a negative line is emitted. -/
def below : Session :=
  ({} : Scene).play [.run "buffer" {} [.warn "message" .warning "file.py" (-1)] .echoes] strict

/-- A run inside which another one makes the hook read-only, before a warning is emitted. -/
def misled : Session :=
  ({} : Scene).play [.run "buffer" {} [.run "inner" {} [.damage (.facility .readOnlyHook)] .echoes,
    .warn "message" .warning "file.py" 1] .echoes] strict

/-- A negative line that the emitting function takes is not the line of the record. If the hook is
made read-only, which changes neither it nor the filters, the observer of an inner capture stays in
its place and collects a warning that is emitted after that capture. -/
theorem collected_at_another_place :
    (Facility.Takes "message" .warning (-1) ∧
      below.pendingIn "buffer" = [⟨"message", .warning, "file.py", 0⟩]) ∧
    (∀ f : Facility, (f.damage .readOnlyHook).hook = f.hook ∧
      (f.damage .readOnlyHook).filters? = f.filters?) ∧
    Facility.Takes "message" .warning 1 ∧
    misled.pendingIn "buffer" = [] ∧ misled.pendingIn "inner" = [plain] :=
  ⟨⟨⟨rfl, rfl, by decide +kernel⟩, by decide +kernel⟩, fun _ => ⟨rfl, rfl⟩,
    ⟨rfl, rfl, by decide +kernel⟩, by decide +kernel, by decide +kernel⟩

end Session
end WarningCapture
