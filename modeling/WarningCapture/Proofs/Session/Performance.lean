import WarningCapture.Proofs.Session.Story

/-! What is performed. Steps inside captures are followed by induction on the steps, listeners that
call one another by induction on the depth of the calls. This is done once, for all that holds of
whatever operations do within bounds, and first of all for courses. -/
namespace WarningCapture

/-- What operations do within the bounds, and steps that are finished, may in turn happen while an
operation calls into the code under test. -/
structure Bounds.Closed (b : Bounds) : Prop where
  trans : ∀ {s t u}, b.inside s t → b.inside t u → b.inside s u
  operation : ∀ {s t}, Session.Story b s [] none t → b.inside s t
  close : ∀ {s t} (step : String) (outcome : Outcome),
    Session.Story b s [] (outcome.answer? step) t → b.inside s (t.close step outcome)

theorem Bounds.Closed.refl {b : Bounds} (closed : b.Closed) (s : Session) : b.inside s s :=
  closed.operation (.refl s)

namespace Session
variable {b : Bounds} {react : Reaction} {scene : Scene}

/-- The function under test of a capture does what its steps do. -/
theorem body_conveys {body : List Step} {ending : Ending} (closed : b.Closed)
    (hands : ending.HandsIn b.given)
    (performed : ∀ s, b.inside s (performAll scene react body s)) :
    Callee.Conveys b.given b.inside fun arguments s =>
      (ending.conclude arguments, if ending.entered then performAll scene react body s else s) := by
  intro arguments s
  refine ⟨?_, hands arguments⟩
  simp only
  split
  · exact performed s
  · exact closed.refl s

mutual

theorem perform_story (closed : b.Closed) (conveys : react.Conveys b.given b.inside) (step : Step)
    (within : step.Throughout (Step.Within b)) (s : Session) :
    Story b s [] ((step.perform scene react s).1.answer? step.name)
      (step.perform scene react s).2 := by
  cases step with
  | run buffer arguments body ending =>
    have performed := performAll_inside closed conveys body within.2
    exact .of_attempt (fun _ => rfl)
      (run_story (body_conveys closed within.1.hands performed) s buffer arguments)
  | collect listener arguments body ending =>
    have performed := performAll_inside closed conveys body within.2
    exact .of_attempt (fun _ => rfl)
      (collect_story (body_conveys closed within.1.hands performed) s listener arguments)
  | _ =>
    simp only [Step.perform]
    exact performPlain_story conveys _ within.here s

theorem performAll_inside (closed : b.Closed) (conveys : react.Conveys b.given b.inside)
    (steps : List Step) (within : AllThroughout (Step.Within b) steps) (s : Session) :
    b.inside s (performAll scene react steps s) := by
  cases steps with
  | nil => exact closed.refl s
  | cons step rest =>
    have performed := perform_story closed conveys step within.1 s
    exact closed.trans (closed.close step.name _ performed)
      (performAll_inside closed conveys rest within.2 _)

end

/-- Listeners that call one another keep within bounds, however deep the calls are nested. -/
theorem reaction_conveys (closed : b.Closed) (within : scene.Within b) (depth : Nat) :
    (scene.reaction depth).Conveys b.given b.inside := by
  have counted : ∀ (s : Session) (calls : Table Nat), b.inside s { s with calls } :=
    fun s calls => closed.operation (.arrange s s.modules s.types s.cwd s.read calls)
  have raises : ∀ name f,
      (scene.listener name).raises.elim (.ok ()) .error = (.error f : Except Fault Unit) →
        f.Given b.given := by
    intro name f raised
    cases own : (scene.listener name).raises with
    | none =>
      rw [own] at raised
      cases raised
    | some g =>
      rw [own] at raised
      cases raised
      exact within.raises name _ own
  induction depth with
  | zero =>
    intro name r s
    refine ⟨?_, raises name⟩
    simp only [Scene.reaction, Listener.respond, ite_self]
    exact counted s _
  | succ depth ih =>
    intro name r s
    refine ⟨?_, raises name⟩
    simp only [Scene.reaction, Listener.respond]
    split
    · exact closed.trans (counted s _) (performAll_inside closed ih _ (within.steps name) _)
    · exact counted s _

end Session

/-- Calling a listener runs a course. -/
def Reaction.Follows (W : Facility → Facility → Prop) (react : Reaction) : Prop :=
  ∀ name r s, Session.Course W s [] (react name r s).2

/-- Calling a function of the code under test runs a course. -/
def Callee.Follows (W : Facility → Facility → Prop) (f : Callee) : Prop :=
  ∀ arguments s, Session.Course W s [] (f arguments s).2

namespace Session
variable {b : Bounds} {W : Facility → Facility → Prop} {react : Reaction} {scene : Scene}
  {s t : Session} {owed : List (String × Record)} {answer : Option Answer}

theorem TurnsGuard.course (turned : s.TurnsGuard t) : Course W s [] t := by
  cases turned with
  | push guard o => exact .change (.pushGuard s guard o)
  | release guard elsewhere => exact .change (.releaseGuard s guard elsewhere)
  | drop guard => exact .change (.dropGuard s guard)

/-- An operation runs a course if what happens inside it does. -/
theorem Story.course (runs : ∀ {s t}, b.inside s t → Course b.writes s [] t)
    (story : Story b s owed answer t) {before : Session} (came : Course b.writes before owed s) :
    Course b.writes before [] t := by
  have captured (s : Session) (r : Record) : Course b.writes s [] (s.add (.captured r)) :=
    .change (.remark s rfl)
  have counted (s : Session) (collector : Collector) :
      Course b.writes s [] (s.newObserver collector).2 := .arrange ⟨rfl, rfl, rfl, rfl, rfl⟩
  induction story generalizing before with
  | trans _ _ first second => exact second (first came)
  | arrange | nameObserver | tag => exact came.trans (.arrange ⟨rfl, rfl, rfl, rfl, rfl⟩)
  | @applyPolicy p s disk =>
    obtain ⟨logger, remarked⟩ := s.applyPolicy_remarked disk p
    have changed :
        Course b.writes s [] { s with policy := p, logger, jsonErrors := p.jsonErrors } :=
      .arrange ⟨rfl, rfl, rfl, rfl, rfl⟩
    exact came.trans (changed.trans (.of_remarked remarked))
  | note s n => exact came.trans (.of_remarked (s.note_remarked n))
  | tell s incidental => exact came.trans (.change (.remark s (Event.incidental_aside incidental)))
  | report s err => exact came.trans (.of_remarked (s.report_remarked err))
  | again | pass => exact came
  | write s written => exact came.trans (.change (.write s written))
  | guard _ turned | guardFailed _ turned => exact came.trans turned.course
  | store s buffer r => exact came.trans ((captured s r).trans (.change (.store _ buffer r)))
  | dismiss s r =>
    have captured := s.add_remarked (e := .captured r) rfl
    exact came.trans (.of_remarked (captured.trans
      ((add_remarked _ rfl).trans (note_remarked _ _))))
  | call _ _ idle called =>
    exact came.trans ((captured _ _).trans (.call idle (runs called)))
  | place s buffer r => exact came.trans (.change (.place s buffer r))
  | flush s buffer claimed =>
    exact came.trans ((Course.change (.takeOut s buffer claimed)).trans
      (.of_remarked (s.takeRecords_remarked buffer claimed)))
  | touch s buffer => exact came.trans (.change (.touch s buffer))
  | discard s buffer away => exact came.trans (.change (.discard s buffer away))
  | replay fate _ _ inside =>
    exact (inside (came.trans (.sweep fate))).trans (.change (.remark _ rfl))
  | hand _ _ emitted rest => exact rest (.hand came (emitted (.refl _)))
  | refuse refused => exact came.trans ((counted _ _).trans (.change (.refuse refused)))
  | capture installed called =>
    exact came.trans ((counted _ _).trans (.capture installed (runs called)))
  | run _ inside => exact came.trans (.run (inside (.refl _)))

end Session

/-- Courses with the given writes. -/
def Bounds.courses (remembers : Session.Remembers W) : Bounds where
  writes := W
  remembers := remembers
  inside := (Session.Course W · [] ·)

theorem Bounds.courses_closed (remembers : Session.Remembers W) :
    (Bounds.courses remembers).Closed where
  trans := .trans
  operation story := story.course id (.refl _)
  close step outcome story := (story.course id (.refl _)).trans (.change (.close _ step outcome))

theorem Step.WritesWithin.within {step : Step} (writes : step.WritesWithin W)
    (remembers : Session.Remembers W) : step.Within (.courses remembers) where
  writes := writes
  tags := step.tagsWithin_anything
  hands := step.handsIn_anything
  sets := step.setsWithin_anything
  guards _ := trivial

theorem Scene.Throughout.within {scene : Scene} (writes : scene.Throughout (Step.WritesWithin W))
    (remembers : Session.Remembers W) : scene.Within (.courses remembers) where
  steps name := allThroughout_of_imp (fun _ writes => writes.within remembers) (writes name)
  raises _ f _ := f.given_anything

theorem Reaction.Follows.conveys {react : Reaction} (follows : react.Follows W) :
    react.Conveys (fun _ => True) (Session.Course W · [] ·) :=
  fun name r s => ⟨follows name r s, fun f _ => f.given_anything⟩

namespace Session
variable {W : Facility → Facility → Prop} {react : Reaction} {scene : Scene}

theorem flush_course (remembers : Remembers W) (objects : HostObjects) (s : Session)
    (buffer : String) (targets : TargetList) :
    Course W s [] (s.flush objects buffer targets).2 := by
  have story := s.flush_story (b := .courses remembers) objects buffer
    (Step.flush buffer targets).handsIn_anything
  rw [of_fst_snd] at story
  exact story.course id (.refl s)

theorem emitAgain_course (remembers : Remembers W) (follows : react.Follows W)
    (emitter : FunctionState) (s : Session) (r : Record) :
    Course W s [] (s.emitAgain react emitter r).2 :=
  (emitAgain_story (b := .courses remembers) follows.conveys emitter s r).comes.course id (.refl s)

theorem perform_course (remembers : Remembers W) (follows : react.Follows W) (step : Step)
    (writes : step.Throughout (Step.WritesWithin W)) (s : Session) :
    Course W s [] (step.perform scene react s).2 := by
  have within := step.throughout_of_both (fun _ writes _ => writes.within remembers) writes writes
  exact (perform_story (Bounds.courses_closed remembers) follows.conveys step within s).course id
    (.refl s)

theorem performAll_course (remembers : Remembers W) (follows : react.Follows W)
    (steps : List Step) (writes : AllThroughout (Step.WritesWithin W) steps) (s : Session) :
    Course W s [] (performAll scene react steps s) :=
  performAll_inside (Bounds.courses_closed remembers) follows.conveys steps
    (allThroughout_of_imp (fun _ writes => writes.within remembers) writes) s

/-- Listeners that call one another run courses, however deep the calls are nested. -/
theorem reaction_follows (remembers : Remembers W)
    (writes : scene.Throughout (Step.WritesWithin W)) (depth : Nat) :
    (scene.reaction depth).Follows W := fun name r s =>
  (reaction_conveys (Bounds.courses_closed remembers) (writes.within remembers) depth
    name r s).comes

theorem step_course (follows : react.Follows Facility.Anything) (step : Step) (s : Session) :
    Course Facility.Anything s [] (step.perform scene react s).2 :=
  perform_course remembers_anything follows step
    (step.throughout_of_forall Step.writesWithin_anything) s

theorem body_course (follows : react.Follows Facility.Anything) (steps : List Step) (s : Session) :
    Course Facility.Anything s [] (performAll scene react steps s) :=
  performAll_course remembers_anything follows steps
    (allThroughout_of_forall Step.writesWithin_anything steps) s

/-- The function under test of a capture runs the course of its steps. -/
theorem body_follows {body : List Step}
    (performed : ∀ s, Course W s [] (performAll scene react body s)) (ending : Ending) :
    Callee.Follows W fun arguments s =>
      (ending.conclude arguments, if ending.entered then performAll scene react body s else s) := by
  intro arguments s
  simp only
  split
  · exact performed s
  · exact .refl s

theorem reaction_course (scene : Scene) (depth : Nat) :
    (scene.reaction depth).Follows Facility.Anything :=
  reaction_follows remembers_anything
    (fun _ => allThroughout_of_forall Step.writesWithin_anything _) depth

theorem play_course (remembers : Remembers W) (scene : Scene)
    (quiet : scene.Throughout (Step.WritesWithin W)) (steps : List Step)
    (writes : AllThroughout (Step.WritesWithin W) steps) (s : Session) :
    Course W s [] (scene.play steps s) :=
  performAll_course remembers (reaction_follows remembers quiet _) steps writes s

end Session
end WarningCapture
