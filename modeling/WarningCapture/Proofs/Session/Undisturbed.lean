import WarningCapture.Proofs.Session.Calling
import WarningCapture.Proofs.Session.Restoring

/-! What leaves the hook, the filters and the stack of sinks as they are. A capture does if what
happens inside it does: its own sink is then the last one still, and taking it off restores what it
replaced. -/
namespace WarningCapture

namespace Session
variable {s t u : Session}

/-- The hook, the filters and the sinks are those that they were. -/
structure Undisturbed (s t : Session) : Prop where
  frames : t.sinks.frames = s.sinks.frames
  facility : s.sinks.facility.LeftAlone t.sinks.facility

namespace Undisturbed

theorem of_sinks (same : t.sinks = s.sinks) : s.Undisturbed t :=
  ⟨congrArg Sinks.frames same, same ▸ .refl _⟩

theorem refl (s : Session) : s.Undisturbed s := .of_sinks rfl

theorem trans (first : s.Undisturbed t) (second : t.Undisturbed u) : s.Undisturbed u :=
  ⟨second.frames.trans first.frames, first.facility.trans second.facility⟩

end Undisturbed
end Session

/-- A sink that is still the last one is taken off without a trace. -/
theorem Sinks.Installs.undone {s t u : Sinks} {o : Observer} {frame : Frame}
    (installs : s.Installs o frame t) (ordered : u.Ordered) (frames : u.frames = t.frames)
    (same : t.facility.LeftAlone u.facility) :
    (u.release frame.token false).2.1.frames = s.frames ∧
      s.facility.LeftAlone (u.release frame.token false).2.1.facility := by
  have list : u.facility.binding = .list := same.binding.trans installs.binding
  have assignable : u.facility.hookReadOnly = false := same.hookReadOnly.trans installs.hookReadOnly
  have restored := installs.restored ordered (frames.trans installs.frames) list assignable
  obtain ⟨binding, hookReadOnly⟩ := u.act_kept
    (show ∀ f, Move.release frame.token false ≠ .write f by simp)
  have stillList := binding.trans list
  refine ⟨restored.frames, ⟨restored.hook, stillList.trans installs.list.symm,
    (hookReadOnly.trans assignable).trans installs.assignable.symm⟩, ?_⟩
  have filters := restored.filters
  rw [Facility.filters_of_list stillList, Facility.filters_of_list installs.list] at filters
  exact Option.some.inj filters

namespace Capturing
variable {scene : Scene} {c : Capturing} {s t u : Session} {token : Nat}

theorem Opens.moves (opens : c.Opens s t) : Session.Moves Facility.Anything s t :=
  ⟨[.push _], trivial, opens.sinks⟩

theorem Opens.ordered (opens : c.Opens s t) (ordered : s.sinks.Ordered) : t.sinks.Ordered :=
  opens.moves.ordered ordered

theorem call_opened (accepted : c.Accepted scene) (opened : c.opened s = (.ok token, t))
    (f : Callee) (arguments : Arguments) :
    (c.call scene f arguments s).2.sinks =
        ((f arguments t).2.sinks.release token false).2.1 ∧
      (f arguments t).2.history <:+ (c.call scene f arguments s).2.history := by
  have ends := Session.concluded_concludes token
  rw [call_eq accepted, opened]
  exact ⟨(c.left_sinks s _).trans (ends.takenOff _ _),
    (ends.history _ _).trans (c.left_history s _)⟩

/-- A capture leaves behind what it found if the function leaves alone what it finds inside. -/
theorem call_undisturbed {f : Callee} {arguments : Arguments}
    (inside : c.Accepted scene → ∀ frame t, c.opened s = (.ok frame.token, t) →
      s.sinks.Installs (s.newObserver c.collector).1 frame t.sinks → c.Opens s t →
      t.Undisturbed (f arguments t).2 ∧ (f arguments t).2.sinks.Ordered) :
    s.Undisturbed (c.call scene f arguments s).2 := by
  by_cases accepted : c.Accepted scene
  · rcases c.opened_cases s with
      ⟨fault, t, opened, _, refuses, _⟩ | ⟨frame, t, opened, installs, opens⟩
    · rw [call_eq accepted, opened]
      have sinks : (c.left s (t.report (Sinks.installFailed fault))).sinks = t.sinks :=
        (c.left_sinks s _).trans (t.report_remarked _).sinks
      exact ⟨(congrArg Sinks.frames sinks).trans refuses.frames, sinks ▸ refuses.facility⟩
    · obtain ⟨undisturbed, ordered⟩ := inside accepted frame t opened installs opens
      obtain ⟨sinks, _⟩ := call_opened accepted opened f arguments
      obtain ⟨frames, facility⟩ :=
        installs.undone ordered undisturbed.frames undisturbed.facility
      exact ⟨(congrArg Sinks.frames sinks).trans frames, sinks ▸ facility⟩
  · cases c with
    | run => exact absurd trivial accepted
    | collect listener =>
      simp only [call, Session.collect,
        if_neg (show ¬ (scene.listener listener).callable = true from accepted)]
      exact .refl s

end Capturing

/-- Neither by a guard nor by a write of its own does the step change the hook or the filters. -/
def Step.LeavesSinks : Step → Prop
  | .push .. | .release .. | .drop .. => False
  | step => step.WritesWithin Facility.LeftAlone

namespace Session
variable {scene : Scene} {react : Reaction} {s t : Session} {body : List Step} {ending : Ending}

theorem callee_undisturbed (follows : react.Follows Facility.Anything) (ordered : t.sinks.Ordered)
    (arguments : Arguments)
    (inside : ending.entered = true → t.Undisturbed (performAll scene react body t)) :
    t.Undisturbed (Capturing.callee scene react body ending arguments t).2 ∧
      (Capturing.callee scene react body ending arguments t).2.sinks.Ordered := by
  unfold Capturing.callee
  cases entered : ending.entered with
  | true =>
    simp only [if_true]
    exact ⟨inside entered, (body_course follows body t).moves.ordered ordered⟩
  | false => exact ⟨.refl t, ordered⟩

theorem withFacility_undisturbed {f : Facility} (same : s.sinks.facility.LeftAlone f) :
    s.Undisturbed (s.withFacility f) :=
  ⟨rfl, same⟩

/-- Sinks in order stay in order, and nothing is disturbed. -/
def KeepsSinks (s t : Session) : Prop :=
  s.sinks.Ordered → t.sinks.Ordered ∧ s.Undisturbed t

namespace KeepsSinks

theorem of_sinks (same : t.sinks = s.sinks) : s.KeepsSinks t :=
  fun ordered => ⟨same ▸ ordered, .of_sinks same⟩

theorem trans (first : s.KeepsSinks t) (second : t.KeepsSinks u) : s.KeepsSinks u := by
  intro ordered
  obtain ⟨between, before⟩ := first ordered
  obtain ⟨last, after⟩ := second between
  exact ⟨last, before.trans after⟩

/-- What is not about the sinks may be put before and after. -/
theorem amid {before after : Session} (inside : s.KeepsSinks t) (same : s.sinks = before.sinks)
    (still : after.sinks = t.sinks) : before.KeepsSinks after :=
  ((of_sinks same).trans inside).trans (.of_sinks still)

theorem refuse (refused : s.pushSink o = (.error err, t)) : s.KeepsSinks t := by
  intro ordered
  obtain ⟨remarked, refuses⟩ := pushSink_error refused
  have pushed : t.sinks = s.sinks.act (.push o) := remarked.sinks
  rw [← pushed] at refuses
  exact ⟨pushed ▸ ordered.act (.push o), refuses.frames, refuses.facility⟩

/-- The sink of a capture is taken off without a trace if it is still the last one. -/
theorem capture (installed : s.pushSink o = (.ok token, t)) (inside : t.KeepsSinks u) :
    s.KeepsSinks (u.releaseSink token false).2 := by
  intro ordered
  obtain ⟨remarked, frame, rfl, installs⟩ := pushSink_ok installed
  have pushed : t.sinks = s.sinks.act (.push o) := remarked.sinks
  rw [← pushed] at installs
  obtain ⟨still, undisturbed⟩ := inside (pushed ▸ ordered.act (.push o))
  obtain ⟨frames, facility⟩ := installs.undone still undisturbed.frames undisturbed.facility
  have released := u.releaseSink_sinks frame.token false
  exact ⟨released ▸ still.act (.release frame.token false),
    (congrArg Sinks.frames released).trans frames, released ▸ facility⟩

end KeepsSinks

/-- An operation that uses no guard disturbs nothing if what happens inside it does not, and if it
does not write the hook or the filters itself. -/
theorem Story.keepsSinks {b : Bounds} {owed : List (String × Record)} {answer : Option Answer}
    (leaves : ∀ {f g}, b.writes f g → f.LeftAlone g) (unguarded : ¬ b.guards)
    (inner : ∀ {s t}, b.inside s t → s.KeepsSinks t) (story : Story b s owed answer t) :
    s.KeepsSinks t := by
  induction story with
  | trans _ _ first second => exact first.trans second
  | arrange | nameObserver | tag | tell | again | store | place | touch | discard | pass =>
    exact .of_sinks rfl
  | applyPolicy s disk =>
    obtain ⟨_, remarked⟩ := s.applyPolicy_remarked disk _
    exact .of_sinks remarked.sinks
  | note s n => exact .of_sinks (s.note_remarked n).sinks
  | report s err => exact .of_sinks (s.report_remarked err).sinks
  | write s written =>
    exact fun ordered => ⟨ordered.act (.write _), withFacility_undisturbed (leaves written)⟩
  | guard guards | guardFailed guards => exact absurd guards unguarded
  | dismiss s r => exact .of_sinks (note_remarked _ _).sinks
  | call _ _ _ called => exact (inner called).amid rfl rfl
  | flush s buffer claimed => exact .of_sinks (s.takeRecords_remarked buffer claimed).sinks
  | replay _ _ _ inside => exact inside.amid rfl rfl
  | hand _ _ emitted rest => exact (emitted.trans rest).amid rfl rfl
  | refuse refused => exact (KeepsSinks.refuse refused).amid rfl rfl
  | capture installed called => exact (KeepsSinks.capture installed (inner called)).amid rfl rfl
  | run _ inside => exact inside.amid rfl rfl

end Session

/-- What is done without guards and other writes to the hook and the filters. -/
def Bounds.undisturbing : Bounds where
  writes := Facility.LeftAlone
  remembers := Session.remembers_leftAlone
  guards := False
  inside := Session.KeepsSinks

theorem Bounds.undisturbing_closed : Bounds.undisturbing.Closed where
  trans := .trans
  operation story := story.keepsSinks id id id
  close _ _ story := (story.keepsSinks id id id).trans (.of_sinks rfl)

theorem Step.LeavesSinks.within {step : Step} (leaves : step.LeavesSinks) :
    step.Within .undisturbing where
  writes := by cases step <;> first | exact leaves | trivial
  tags := step.tagsWithin_anything
  hands := step.handsIn_anything
  sets := step.setsWithin_anything
  guards uses := by cases step <;> first | exact leaves | exact uses

/-- Calling a listener disturbs nothing. -/
def Reaction.Undisturbing (react : Reaction) : Prop :=
  react.Conveys (fun _ => True) Session.KeepsSinks

namespace Session
variable {scene : Scene} {react : Reaction} {s : Session}

theorem performPlain_undisturbed (undisturbing : react.Undisturbing) (ordered : s.sinks.Ordered)
    {step : Step} (leaves : step.LeavesSinks) :
    s.Undisturbed (s.performPlain scene react step).2 :=
  ((performPlain_story (b := .undisturbing) undisturbing step leaves.within s).keepsSinks id id id
    ordered).2

/-- Listeners leave the hook and the filters as they are if their steps change them only by
captures. -/
theorem reaction_undisturbing (leaves : scene.Throughout Step.LeavesSinks) (depth : Nat) :
    (scene.reaction depth).Undisturbing := by
  have within : scene.Within .undisturbing :=
    ⟨fun name => allThroughout_of_imp (fun _ leaves => leaves.within) (leaves name),
      fun _ f _ => f.given_anything⟩
  exact reaction_conveys Bounds.undisturbing_closed within depth

end Session
end WarningCapture
