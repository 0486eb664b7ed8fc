import WarningCapture.Proofs.Warning.Emitting
import WarningCapture.Session.Perform

/-! Bounds of what may happen in a session. A property of steps extends to the steps inside them and
to those of listeners, and together such properties bound what operations may do. -/
namespace WarningCapture

section
variable (P : Step → Prop)

mutual

/-- A step and all steps inside it, to any depth, have a property. -/
def Step.Throughout : Step → Prop
  | .run buffer arguments body ending => P (.run buffer arguments body ending) ∧ AllThroughout body
  | .collect listener arguments body ending =>
      P (.collect listener arguments body ending) ∧ AllThroughout body
  | step => P step

def AllThroughout : List Step → Prop
  | [] => True
  | step :: rest => step.Throughout ∧ AllThroughout rest

end
end

theorem Step.Throughout.here {P : Step → Prop} {step : Step} (all : step.Throughout P) :
    P step := by
  cases step with
  | run | collect => exact all.1
  | _ => exact all

mutual

theorem Step.throughout_of_forall {P : Step → Prop} (all : ∀ step, P step) (step : Step) :
    step.Throughout P := by
  cases step with
  | run _ _ body | collect _ _ body => exact ⟨all _, allThroughout_of_forall all body⟩
  | _ => exact all _

theorem allThroughout_of_forall {P : Step → Prop} (all : ∀ step, P step) (steps : List Step) :
    AllThroughout P steps := by
  cases steps with
  | nil => trivial
  | cons step rest => exact ⟨step.throughout_of_forall all, allThroughout_of_forall all rest⟩

end

mutual

theorem Step.throughout_of_both {P Q R : Step → Prop} (both : ∀ step, P step → Q step → R step)
    (step : Step) (first : step.Throughout P) (second : step.Throughout Q) :
    step.Throughout R := by
  cases step with
  | run _ _ body | collect _ _ body =>
    exact ⟨both _ first.1 second.1, allThroughout_of_both both body first.2 second.2⟩
  | _ => exact both _ first second

theorem allThroughout_of_both {P Q R : Step → Prop} (both : ∀ step, P step → Q step → R step)
    (steps : List Step) (first : AllThroughout P steps) (second : AllThroughout Q steps) :
    AllThroughout R steps := by
  cases steps with
  | nil => trivial
  | cons step rest =>
    exact ⟨step.throughout_of_both both first.1 second.1,
      allThroughout_of_both both rest first.2 second.2⟩

end

theorem allThroughout_of_imp {P Q : Step → Prop} (imp : ∀ step, P step → Q step)
    {steps : List Step} (all : AllThroughout P steps) : AllThroughout Q steps :=
  allThroughout_of_both (fun step holds _ => imp step holds) steps all all

/-- The steps of all listeners have a property, and so have the steps inside them. -/
def Scene.Throughout (P : Step → Prop) (scene : Scene) : Prop :=
  ∀ name, AllThroughout P (scene.listener name).steps

/-- What a step writes to the facility on its own account, not through a guard or a capture, is
among the given writes. -/
def Step.WritesWithin (W : Facility → Facility → Prop) : Step → Prop
  | .replaceHook => ∀ f : Facility, W f (f.setHook .custom).2
  | .setFilters filters => ∀ f : Facility, W f (f.replaceFilters filters).2
  | .damage (.facility d) => ∀ f : Facility, W f (f.damage d)
  | .heal => ∀ f : Facility, W f f.heal
  | _ => True

theorem Step.writesWithin_anything (step : Step) : step.WritesWithin Facility.Anything := by
  unfold WritesWithin
  split <;> intros <;> trivial

/-- A test id that the step sets is among the given ones. -/
def Step.TagsWithin (Tags : Option String → Prop) : Step → Prop
  | .setTestId testId => Tags testId
  | _ => True

theorem Step.tagsWithin_anything (step : Step) : step.TagsWithin fun _ => True := by
  cases step <;> trivial

/-- The function under test ends with no error of the library but given ones. -/
def Ending.HandsIn (given : CaptureError → Prop) (ending : Ending) : Prop :=
  ∀ arguments f, ending.conclude arguments = .error f → f.Given given

/-- A step hands in no errors of the library but given ones. -/
def Step.HandsIn (given : CaptureError → Prop) : Step → Prop
  | .run _ _ _ ending | .collect _ _ _ ending => ending.HandsIn given
  | .showWith message _ file _ | .callObserver _ message _ file _ =>
      message.HandsIn given ∧ file.HandsIn given
  | .flush _ (some (.error f)) => f.Given given
  | .boundary _ (.raises f) => f.Given given
  | _ => True

/-- A step that changes the policy changes it in the given way. -/
def Step.SetsWithin (Sets : Policy → Policy → Prop) : Step → Prop
  | .configure update => ∀ p q, p.configure update = .ok q → Sets p q
  | .configureFrom env => ∀ p u, env.policyUpdate = .ok u → Sets p (p.apply u)
  | _ => True

/-- Neither the steps of listeners nor listeners themselves hand in other errors. -/
structure Scene.HandsIn (given : CaptureError → Prop) (scene : Scene) : Prop where
  steps : scene.Throughout (Step.HandsIn given)
  raises : ∀ name f, (scene.listener name).raises = some f → f.Given given

theorem Step.handsIn_anything (step : Step) : step.HandsIn fun _ => True := by
  cases step with
  | run _ _ _ ending | collect _ _ _ ending => exact fun _ f _ => f.given_anything
  | showWith | callObserver => exact ⟨fun f _ => f.given_anything, fun f _ => f.given_anything⟩
  | flush _ targets => rcases targets with _ | f | _ <;> first | trivial | exact f.given_anything
  | boundary _ operation => cases operation <;> first | trivial | exact Fault.given_anything _
  | _ => trivial

theorem Scene.handsIn_anything (scene : Scene) : scene.HandsIn fun _ => True where
  steps _ := allThroughout_of_forall Step.handsIn_anything _
  raises _ f _ := f.given_anything

theorem Step.setsWithin_anything (step : Step) : step.SetsWithin fun _ _ => True := by
  cases step <;> first | trivial | exact fun _ _ _ => trivial

namespace Session

/-- What emitting a warning does to the memory of the facility is among the writes. -/
def Remembers (W : Facility → Facility → Prop) : Prop :=
  ∀ (f : Facility) (message : String) (category : Category) (line : Int),
    W f (f.emit message category line).2

theorem remembers_anything : Remembers Facility.Anything := fun _ _ _ _ => trivial

theorem remembers_leftAlone : Remembers Facility.LeftAlone := Facility.emit_leftAlone

end Session

/-- A step that names a guard, or gives one up. -/
def Step.UsesGuard : Step → Prop
  | .push .. | .release .. | .drop .. => True
  | _ => False

/-- What operations may do on their own account, and what may happen while they call into the code
under test. -/
structure Bounds where
  /-- Writes to the facility, other than by guards and captures. -/
  writes : Facility → Facility → Prop := Facility.Anything
  remembers : Session.Remembers writes
  /-- Test ids that are set, other than by runs. -/
  tags : Option String → Prop := fun _ => True
  /-- Errors of the library that are handed in. -/
  given : CaptureError → Prop := fun _ => True
  /-- Changes of the policy. -/
  sets : Policy → Policy → Prop := fun _ _ => True
  /-- Whether guards are in use. -/
  guards : Prop := True
  /-- What happens while a listener is called, or the function of a capture. -/
  inside : Session → Session → Prop

/-- A step keeps within bounds, whatever the steps inside it do. -/
structure Step.Within (b : Bounds) (step : Step) : Prop where
  writes : step.WritesWithin b.writes
  tags : step.TagsWithin b.tags
  hands : step.HandsIn b.given
  sets : step.SetsWithin b.sets
  guards : step.UsesGuard → b.guards

/-- Listeners keep within bounds. -/
structure Scene.Within (b : Bounds) (scene : Scene) : Prop where
  steps : scene.Throughout (Step.Within b)
  raises : ∀ name f, (scene.listener name).raises = some f → f.Given b.given

end WarningCapture
