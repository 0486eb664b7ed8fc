import WarningCapture.Proofs.Sink.Operations
import WarningCapture.Warning.Record

/-! The function that emits warnings. It writes nothing but the memory of the facility, what it
shows goes to the hook of the moment, and what it raises on its own account is no error of the
library. -/
namespace WarningCapture

/-- If the fault is an error of the library, it is among the given ones. -/
def Fault.Given (given : CaptureError → Prop) : Fault → Prop
  | .raised .. => True
  | .reported err => given err

theorem Fault.given_anything (f : Fault) : f.Given fun _ => True := by
  cases f <;> trivial

/-- The object fails to print with no error of the library but given ones. -/
def Printable.HandsIn (given : CaptureError → Prop) (p : Printable) : Prop :=
  ∀ f, p.text = .error f → f.Given given

theorem Record.ofShown_given {given : CaptureError → Prop} {message file : Printable}
    {category : Category} {line : Value} {f : Fault} (hands : message.HandsIn given)
    (handsFile : file.HandsIn given)
    (failed : Record.ofShown message category file line = .error f) : f.Given given := by
  unfold ofShown at failed
  cases text : message.text with
  | error =>
    rw [text] at failed
    cases failed
    exact hands _ text
  | ok =>
    cases path : file.text with
    | error =>
      rw [text, path] at failed
      cases failed
      exact handsFile _ path
    | ok =>
      cases word : line.toWord with
      | error =>
        rw [text, path, word] at failed
        cases failed
        unfold Value.toWord at word
        split at word
        · split at word <;> cases word
          trivial
        · cases word
          trivial
      | ok =>
        rw [text, path, word] at failed
        cases failed

namespace Facility
variable {f g : Facility} {message : String} {category : Category} {line : Int}
  {given : CaptureError → Prop}

theorem consult_leftAlone (f : Facility) : f.LeftAlone f.consult.2 := by
  unfold consult
  split <;> exact ⟨⟨rfl, rfl, rfl⟩, rfl⟩

theorem decideWarning_leftAlone (f : Facility) (message : String) (category : Category) :
    f.LeftAlone (f.decideWarning message category).2 := by
  have consulted := f.consult_leftAlone
  unfold decideWarning
  split
  · rename_i outcome
    rwa [outcome] at consulted
  · rename_i outcome
    rw [outcome] at consulted
    split
    · exact consulted
    · exact consulted
    · split
      · exact consulted
      · exact ⟨⟨consulted.hook, consulted.binding, consulted.hookReadOnly⟩, consulted.filterList⟩
    all_goals exact consulted

theorem emit_leftAlone (f : Facility) (message : String) (category : Category) (line : Int) :
    f.LeftAlone (f.emit message category line).2 := by
  unfold emit
  split
  · exact .refl f
  · split
    · exact .refl f
    · exact f.decideWarning_leftAlone message category

/-- What emitting a warning shows goes to the hook of the moment. -/
theorem emit_hook {hook : Option Hook} (shown : f.emit message category line = (.shown hook, g)) :
    g.hook = hook := by
  unfold emit decideWarning at shown
  split at shown
  · cases shown
  · split at shown
    · cases shown
    · split at shown
      · cases shown
      · split at shown
        · cases shown
        · cases shown
        · split at shown <;> cases shown
          rfl
        all_goals
          cases shown
          rfl

/-- The emission of a warning does not change the hook. -/
theorem emit_keeps_hook (f : Facility) (message : String) (category : Category)
    (line : Int) : (f.emit message category line).2.hook = f.hook :=
  (f.emit_leftAlone message category line).hook

/-- What the emitting function raises on its own account, before anything is shown. -/
inductive Refuses (f : Facility) (message : String) (category : Category) (line : Int) :
    Fault → Prop where
  | line : checkLine line = .error fault → Refuses f message category line fault
  | category : category.construct message = .error fault → Refuses f message category line fault
  /-- The filters are no list. -/
  | filters : f.consult.1 = .error fault → Refuses f message category line fault
  | filter : f.consult.1 = .ok filters → Filter.actionFor category filters = .error →
      Refuses f message category line (.raised category.label message)

theorem emit_refuses {fault : Fault} (failed : f.emit message category line = (.fails fault, g)) :
    f.Refuses message category line fault := by
  unfold Facility.emit at failed
  split at failed
  · rename_i refused
    cases failed
    exact .line refused
  · split at failed
    · rename_i refused
      cases failed
      exact .category refused
    · unfold decideWarning at failed
      split at failed
      · rename_i refused
        cases failed
        exact .filters (congrArg Prod.fst refused)
      · rename_i consulted
        split at failed
        · rename_i action
          cases failed
          exact .filter (congrArg Prod.fst consulted) action
        · cases failed
        · split at failed <;> cases failed
        all_goals cases failed

theorem checkLine_given {fault : Fault} (refused : checkLine line = .error fault) :
    fault.Given given := by
  unfold checkLine at refused
  split at refused
  · cases refused
    trivial
  · split at refused
    · cases refused
      trivial
    · split at refused <;> cases refused
      trivial

theorem construct_given {text : String} {fault : Fault}
    (refused : category.construct text = .error fault) : fault.Given given := by
  unfold Category.construct at refused
  split at refused <;> cases refused <;> trivial

theorem consult_given {fault : Fault} (refused : f.consult.1 = .error fault) :
    fault.Given given := by
  unfold consult at refused
  split at refused
  · cases refused
  · cases refused
    trivial
  · simp only at refused
    split at refused <;> cases refused
    trivial

/-- What the emitting function raises on its own account is no error of the library. -/
theorem emit_given {fault : Fault} (failed : f.emit message category line = (.fails fault, g)) :
    fault.Given given := by
  cases emit_refuses failed with
  | line refused => exact checkLine_given refused
  | category refused => exact construct_given refused
  | filters refused => exact consult_given refused
  | filter => trivial

end Facility
end WarningCapture
