import Mathlib.Data.List.TakeWhile
import WarningCapture.Sink.Stack

/-! What the operations on sinks do to the facility and to the frames. An installation that fails
leaves hook and filters as they were; taking a sink off cuts the frames at its own. -/
namespace WarningCapture

namespace Facility
variable {f g h : Facility}

/-- Anything may be written but whether the hook can be assigned. -/
def Reassigned (f g : Facility) : Prop := g.hookReadOnly = f.hookReadOnly

def Anything (_ _ : Facility) : Prop := True

/-- The hook is not written, nor is what may be written to it and to the name of the filters. -/
structure HookKept (f g : Facility) : Prop where
  hook : g.hook = f.hook
  binding : g.binding = f.binding
  hookReadOnly : g.hookReadOnly = f.hookReadOnly

/-- Neither the hook nor the filters are written. -/
structure LeftAlone (f g : Facility) : Prop extends HookKept f g where
  filterList : g.filterList = f.filterList

theorem LeftAlone.refl (f : Facility) : f.LeftAlone f := ⟨⟨rfl, rfl, rfl⟩, rfl⟩

theorem LeftAlone.trans (first : f.LeftAlone g) (second : g.LeftAlone h) : f.LeftAlone h :=
  ⟨⟨second.hook.trans first.hook, second.binding.trans first.binding,
    second.hookReadOnly.trans first.hookReadOnly⟩, second.filterList.trans first.filterList⟩

theorem LeftAlone.filters (same : f.LeftAlone g) : g.filters? = f.filters? := by
  simp only [filters?, same.binding, same.filterList]

theorem filters_of_list (list : f.binding = .list) : f.filters? = some f.filterList := by
  simp only [filters?, list]

theorem noteMutation_leftAlone (f : Facility) : f.LeftAlone f.noteMutation := by
  unfold noteMutation
  split <;> exact ⟨⟨rfl, rfl, rfl⟩, rfl⟩

@[simp] theorem noteMutation_hook (f : Facility) : f.noteMutation.hook = f.hook :=
  (noteMutation_leftAlone f).hook

@[simp] theorem noteMutation_binding (f : Facility) : f.noteMutation.binding = f.binding :=
  (noteMutation_leftAlone f).binding

@[simp] theorem noteMutation_filterList (f : Facility) :
    f.noteMutation.filterList = f.filterList :=
  (noteMutation_leftAlone f).filterList

@[simp] theorem noteMutation_hookReadOnly (f : Facility) :
    f.noteMutation.hookReadOnly = f.hookReadOnly :=
  (noteMutation_leftAlone f).hookReadOnly

theorem setHook_hook (f : Facility) (hook : Hook) :
    (f.setHook hook).2.hook = if f.hookReadOnly then f.hook else some hook := by
  unfold setHook
  split <;> rfl

@[simp] theorem setHook_binding (f : Facility) (hook : Hook) :
    (f.setHook hook).2.binding = f.binding := by
  unfold setHook
  split <;> rfl

@[simp] theorem setHook_filterList (f : Facility) (hook : Hook) :
    (f.setHook hook).2.filterList = f.filterList := by
  unfold setHook
  split <;> rfl

@[simp] theorem setHook_hookReadOnly (f : Facility) (hook : Hook) :
    (f.setHook hook).2.hookReadOnly = f.hookReadOnly := by
  unfold setHook
  split <;> rfl

theorem showAll_hookKept (f : Facility) : f.HookKept f.showAll.2 := by
  unfold showAll
  split
  · exact ⟨rfl, rfl, rfl⟩
  · split
    · exact ⟨rfl, rfl, rfl⟩
    · exact ⟨rfl, rfl, rfl⟩
    · split <;> constructor <;> simp

theorem showAll_ok (shown : f.showAll = (.ok (), g)) :
    g.filterList = Filter.showAll.prioritise f.filterList := by
  unfold showAll at shown
  split at shown
  · cases shown
  · split at shown
    · cases shown
    · cases shown
    · split at shown <;> cases shown
      simp

end Facility

namespace Frame
variable (frame : Frame) (f : Facility)

/-- The filters go back if they are a list, the hook in any case. -/
theorem restore_facility : (frame.restore f).2 =
    ((if f.binding = .list then { f with filterList := frame.filters }.noteMutation
      else f).setHook frame.hook).2 := by
  unfold restore Facility.assignFilters
  cases f.binding <;> simp

@[simp] theorem restore_binding : (frame.restore f).2.binding = f.binding := by
  rw [restore_facility]
  split <;> simp

@[simp] theorem restore_hookReadOnly : (frame.restore f).2.hookReadOnly = f.hookReadOnly := by
  rw [restore_facility]
  split <;> simp

theorem restore_hook :
    (frame.restore f).2.hook = if f.hookReadOnly then f.hook else some frame.hook := by
  rw [restore_facility, Facility.setHook_hook]
  split <;> simp

theorem restore_filterList (list : f.binding = .list) :
    (frame.restore f).2.filterList = frame.filters := by
  rw [restore_facility, if_pos list]
  simp

theorem restore_filters (list : f.binding = .list) :
    (frame.restore f).2.filters? = some frame.filters := by
  have kept : (frame.restore f).2.binding = .list := by rw [restore_binding, list]
  rw [Facility.filters_of_list kept, restore_filterList frame f list]

theorem restore_ok (list : f.binding = .list) (assignable : f.hookReadOnly = false) :
    (frame.restore f).1 = .ok () := by
  unfold restore Facility.assignFilters
  simp [list, Facility.setHook, assignable, Except.mapError]

/-- Putting back what a change of the filters alone replaced undoes that change, whether or not the
hook can be assigned. -/
theorem restore_leftAlone {f g : Facility} (kept : f.HookKept g) (list : f.binding = .list)
    (hook : f.hook = some frame.hook)
    (filters : f.filterList = frame.filters) : f.LeftAlone (frame.restore g).2 where
  hook := by rw [restore_hook, kept.hook, hook, ite_self]
  binding := by rw [restore_binding, kept.binding]
  hookReadOnly := by rw [restore_hookReadOnly, kept.hookReadOnly]
  filterList := (restore_filterList frame g (kept.binding.trans list)).trans filters.symm

theorem restore_failure {err : CaptureError} (failed : (frame.restore f).1 = .error err) :
    ∃ fault, err = frame.restoreFailed fault := by
  unfold restore at failed
  split at failed
  · simp only at failed
    unfold Facility.setHook at failed
    split at failed
    · cases failed
      exact ⟨_, rfl⟩
    · cases failed
  · cases failed
    exact ⟨_, rfl⟩

end Frame

namespace Sinks
variable {s t : Sinks} {o : Observer} {frame : Frame} {token : Nat}

/-- What it takes to install a sink, and what is there once it is installed. -/
structure Installs (s : Sinks) (o : Observer) (frame : Frame) (t : Sinks) : Prop where
  outcome : (s.push o).1 = .ok frame.token
  token : frame.token = s.nextToken
  hook : s.facility.hook = some frame.hook
  list : s.facility.binding = .list
  filters : s.facility.filterList = frame.filters
  assignable : s.facility.hookReadOnly = false
  next : t.nextToken = s.nextToken + 1
  frames : t.frames = s.frames ++ [frame]
  observing : t.facility.hook = some (.observer o)
  binding : t.facility.binding = .list
  prioritised : t.facility.filterList = Filter.showAll.prioritise frame.filters
  hookReadOnly : t.facility.hookReadOnly = false

/-- An installation that fails hands out no frame and writes nothing that it does not take back. -/
structure Refuses (s t : Sinks) : Prop where
  next : s.nextToken ≤ t.nextToken
  frames : t.frames = s.frames
  facility : s.facility.LeftAlone t.facility

theorem saved_ok {f : Facility} {hook : Hook} {filters : List Filter}
    (saved : saved f = .ok (hook, filters)) :
    f.hook = some hook ∧ f.binding = .list ∧ f.filterList = filters := by
  unfold Sinks.saved Facility.getHook Facility.copyFilters at saved
  cases present : f.hook <;> cases bound : f.binding <;>
    simp [present, bound, bind, Except.bind, pure, Except.pure] at saved
  obtain ⟨rfl, rfl⟩ := saved
  exact ⟨rfl, rfl, rfl⟩

theorem redirect_ok {f g : Facility} (redirected : redirect o f = (.ok (), g)) :
    g.hook = some (.observer o) ∧ g.binding = f.binding ∧
      g.filterList = Filter.showAll.prioritise f.filterList ∧
      f.hookReadOnly = false ∧ g.hookReadOnly = false := by
  unfold redirect at redirected
  have kept := f.showAll_hookKept
  split at redirected
  · rename_i shown changed
    rw [changed] at kept
    have list := Facility.showAll_ok changed
    unfold Facility.setHook at redirected
    split at redirected
    · cases redirected
    · rename_i assignable
      cases redirected
      rw [Bool.not_eq_true] at assignable
      exact ⟨rfl, kept.binding, list, kept.hookReadOnly.symm.trans assignable, assignable⟩
  · cases redirected

/-- The hook is assigned last, so an installation that fails has not changed it. -/
theorem redirect_error {f g : Facility} {fault : Fault}
    (redirected : redirect o f = (.error fault, g)) : f.HookKept g := by
  unfold redirect at redirected
  have kept := f.showAll_hookKept
  split at redirected
  · rename_i shown changed
    rw [changed] at kept
    unfold Facility.setHook at redirected
    split at redirected
    · cases redirected
      exact kept
    · cases redirected
  · rename_i changed
    cases redirected
    rw [changed] at kept
    exact kept

theorem push_ok {notices : List Log.Notice} (pushed : s.push o = (.ok token, t, notices)) :
    ∃ frame, frame.token = token ∧ s.Installs o frame t := by
  have outcome : (s.push o).1 = .ok token := by rw [pushed]
  unfold push at pushed
  split at pushed
  · cases pushed
  · rename_i hook filters saved
    obtain ⟨hookIs, list, filtersAre⟩ := saved_ok saved
    split at pushed
    · rename_i facility redirected
      obtain ⟨observing, binding, prioritised, assignable, hookReadOnly⟩ := redirect_ok redirected
      cases pushed
      exact ⟨_, rfl, {
        outcome, token := rfl, hook := hookIs, list, filters := filtersAre, assignable, next := rfl
        frames := rfl, observing, binding := binding.trans list
        prioritised := by rw [prioritised, filtersAre], hookReadOnly }⟩
    · simp only at pushed
      split at pushed <;> cases pushed

theorem push_error {err : CaptureError} {notices : List Log.Notice}
    (refused : s.push o = (.error err, t, notices)) : s.Refuses t := by
  unfold push at refused
  split at refused
  · cases refused
    exact ⟨Nat.le_refl _, rfl, .refl _⟩
  · rename_i hook filters saved
    obtain ⟨hookIs, list, filtersAre⟩ := saved_ok saved
    split at refused
    · cases refused
    · rename_i facility redirected
      have undone := Frame.restore_leftAlone ⟨s.nextToken, hook, filters⟩
        (redirect_error redirected) list hookIs filtersAre
      simp only at refused
      split at refused
      all_goals
        rename_i restored
        rw [restored] at undone
        cases refused
        exact ⟨Nat.le_succ _, rfl, undone⟩

/-- A refusal says that a sink could not be installed. -/
theorem push_refusal {err : CaptureError}
    (refused : (s.push o).1 = .error err) : ∃ fault, err = installFailed fault := by
  unfold push at refused
  split at refused
  · cases refused
    exact ⟨_, rfl⟩
  · split at refused
    · cases refused
    · simp only at refused
      split at refused <;> cases refused <;> exact ⟨_, rfl⟩

theorem push_cases (s : Sinks) (o : Observer) :
    (∃ frame, s.Installs o frame (s.push o).2.1) ∨ s.Refuses (s.push o).2.1 := by
  cases pushed : s.push o with
  | mk outcome rest =>
    obtain ⟨t, notices⟩ := rest
    cases outcome with
    | ok token =>
      obtain ⟨frame, rfl, installs⟩ := push_ok pushed
      exact .inl ⟨frame, installs⟩
    | error err => exact .inr (push_error pushed)

theorem below_prefix (s : Sinks) (token : Nat) : s.below token <+: s.frames :=
  List.takeWhile_prefix _

theorem below_of_gone (gone : s.find? token = none) : s.below token = s.frames := by
  unfold find? at gone
  unfold below
  refine List.takeWhile_eq_self_iff.mpr fun frame member => ?_
  simpa using List.find?_eq_none.mp gone frame member

theorem find_stack (found : s.find? token = some frame) :
    frame.token = token ∧ ∃ above, s.frames = s.below token ++ frame :: above := by
  obtain ⟨isToken, below, above, stack, others⟩ := List.find?_eq_some_iff_append.mp found
  have passed : ∀ other ∈ below, (other.token != token) = true := others
  refine ⟨by simpa using isToken, above, ?_⟩
  simp [Sinks.below, stack, List.takeWhile_append_of_pos passed, eq_of_beq isToken]

/-- Whatever becomes of hook and filters, the sink and those above it are gone. -/
@[simp] theorem release_frames (s : Sinks) (token : Nat) (elsewhere : Bool) :
    (s.release token elsewhere).2.1.frames = s.below token := by
  unfold release
  split
  · rename_i gone
    exact (below_of_gone gone).symm
  · split <;> rfl

@[simp] theorem release_nextToken (s : Sinks) (token : Nat) (elsewhere : Bool) :
    (s.release token elsewhere).2.1.nextToken = s.nextToken := by
  unfold release
  split
  · rfl
  · split <;> rfl

theorem release_gone (gone : s.find? token = none) (elsewhere : Bool) :
    (s.release token elsewhere).1 = .ok () ∧ (s.release token elsewhere).2.1 = s := by
  simp only [release, gone, and_self]

theorem release_found (found : s.find? token = some frame) (elsewhere : Bool) :
    (s.release token elsewhere).1 = (frame.restore s.facility).1 ∧
      (s.release token elsewhere).2.1.facility = (frame.restore s.facility).2 := by
  simp only [release, found]
  split <;> rename_i restored <;> simp only [restored, and_self]

theorem release_failure {elsewhere : Bool} {err : CaptureError}
    (failed : (s.release token elsewhere).1 = .error err) :
    err.code = .sinkRestoreFailed ∧ err.errorClass = .environment := by
  cases found : s.find? token with
  | none =>
    rw [(release_gone found elsewhere).1] at failed
    cases failed
  | some frame =>
    rw [(release_found found elsewhere).1] at failed
    obtain ⟨fault, rfl⟩ := Frame.restore_failure frame s.facility failed
    exact ⟨rfl, rfl⟩

/-- A drop does to the sinks what a release does. -/
theorem drop_eq (s : Sinks) (token : Nat) (elsewhere : Bool) :
    (s.drop token).1 = (s.release token elsewhere).2.1 := by
  unfold drop release
  cases s.find? token with
  | none => rfl
  | some frame =>
    simp only
    rcases frame.restore s.facility with ⟨_ | _, _⟩ <;> rfl

end Sinks
end WarningCapture
