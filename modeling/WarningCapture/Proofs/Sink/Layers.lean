import WarningCapture.Proofs.Sink.Moves

/-! Layers of sinks. While pushes and releases alone write the hook and the filters, each frame
holds what the sink below it shows, and the top sink is in force. -/
namespace WarningCapture.Sinks

/-- The frames lie in layers on a base, with the given hook and filters on top: the base shows its
own, and a sink shows its observer and its filters with the one that shows everything in front. -/
inductive Layers (Pushed : Observer → Frame → Prop) (base : Facility) :
    List Frame → Option Hook → List Filter → Prop where
  | base : Layers Pushed base [] base.hook base.filterList
  | layer : base.binding = .list → base.hookReadOnly = false → Pushed o frame →
      Layers Pushed base lower (some frame.hook) frame.filters →
      Layers Pushed base (lower ++ [frame]) (some (.observer o))
        (Filter.showAll.prioritise frame.filters)

namespace Layers
variable {Pushed More : Observer → Frame → Prop} {base : Facility} {stack below above : List Frame}
  {frame : Frame} {hook : Option Hook} {filters : List Filter}

theorem top (layers : Layers Pushed base (below ++ [frame]) hook filters) :
    (base.binding = .list ∧ base.hookReadOnly = false) ∧
      Layers Pushed base below (some frame.hook) frame.filters ∧
      ∃ o, Pushed o frame ∧ hook = some (.observer o) ∧
        filters = Filter.showAll.prioritise frame.filters := by
  generalize whole : below ++ [frame] = stack at layers
  cases layers with
  | base => simp at whole
  | layer list assignable pushed lower =>
    obtain ⟨rfl, last⟩ := List.append_inj' whole rfl
    cases last
    exact ⟨⟨list, assignable⟩, lower, _, pushed, rfl, rfl⟩

theorem nothing (layers : Layers Pushed base [] hook filters) :
    hook = base.hook ∧ filters = base.filterList := by
  generalize whole : [] = stack at layers
  cases layers with
  | base => exact ⟨rfl, rfl⟩
  | layer => simp at whole

/-- What a frame holds is what was in force over the frames below it. -/
theorem cut (layers : Layers Pushed base (below ++ frame :: above) hook filters) :
    (base.binding = .list ∧ base.hookReadOnly = false) ∧
      Layers Pushed base below (some frame.hook) frame.filters := by
  induction above using List.reverseRecOn generalizing hook filters with
  | nil => exact ⟨layers.top.1, layers.top.2.1⟩
  | append_singleton above last ih =>
    rw [← List.cons_append, ← List.append_assoc] at layers
    exact ih layers.top.2.1

end Layers

variable {s t : Sinks} {o : Observer} {frame : Frame} {token : Nat} {m : Move}
  {moves order : List Move} {Pushed : Observer → Frame → Prop} {below : List Frame}

/-- The sinks lie in layers on what was shown at the start. -/
structure Layered (Pushed : Observer → Frame → Prop) (s t : Sinks) : Prop where
  binding : t.facility.binding = s.facility.binding
  hookReadOnly : t.facility.hookReadOnly = s.facility.hookReadOnly
  layers : Layers Pushed s.facility t.frames t.facility.hook t.facility.filterList

namespace Layered

theorem leftAlone {u : Sinks} (layered : Layered Pushed s t) (frames : u.frames = t.frames)
    (same : t.facility.LeftAlone u.facility) : Layered Pushed s u where
  binding := same.binding.trans layered.binding
  hookReadOnly := same.hookReadOnly.trans layered.hookReadOnly
  layers := by
    rw [frames, same.hook, same.filterList]
    exact layered.layers

theorem release (layered : Layered Pushed s t) (token : Nat) (elsewhere : Bool) :
    Layered Pushed s (t.release token elsewhere).2.1 := by
  cases found : t.find? token with
  | none =>
    rw [(release_gone found elsewhere).2]
    exact layered
  | some frame =>
    obtain ⟨_, above, stack⟩ := find_stack found
    have facility := (release_found found elsewhere).2
    have layers := layered.layers
    rw [stack] at layers
    obtain ⟨⟨list, assignable⟩, lower⟩ := layers.cut
    have list : t.facility.binding = .list := layered.binding.trans list
    have assignable : t.facility.hookReadOnly = false := layered.hookReadOnly.trans assignable
    constructor
    · rw [facility, Frame.restore_binding, layered.binding]
    · rw [facility, Frame.restore_hookReadOnly, layered.hookReadOnly]
    · rw [facility, release_frames, Frame.restore_filterList frame _ list, Frame.restore_hook,
        assignable]
      exact lower

theorem act (layered : Layered Pushed s t) (writes : ∀ f, m = .write f → t.facility.LeftAlone f)
    (pushed : ∀ o frame, m = .push o → t.Installs o frame (t.act m) → Pushed o frame) :
    Layered Pushed s (t.act m) := by
  cases m with
  | push o =>
    rcases push_cases t o with ⟨frame, installs⟩ | refuses
    · have isPushed := pushed o frame rfl installs
      have list := layered.binding.symm.trans installs.list
      have assignable := layered.hookReadOnly.symm.trans installs.assignable
      have layers := layered.layers
      rw [installs.hook, installs.filters] at layers
      constructor
      · exact installs.binding.trans list.symm
      · exact installs.hookReadOnly.trans assignable.symm
      · simp only [Sinks.act]
        rw [installs.frames, installs.observing, installs.prioritised]
        exact .layer list assignable isPushed layers
    · exact layered.leftAlone refuses.frames refuses.facility
  | release token elsewhere => exact layered.release token elsewhere
  | drop token => simpa only [Sinks.act, drop_eq t token false] using layered.release token false
  | write f => exact layered.leftAlone rfl (writes f rfl)

theorem top (layered : Layered Pushed s t) (stack : t.frames = below ++ [frame]) :
    ∃ o, Pushed o frame ∧ t.facility.hook = some (.observer o) ∧
      t.facility.filters? = some (Filter.showAll.prioritise frame.filters) := by
  have layers := layered.layers
  rw [stack] at layers
  obtain ⟨⟨list, _⟩, _, o, pushed, hook, filters⟩ := layers.top
  exact ⟨o, pushed, hook, by rw [Facility.filters_of_list (layered.binding.trans list), filters]⟩

end Layered

/-- Taking sinks off in any order empties the stack once each of them had its turn. -/
theorem emptied (takes : ∀ m ∈ order, ∃ token, m.TakesOff token)
    (each : ∀ frame ∈ t.frames, ∃ m ∈ order, m.TakesOff frame.token) :
    (t.after order).frames = [] := by
  induction order generalizing t with
  | nil =>
    refine List.eq_nil_iff_forall_not_mem.mpr fun frame member => ?_
    obtain ⟨m, absent, _⟩ := each frame member
    cases absent
  | cons m rest ih =>
    obtain ⟨token, takesToken⟩ := takes m List.mem_cons_self
    refine ih (fun other member => takes other (List.mem_cons_of_mem _ member)) ?_
    intro frame member
    rw [act_takesOff takesToken false, release_frames] at member
    have different : frame.token ≠ token := by simpa using List.mem_takeWhile_imp member
    obtain ⟨other, present, takesFrame⟩ := each frame ((t.below_prefix token).subset member)
    rcases List.mem_cons.mp present with rfl | later
    · exact absurd (takesToken.unique takesFrame).symm different
    · exact ⟨other, later, takesFrame⟩

end WarningCapture.Sinks
