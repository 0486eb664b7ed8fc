import WarningCapture.Proofs.Sink.Moves

/-! Guards unwind the sinks whatever happened since they were pushed: each frame keeps what its own
push replaced, and taking its sink off brings exactly that back. -/
namespace WarningCapture.Sinks

variable {s t : Sinks} {frame : Frame} {token : Nat} {m : Move} {below above : List Frame}

theorem act_takesOff_found (ordered : t.Ordered) (stack : t.frames = below ++ frame :: above)
    (takes : m.TakesOff frame.token) :
    (t.act m).frames = below ∧ (t.act m).facility = (frame.restore t.facility).2 := by
  obtain ⟨found, cut⟩ := ordered.found stack
  rw [act_takesOff takes false]
  exact ⟨(release_frames t _ false).trans cut, (release_found found false).2⟩

theorem find_gone (gone : ∀ frame ∈ t.frames, frame.token ≠ token) : t.find? token = none :=
  List.find?_eq_none.mpr fun frame member => by simpa using gone frame member

theorem act_takesOff_gone (gone : ∀ frame ∈ t.frames, frame.token ≠ token)
    (takes : m.TakesOff token) : t.act m = t := by
  rw [act_takesOff takes false]
  exact (release_gone (find_gone gone) false).2

/-- In every run from an empty stack in which other code reassigns the hook and the filters at will,
each frame is the work of one push and holds the hook and the filters that were current just before
it; tokens increase from the bottom up. While the filters are a list, taking a sink off leaves the
frames below it and makes current what was so before its push. A sink that is gone stays gone. -/
theorem guards_restore_what_they_replaced (s : Sinks) (empty : s.frames = [])
    (moves : List Move) (reassigned : s.Writes Facility.Reassigned moves) :
    (s.after moves).frames.Pairwise (fun a b => a.token < b.token) ∧
    (∀ below frame above, (s.after moves).frames = below ++ frame :: above →
      ∃ done o later, moves = done ++ .push o :: later ∧
        ((s.after done).push o).1 = .ok frame.token ∧
        (s.after done).facility.hook = some frame.hook ∧
        (s.after done).facility.filters? = some frame.filters ∧
        ∀ m : Move, m.TakesOff frame.token →
          ((s.after moves).act m).frames = below ∧
          ((s.after moves).facility.binding = .list →
            (∀ elsewhere, ((s.after moves).release frame.token elsewhere).1 = .ok ()) ∧
            ((s.after moves).act m).facility.hook = (s.after done).facility.hook ∧
            ((s.after moves).act m).facility.filters? = (s.after done).facility.filters?)) ∧
    (∀ token, (∀ frame ∈ (s.after moves).frames, frame.token ≠ token) →
      (∀ elsewhere, ((s.after moves).release token elsewhere).1 = .ok ()) ∧
      ∀ m : Move, m.TakesOff token → (s.after moves).act m = s.after moves) := by
  have ordered := (ordered_of_empty empty).after moves
  refine ⟨ordered.increasing, ?_, ?_⟩
  · intro below frame above stack
    obtain ⟨done, o, later, split, installs⟩ :=
      after_origin empty (stack ▸ List.mem_append_right _ List.mem_cons_self)
    have filters : (s.after done).facility.filters? = some frame.filters := by
      rw [Facility.filters_of_list installs.list, installs.filters]
    have assignable : (s.after moves).facility.hookReadOnly = false := by
      rw [after_hookReadOnly reassigned, ← installs.assignable]
      rw [split, writes_append] at reassigned
      exact (after_hookReadOnly reassigned.1).symm
    refine ⟨done, o, later, split, installs.outcome, installs.hook, filters, fun m takes => ?_⟩
    obtain ⟨cut, restored⟩ := act_takesOff_found ordered stack takes
    refine ⟨cut, fun list => ⟨fun elsewhere => ?_, ?_, ?_⟩⟩
    · rw [(release_found (ordered.found stack).1 elsewhere).1]
      exact Frame.restore_ok frame _ list assignable
    · rw [restored, Frame.restore_hook, assignable, installs.hook]
      rfl
    · rw [restored, Frame.restore_filters frame _ list, filters]
  · intro token gone
    exact ⟨fun elsewhere => (release_gone (find_gone gone) elsewhere).1,
      fun m takes => act_takesOff_gone gone takes⟩

/-- Three guards, with the facility rewritten under the outer two, of which the middle one is
released on another thread. -/
def crossed : List Move :=
  [.push ⟨1, .buffer "b"⟩, .write { hook := some .custom, filterList := [Filter.showAll] },
    .push ⟨2, .buffer "b"⟩, .push ⟨3, .buffer "b"⟩, .release 2 true]

/-- Taking off the outer guard brings back the ambient hook, not the custom one. -/
theorem outer_guard_restores_what_it_replaced :
    ({} : Sinks).frames = [] ∧ ({} : Sinks).Writes Facility.Reassigned crossed ∧
    ∀ m : Move, m.TakesOff 1 → ((({} : Sinks).after crossed).act m).frames = [] ∧
      ((({} : Sinks).after crossed).act m).facility.hook = some .ambient := by
  have reassigned : ({} : Sinks).Writes Facility.Reassigned crossed := ⟨rfl, trivial⟩
  obtain ⟨_, held, _⟩ := guards_restore_what_they_replaced {} rfl crossed reassigned
  obtain ⟨done, _, _, _, _, hook, _, restores⟩ := held [] ⟨1, .ambient, []⟩ [] (by decide)
  refine ⟨rfl, reassigned, fun m takes => ?_⟩
  obtain ⟨emptied, restored⟩ := restores m takes
  exact ⟨emptied, (restored (by decide)).2.1.trans hook⟩

end WarningCapture.Sinks
