import WarningCapture.Proofs.Session.Layering
import WarningCapture.Proofs.Sink.Unwinding

/-! Captures restore what they found. What happens inside a capture never reaches the sinks below
its own, unless it gives up a guard from outside: sinks installed inside have later tokens, and
taking one of them off cuts the stack above. -/
namespace WarningCapture

namespace Sinks
variable {s t : Sinks} {outer : List Frame} {n token : Nat}

/-- Sinks, hook and filters are what they were. -/
structure Restored (s t : Sinks) : Prop where
  frames : t.frames = s.frames
  hook : t.facility.hook = s.facility.hook
  filters : t.facility.filters? = s.facility.filters?

/-- Taking off a later sink keeps the frames of earlier ones at the bottom. -/
theorem prefix_below (lower : outer <+: s.frames) (earlier : ∀ frame ∈ outer, frame.token < n)
    (later : n ≤ token) : outer <+: s.below token := by
  obtain ⟨inner, stack⟩ := lower
  have passed : ∀ frame ∈ outer, (frame.token != token) = true := by
    intro frame member
    have before := earlier frame member
    simp only [bne_iff_ne]
    omega
  rw [below, ← stack, List.takeWhile_append_of_pos passed]
  exact List.prefix_append _ _

/-- Taking off a sink that has everything above it that it ever had restores what its push found. -/
theorem Installs.restored {o : Observer} {frame : Frame} {above : List Frame} {u : Sinks}
    (installs : s.Installs o frame t) (ordered : u.Ordered)
    (stack : u.frames = s.frames ++ frame :: above) (list : u.facility.binding = .list)
    (assignable : u.facility.hookReadOnly = false) :
    s.Restored (u.act (.release frame.token false)) := by
  obtain ⟨cut, facility⟩ := act_takesOff_found ordered stack
    (show (Move.release frame.token false).TakesOff frame.token from rfl)
  refine ⟨cut, ?_, ?_⟩
  · rw [facility, Frame.restore_hook, assignable, installs.hook]
    rfl
  · rw [facility, Frame.restore_filters frame _ list, Facility.filters_of_list installs.list,
      installs.filters]

theorem after_gone (handedOut : token < s.nextToken)
    (gone : ∀ frame ∈ s.frames, frame.token ≠ token) (moves : List Move) :
    ∀ frame ∈ (s.after moves).frames, frame.token ≠ token := by
  induction moves generalizing s with
  | nil => exact gone
  | cons m rest ih =>
    rcases act_frames s m with ⟨o, last, rfl, installs⟩ | ⟨shorter, next⟩
    · refine ih (by rw [installs.next]; omega) fun frame member => ?_
      rw [installs.frames, List.mem_append, List.mem_singleton] at member
      rcases member with older | rfl
      · exact gone frame older
      · rw [installs.token]
        omega
    · exact ih (by omega) fun frame member => gone frame (shorter.subset member)

end Sinks

namespace Session
variable {W : Facility → Facility → Prop} {s t u : Session} {owed : List (String × Record)}
  {n : Nat}

/-- Guards that hold one of the first sinks still do. -/
def HoldsStill (n : Nat) (s t : Session) : Prop :=
  ∀ guard token, token < n → s.liveGuard? guard = some token → t.liveGuard? guard = some token

/-- The first sinks are spared: no guard comes to hold one of them, and as long as no guard gives
one up, those that are at the bottom of the stack stay there. -/
structure Spares (n : Nat) (s t : Session) : Prop where
  held : HoldsStill n t s
  frames : HoldsStill n s t → ∀ outer : List Frame, (∀ frame ∈ outer, frame.token < n) →
    outer <+: s.sinks.frames → outer <+: t.sinks.frames

namespace Spares

theorem of_longer (guards : t.guards = s.guards) (longer : s.sinks.frames <+: t.sinks.frames) :
    Spares n s t where
  held guard _ _ holds := (liveGuard?_congr guards guard).symm.trans holds
  frames _ _ _ lower := lower.trans longer

theorem of_same (guards : t.guards = s.guards) (same : t.sinks.frames = s.sinks.frames) :
    Spares n s t :=
  of_longer guards (same ▸ List.prefix_rfl)

theorem of_below {token : Nat} (later : n ≤ token) (guards : t.guards = s.guards)
    (cut : t.sinks.frames = s.sinks.below token) : Spares n s t where
  held guard _ _ holds := (liveGuard?_congr guards guard).symm.trans holds
  frames _ _ earlier lower := cut ▸ Sinks.prefix_below lower earlier later

theorem trans (first : Spares n s t) (second : Spares n t u) : Spares n s u where
  held guard token earlier holds := first.held guard token earlier
    (second.held guard token earlier holds)
  frames := by
    intro still outer earlier lower
    have now : HoldsStill n s t := fun guard token before holds =>
      second.held guard token before (still guard token before holds)
    have later : HoldsStill n t u := fun guard token before holds =>
      still guard token before (first.held guard token before holds)
    exact second.frames later outer earlier (first.frames now outer earlier lower)

theorem around {first last : Session} (inside : Spares n first last)
    (guards : first.guards = s.guards) (frames : first.sinks.frames = s.sinks.frames)
    (kept : t.guards = last.guards) (same : t.sinks.frames = last.sinks.frames) : Spares n s t :=
  ((of_same guards frames).trans inside).trans (of_same kept same)

end Spares

theorem Moves.next (moves : Moves W s t) : s.sinks.nextToken ≤ t.sinks.nextToken := by
  obtain ⟨moves, _, same⟩ := moves
  rw [same]
  exact s.sinks.after_next moves

theorem Course.moves (course : Course W s owed t) : Moves W s t := (Moment.now course).moves

theorem pushGuard_spares (s : Session) (guard : String) (o : Observer)
    (handedOut : n ≤ s.sinks.nextToken) : Spares n s (s.pushGuard guard o).2 := by
  rcases s.pushGuard_cases guard o with ⟨remarked, refuses⟩ | ⟨frame, installs, remarked⟩
  · exact .of_same remarked.guards (by rw [remarked.sinks]; exact refuses.frames)
  · have fresh : n ≤ frame.token := installs.token ▸ handedOut
    have live : ∀ other, (s.pushGuard guard o).2.liveGuard? other =
        if other = guard then some frame.token else s.liveGuard? other := by
      intro other
      rw [liveGuard?_congr remarked.guards, liveGuard?_setGuard]
      rfl
    constructor
    · intro other token earlier holds
      rw [live] at holds
      split at holds
      · cases holds
        omega
      · exact holds
    · intro still outer earlier lower
      have pushed : outer <+: (s.sinks.act (.push o)).frames := by
        rw [installs.frames]
        exact lower.trans (List.prefix_append _ _)
      rw [remarked.sinks]
      cases held : s.liveGuard? guard with
      | none => exact pushed
      | some old =>
        have later : n ≤ old := by
          by_contra before
          have kept := still guard old (by omega) held
          rw [live, if_pos rfl] at kept
          cases kept
          omega
        have kept := Sinks.prefix_below pushed earlier later
        rw [← Sinks.release_frames _ old false, ← Sinks.drop_eq] at kept
        exact kept

theorem giveUp_spares {guard : String} {token : Nat} {m : Sinks.Move}
    (held : s.liveGuard? guard = some token)
    (remarked : ((s.moved [m]).setGuard guard none).Remarked t) (takes : m.TakesOff token) :
    Spares n s t := by
  have live : ∀ other, t.liveGuard? other =
      if other = guard then none else s.liveGuard? other := by
    intro other
    rw [liveGuard?_congr remarked.guards, liveGuard?_setGuard]
    rfl
  have cut : t.sinks.frames = s.sinks.below token := by
    rw [remarked.sinks, ← Sinks.release_frames _ token false, ← Sinks.act_takesOff takes]
    rfl
  constructor
  · intro other _ _ holds
    rw [live] at holds
    split at holds
    · cases holds
    · exact holds
  · intro still outer earlier lower
    have later : n ≤ token := by
      by_contra before
      have kept := still guard token (by omega) held
      rw [live, if_pos rfl] at kept
      cases kept
    exact cut ▸ Sinks.prefix_below lower earlier later

theorem Change.spares (changed : Change W s t) (handedOut : n ≤ s.sinks.nextToken) :
    Spares n s t := by
  cases changed with
  | arrange alike => exact .of_same alike.guards (by rw [alike.sinks])
  | remark | write | store | place | takeOut | discard | close | touch =>
    exact .of_same rfl rfl
  | refuse refused =>
    obtain ⟨remarked, refuses⟩ := pushSink_error refused
    exact .of_same remarked.guards (by rw [remarked.sinks]; exact refuses.frames)
  | pushGuard _ guard o => exact s.pushGuard_spares guard o handedOut
  | releaseGuard _ guard elsewhere =>
    rcases s.releaseGuard_cases guard elsewhere with ⟨_, same⟩ | ⟨token, held, remarked⟩
    · rw [same]
      exact .of_same rfl rfl
    · exact giveUp_spares held remarked rfl
  | dropGuard _ guard =>
    rcases s.dropGuard_cases guard with ⟨_, same⟩ | ⟨token, held, remarked⟩
    · rw [same]
      exact .of_same rfl rfl
    · exact giveUp_spares held remarked rfl

theorem around_spares {token : Nat} {o : Observer} (installed : s.pushSink o = (.ok token, t))
    (handedOut : n ≤ s.sinks.nextToken) (inside : Spares n t u) :
    Spares n s (u.releaseSink token false).2 := by
  obtain ⟨remarked, frame, rfl, installs⟩ := pushSink_ok installed
  have before : Spares n s t := by
    refine .of_longer remarked.guards ?_
    rw [remarked.sinks]
    exact installs.frames ▸ List.prefix_append _ _
  have after : Spares n u (u.releaseSink frame.token false).2 := by
    refine .of_below (installs.token ▸ handedOut) (releaseSink_guards _ _ _) ?_
    rw [releaseSink_sinks, Sinks.release_frames]
  exact (before.trans inside).trans after

theorem Course.spares (course : Course W s owed t) (handedOut : n ≤ s.sinks.nextToken) :
    Spares n s t := by
  induction course with
  | change changed => exact changed.spares handedOut
  | trans first _ earlier later =>
    exact (earlier handedOut).trans (later (handedOut.trans first.moves.next))
  | capture installed _ inside =>
    have more := (Turn.install (W := W) installed).moves.next
    exact around_spares installed handedOut (inside (handedOut.trans more))
  | run _ inside => exact (inside handedOut).around rfl rfl rfl rfl
  | call _ _ inside => exact (inside handedOut).around rfl rfl rfl rfl
  | sweep => exact .of_same rfl rfl
  | hand first _ earlier later =>
    have handed := later (handedOut.trans first.moves.next)
    exact (earlier handedOut).trans (handed.around rfl rfl rfl rfl)

/-- What happens under a sink keeps it, and those below it, where they are. -/
theorem Course.keeps_below {o : Observer} {token : Nat} (installed : s.pushSink o = (.ok token, t))
    (ordered : s.sinks.Ordered) (inside : Course W t [] u) (still : ∀ n, HoldsStill n s u) :
    ∃ frame above, frame.token = token ∧ s.sinks.Installs o frame (s.sinks.act (.push o)) ∧
      u.sinks.frames = s.sinks.frames ++ frame :: above := by
  obtain ⟨remarked, frame, rfl, installs⟩ := pushSink_ok installed
  have pushed : t.sinks = s.sinks.act (.push o) := remarked.sinks
  have handedOut : frame.token + 1 ≤ t.sinks.nextToken := by
    rw [pushed, installs.next, installs.token]
  have held : HoldsStill (frame.token + 1) t u := by
    intro guard token earlier holds
    rw [liveGuard?_congr remarked.guards] at holds
    exact still _ guard token earlier holds
  -- The frames that must stay are the ones with tokens up to that of the new sink.
  have earlier : ∀ other ∈ s.sinks.frames ++ [frame], other.token < frame.token + 1 := by
    intro other member
    rcases List.mem_append.mp member with older | last
    · have before := ordered.handedOut other older
      rw [installs.token]
      omega
    · rw [List.mem_singleton.mp last]
      exact Nat.lt_succ_self _
  have added : t.sinks.frames = s.sinks.frames ++ [frame] := by rw [pushed, installs.frames]
  obtain ⟨above, stack⟩ := (inside.spares handedOut).frames held _ earlier
    (added ▸ List.prefix_rfl)
  exact ⟨frame, above, rfl, installs, by rw [← stack, List.append_assoc]; rfl⟩

theorem Moves.ordered (moves : Moves W s t) (ordered : s.sinks.Ordered) : t.sinks.Ordered := by
  obtain ⟨moves, _, same⟩ := moves
  rw [same]
  exact ordered.after moves

/-- A capture restores what it found if no guard from outside was given up inside it, and if it
leaves the filters a list and the hook assignable. Taking its sink off changes none of the three. -/
theorem capture_restores {f : Callee} (follows : f.Follows W) (ordered : s.sinks.Ordered)
    (collector : Collector) (arguments : Arguments)
    (still : ∀ n, HoldsStill n s (s.capture collector f arguments).2)
    (list : (s.capture collector f arguments).2.sinks.facility.binding = .list)
    (assignable : (s.capture collector f arguments).2.sinks.facility.hookReadOnly = false) :
    s.sinks.Restored (s.capture collector f arguments).2.sinks := by
  obtain ⟨begun, o, begins, ⟨err, t, refused, ends⟩ | ⟨token, t, installed, ends⟩⟩ :=
    s.capture_cases collector f arguments
  · obtain ⟨remarked, refuses⟩ := pushSink_error refused
    rw [ends.sinks, remarked.sinks, ← begins.sinks]
    exact ⟨refuses.frames, refuses.facility.hook, refuses.facility.filters⟩
  · have inside := follows arguments t
    generalize (f arguments t).2 = u at inside ends
    have sinks : (s.capture collector f arguments).2.sinks = u.sinks.act (.release token false) :=
      ends.sinks.trans (releaseSink_sinks u token false)
    have guards : (s.capture collector f arguments).2.guards = u.guards :=
      ends.guards.trans (releaseSink_guards u token false)
    have still : ∀ n, HoldsStill n begun u := by
      intro n guard token earlier holds
      rw [liveGuard?_congr begins.guards] at holds
      rw [← liveGuard?_congr guards]
      exact still n guard token earlier holds
    -- What is assumed of the end of the capture holds before its sink is taken off.
    have unwritten : ∀ f, Sinks.Move.release token false ≠ .write f := by simp
    rw [sinks, (Sinks.act_kept unwritten).1] at list
    rw [sinks, (Sinks.act_kept unwritten).2] at assignable
    rw [← begins.sinks] at ordered ⊢
    obtain ⟨frame, above, rfl, installs, stack⟩ := inside.keeps_below installed ordered still
    have later : u.sinks.Ordered :=
      inside.moves.ordered ((Turn.install (W := W) installed).moves.ordered ordered)
    rw [sinks]
    exact installs.restored later stack list assignable

end Session

def Step.IsCapture : Step → Prop
  | .run .. | .collect .. => True
  | _ => False

namespace Session
variable {W : Facility → Facility → Prop} {s t v : Session} {scene : Scene} {react : Reaction}
  {step : Step} {token : Nat}

theorem perform_restores (follows : react.Follows Facility.Anything) (ordered : s.sinks.Ordered)
    (capture : step.IsCapture) (still : ∀ n, HoldsStill n s (step.perform scene react s).2)
    (list : (step.perform scene react s).2.sinks.facility.binding = .list)
    (assignable : (step.perform scene react s).2.sinks.facility.hookReadOnly = false) :
    s.sinks.Restored (step.perform scene react s).2.sinks := by
  cases step with
  | run buffer arguments body ending =>
    simp only [Step.perform, of_fst_snd] at still list assignable ⊢
    exact capture_restores (s := s.enterRun buffer) (body_follows (body_course follows body) ending)
      ordered (.buffer buffer) arguments still list assignable
  | collect listener arguments body ending =>
    by_cases callable : (scene.listener listener).callable = true
    · simp only [Step.perform, of_fst_snd, collect, if_pos callable] at still list assignable ⊢
      exact capture_restores (body_follows (body_course follows body) ending) ordered
        (.listener listener) arguments still list assignable
    · simp only [Step.perform, of_fst_snd, collect, if_neg callable]
      exact ⟨rfl, rfl, rfl⟩
  | _ => exact capture.elim

theorem left_behind_gone (ordered : s.sinks.Ordered) (same : t.sinks.frames = s.sinks.frames)
    (later : Moves W t v) (after : s.sinks.nextToken ≤ token)
    (before : token < t.sinks.nextToken) : ∀ frame ∈ v.sinks.frames, frame.token ≠ token := by
  obtain ⟨moves, _, run⟩ := later
  rw [run]
  refine Sinks.after_gone before (fun frame member => ?_) moves
  rw [same] at member
  have earlier := ordered.handedOut frame member
  omega

theorem releaseGuard_gone {guard : String} (held : v.liveGuard? guard = some token)
    (gone : ∀ frame ∈ v.sinks.frames, frame.token ≠ token) (elsewhere : Bool) :
    (v.releaseGuard guard elsewhere).1 = .ok true ∧
      (v.releaseGuard guard elsewhere).2.sinks = v.sinks := by
  obtain ⟨ok, same⟩ := Sinks.release_gone (Sinks.find_gone gone) elsewhere
  have outcome : ((v.setGuard guard none).releaseSink token elsewhere).1 = .ok () := ok
  have sinks : ((v.setGuard guard none).releaseSink token elsewhere).2.sinks = v.sinks :=
    (releaseSink_sinks _ _ _).trans same
  unfold releaseGuard
  rw [held]
  cases released : (v.setGuard guard none).releaseSink token elsewhere with
  | mk result u =>
    rw [released] at outcome sinks
    simp only at outcome
    subst outcome
    simp only [released]
    exact ⟨trivial, sinks⟩

/-- In every state that a session reaches, a capture of steps of any kind, nested in any way and
however it ends, leaves the hook, the filters and the stack of sinks as it found them, if no guard
of a sink from before is given up meanwhile, and if the filters are a list and the hook can be
assigned when the steps are done. What guards left inside held is gone for good, and to release them
later changes nothing. -/
theorem captures_restore_what_they_found (scene : Scene) (depth : Nat) (start s t : Session)
    (empty : start.sinks.frames = []) (now : Moment Facility.Anything start s) (step : Step)
    (capture : step.IsCapture)
    (performed : (step.perform scene (scene.reaction depth) s).2 = t)
    (still : ∀ guard token, s.liveGuard? guard = some token → t.liveGuard? guard = some token)
    (list : t.sinks.facility.binding = .list)
    (assignable : t.sinks.facility.hookReadOnly = false) :
    t.sinks.facility.hook = s.sinks.facility.hook ∧
    t.sinks.facility.filters? = s.sinks.facility.filters? ∧
    t.sinks.frames = s.sinks.frames ∧ t.sinks.depth = s.sinks.depth ∧
    ∀ v, Moment Facility.Anything t v → ∀ token, s.sinks.nextToken ≤ token →
      token < t.sinks.nextToken →
        (∀ m : Sinks.Move, m.TakesOff token → v.sinks.act m = v.sinks) ∧
        ∀ guard, v.liveGuard? guard = some token → ∀ elsewhere,
          (v.releaseGuard guard elsewhere).1 = .ok true ∧
            (v.releaseGuard guard elsewhere).2.sinks = v.sinks := by
  subst performed
  have follows : (scene.reaction depth).Follows Facility.Anything :=
    reaction_follows remembers_anything
      (fun _ => allThroughout_of_forall Step.writesWithin_anything _) depth
  have ordered := now.moves.ordered (Sinks.ordered_of_empty empty)
  obtain ⟨frames, hook, filters⟩ := perform_restores follows ordered capture
    (fun _ guard token _ holds => still guard token holds) list assignable
  refine ⟨hook, filters, frames, congrArg List.length frames, ?_⟩
  intro v later token after before
  have gone := left_behind_gone ordered frames later.moves after before
  exact ⟨fun m takes => Sinks.act_takesOff_gone gone takes,
    fun guard held elsewhere => releaseGuard_gone held gone elsewhere⟩

/-- A run that replaces the hook and the filters, captures in turn, and leaves a guard behind. -/
def untidy : Step :=
  .run "buffer" {} [.replaceHook, .setFilters [⟨.ignore, .warning⟩], .observeInto "inner" "other",
    .collect "listener" {} [.push "left" "inner", .damage (.facility .missingHook)] .echoes,
    .push "left" "inner", .warn "message" .warning "file.py" 1] (.raises (.raised "ValueError" ""))

def tidied : Session := (untidy.perform {} (({} : Scene).reaction 1) bare).2

/-- An untidy run that raises restores the ambient hook and no filters. -/
theorem untidy_run_restores :
    bare.sinks.frames = [] ∧ Moment Facility.Anything bare bare ∧ untidy.IsCapture ∧
    (untidy.perform {} (({} : Scene).reaction 1) bare).2 = tidied ∧
    (∀ guard token, bare.liveGuard? guard = some token →
      tidied.liveGuard? guard = some token) ∧
    tidied.sinks.facility.binding = .list ∧ tidied.sinks.facility.hookReadOnly = false ∧
    tidied.sinks.facility.hook = some .ambient ∧ tidied.sinks.frames = [] ∧
    tidied.liveGuard? "left" = some 4 ∧
    (tidied.releaseGuard "left" false).2.sinks = tidied.sinks := by
  have empty : bare.sinks.frames = [] := by decide +kernel
  have ambient : bare.sinks.facility.hook = some .ambient := by decide +kernel
  have now : Moment Facility.Anything bare bare := .now (.refl bare)
  have still : ∀ guard token, bare.liveGuard? guard = some token →
      tidied.liveGuard? guard = some token := by
    intro guard token held
    cases held
  have list : tidied.sinks.facility.binding = .list := by decide +kernel
  have assignable : tidied.sinks.facility.hookReadOnly = false := by decide +kernel
  have left : tidied.liveGuard? "left" = some 4 := by decide +kernel
  obtain ⟨hook, _, frames, _, later⟩ := captures_restore_what_they_found {} 1 bare bare tidied empty
    now untidy trivial rfl still list assignable
  obtain ⟨_, gone⟩ := later tidied (.now (.refl _)) 4 (by decide +kernel) (by decide +kernel)
  exact ⟨empty, now, trivial, rfl, still, list, assignable, hook.trans ambient,
    frames.trans empty, left, (gone "left" left false).2⟩

/-- The session after a run that makes the hook read-only. -/
def stuck : Session :=
  ((Step.run "buffer" {} [.damage (.facility .readOnlyHook)] .echoes).perform {}
    (({} : Scene).reaction 0) bare).2

/-- A run that makes the hook read-only gives up no guard and leaves the filters a list, and its
observer stays in place of the hook. -/
theorem read_only_hook_stays :
    bare.sinks.frames = [] ∧ Moment Facility.Anything bare bare ∧
    (∀ guard token, bare.liveGuard? guard = some token →
      stuck.liveGuard? guard = some token) ∧
    stuck.sinks.facility.binding = .list ∧
    stuck.sinks.facility.hook = some (.observer ⟨1, .buffer "buffer"⟩) ∧
    stuck.sinks.facility.hook ≠ bare.sinks.facility.hook := by
  refine ⟨by decide +kernel, .now (.refl bare), ?_, by decide +kernel, by decide +kernel,
    by decide +kernel⟩
  intro guard token held
  cases held

end Session
end WarningCapture
