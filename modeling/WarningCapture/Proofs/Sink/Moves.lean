import Mathlib.Data.List.Induction
import WarningCapture.Proofs.Sink.Operations

/-! Runs of the sinks. Guards and captures push, release and drop in any order, and between them
other code writes to the facility. Tokens increase from the bottom of the stack to its top, and
every frame on it goes back to one push of the run. -/
namespace WarningCapture.Sinks

inductive Move where
  | push (o : Observer)
  | release (token : Nat) (elsewhere : Bool)
  | drop (token : Nat)
  /-- Other code leaves the facility in the given state. -/
  | write (f : Facility)

/-- The move takes off the sink of a token. -/
def Move.TakesOff (token : Nat) : Move → Prop
  | release other _ => other = token
  | drop other => other = token
  | _ => False

theorem Move.TakesOff.unique {m : Move} {a b : Nat} (one : m.TakesOff a) (other : m.TakesOff b) :
    a = b := by
  cases m with
  | release | drop => exact Eq.trans (Eq.symm one) other
  | push | write => exact one.elim

def act (s : Sinks) : Move → Sinks
  | .push o => (s.push o).2.1
  | .release token elsewhere => (s.release token elsewhere).2.1
  | .drop token => (s.drop token).1
  | .write f => { s with facility := f }

def after (s : Sinks) (moves : List Move) : Sinks := moves.foldl act s

/-- Each write of a run is of a given kind in the state in which it happens. -/
def Writes (W : Facility → Facility → Prop) : Sinks → List Move → Prop
  | _, [] => True
  | s, .write f :: rest => W s.facility f ∧ Writes W (s.act (.write f)) rest
  | s, m :: rest => Writes W (s.act m) rest

variable {s t : Sinks} {o : Observer} {frame : Frame} {token : Nat} {m : Move}
  {moves more below above : List Move} {W : Facility → Facility → Prop}

@[simp] theorem after_nil (s : Sinks) : s.after [] = s := rfl

@[simp] theorem after_cons (s : Sinks) (m : Move) (moves : List Move) :
    s.after (m :: moves) = (s.act m).after moves := rfl

theorem after_append (s : Sinks) (moves more : List Move) :
    s.after (moves ++ more) = (s.after moves).after more := List.foldl_append

theorem writes_append :
    s.Writes W (moves ++ more) ↔ s.Writes W moves ∧ (s.after moves).Writes W more := by
  induction moves generalizing s with
  | nil => simp [Writes]
  | cons m rest ih => cases m <;> simp [Writes, ih, and_assoc]

theorem act_takesOff (takes : m.TakesOff token) (elsewhere : Bool) :
    s.act m = (s.release token elsewhere).2.1 := by
  cases m with
  | release other e =>
    cases takes
    simp only [act, ← drop_eq s token]
  | drop other =>
    cases takes
    exact drop_eq s token elsewhere
  | push | write => exact takes.elim

/-- What a move can do to the frames: a push adds one that is in its place, and nothing else adds
any. -/
theorem act_frames (s : Sinks) (m : Move) :
    (∃ o frame, m = .push o ∧ s.Installs o frame (s.act m)) ∨
      ((s.act m).frames <+: s.frames ∧ s.nextToken ≤ (s.act m).nextToken) := by
  cases m with
  | push o =>
    rcases push_cases s o with ⟨frame, installs⟩ | refuses
    · exact .inl ⟨o, frame, rfl, installs⟩
    · exact .inr ⟨by simp [act, refuses.frames], refuses.next⟩
  | release token elsewhere =>
    refine .inr ⟨?_, by simp [act]⟩
    simpa only [act, release_frames] using s.below_prefix token
  | drop token =>
    refine .inr ⟨?_, by simp [act, drop_eq s token false]⟩
    simpa only [act, drop_eq s token false, release_frames] using s.below_prefix token
  | write f => exact .inr ⟨List.prefix_rfl, Nat.le_refl _⟩

theorem after_next (s : Sinks) (moves : List Move) : s.nextToken ≤ (s.after moves).nextToken := by
  induction moves generalizing s with
  | nil => exact Nat.le_refl _
  | cons m rest ih =>
    have more : s.nextToken ≤ (s.act m).nextToken := by
      rcases act_frames s m with ⟨o, frame, rfl, installs⟩ | ⟨_, next⟩
      · rw [installs.next]
        exact Nat.le_succ _
      · exact next
    exact more.trans (ih _)

/-- The tokens on the stack increase from the bottom up, and the next one is above them all. -/
structure Ordered (s : Sinks) : Prop where
  increasing : s.frames.Pairwise fun a b => a.token < b.token
  handedOut : ∀ frame ∈ s.frames, frame.token < s.nextToken

theorem ordered_of_empty (empty : s.frames = []) : s.Ordered := by
  constructor <;> simp [empty]

theorem Ordered.act (ordered : s.Ordered) (m : Move) : (s.act m).Ordered := by
  rcases act_frames s m with ⟨o, frame, rfl, installs⟩ | ⟨shorter, next⟩
  · constructor
    · rw [installs.frames, List.pairwise_append]
      refine ⟨ordered.increasing, List.pairwise_singleton _ _, ?_⟩
      intro older member newer isLast
      rw [List.mem_singleton.mp isLast, installs.token]
      exact ordered.handedOut older member
    · intro other member
      rw [installs.frames, List.mem_append, List.mem_singleton] at member
      rw [installs.next]
      rcases member with older | rfl
      · exact Nat.lt_succ_of_lt (ordered.handedOut other older)
      · rw [installs.token]
        exact Nat.lt_succ_self _
  · exact ⟨ordered.increasing.sublist shorter.sublist, fun frame member =>
      (ordered.handedOut frame (shorter.subset member)).trans_le next⟩

theorem Ordered.after (ordered : s.Ordered) (moves : List Move) : (s.after moves).Ordered := by
  induction moves generalizing s with
  | nil => exact ordered
  | cons m rest ih => exact ih (ordered.act m)

theorem Ordered.found {below above : List Frame} (ordered : s.Ordered)
    (stack : s.frames = below ++ frame :: above) :
    s.find? frame.token = some frame ∧ s.below frame.token = below := by
  have older : ∀ other ∈ below, other.token ≠ frame.token := by
    intro other member
    have increasing := ordered.increasing
    rw [stack, List.pairwise_append] at increasing
    exact Nat.ne_of_lt (increasing.2.2 other member frame List.mem_cons_self)
  constructor
  · have skipped : below.find? (·.token == frame.token) = none :=
      List.find?_eq_none.mpr fun other member => by simpa using older other member
    simp [find?, stack, List.find?_append, skipped]
  · have passed : ∀ other ∈ below, (other.token != frame.token) = true :=
      fun other member => by simpa using older other member
    simp [Sinks.below, stack, List.takeWhile_append_of_pos passed]

/-- Every frame that a run leaves on the stack was put there by one of its pushes. -/
theorem after_origin (empty : s.frames = []) (member : frame ∈ (s.after moves).frames) :
    ∃ done o later, moves = done ++ .push o :: later ∧
      (s.after done).Installs o frame ((s.after done).act (.push o)) := by
  induction moves using List.reverseRecOn with
  | nil => simp [empty] at member
  | append_singleton moves m ih =>
    rw [after_append, after_cons, after_nil] at member
    have source : frame ∈ (s.after moves).frames ∨
        ∃ o, m = .push o ∧ (s.after moves).Installs o frame ((s.after moves).act m) := by
      rcases act_frames (s.after moves) m with ⟨o, last, rfl, installs⟩ | ⟨shorter, _⟩
      · rw [installs.frames, List.mem_append, List.mem_singleton] at member
        rcases member with present | rfl
        · exact .inl present
        · exact .inr ⟨o, rfl, installs⟩
      · exact .inl (shorter.subset member)
    rcases source with present | ⟨o, rfl, installs⟩
    · obtain ⟨done, o, later, rfl, installs⟩ := ih present
      exact ⟨done, o, later ++ [m], by simp, installs⟩
    · exact ⟨moves, o, [], rfl, installs⟩

/-- Only other code changes what the name of the filters leads to, or whether the hook can be
assigned. -/
theorem act_kept (unwritten : ∀ f, m ≠ .write f) :
    (s.act m).facility.binding = s.facility.binding ∧
      (s.act m).facility.hookReadOnly = s.facility.hookReadOnly := by
  have released : ∀ token elsewhere,
      (s.release token elsewhere).2.1.facility.binding = s.facility.binding ∧
        (s.release token elsewhere).2.1.facility.hookReadOnly = s.facility.hookReadOnly := by
    intro token elsewhere
    cases found : s.find? token with
    | none => rw [(release_gone found elsewhere).2]; exact ⟨rfl, rfl⟩
    | some frame => rw [(release_found found elsewhere).2]; simp
  cases m with
  | push o =>
    rcases push_cases s o with ⟨frame, installs⟩ | refuses
    · exact ⟨installs.binding.trans installs.list.symm,
        installs.hookReadOnly.trans installs.assignable.symm⟩
    · exact ⟨refuses.facility.binding, refuses.facility.hookReadOnly⟩
  | release token elsewhere => exact released token elsewhere
  | drop token => simpa only [act, drop_eq s token false] using released token false
  | write f => exact absurd rfl (unwritten f)

theorem after_hookReadOnly (writes : s.Writes Facility.Reassigned moves) :
    (s.after moves).facility.hookReadOnly = s.facility.hookReadOnly := by
  induction moves generalizing s with
  | nil => rfl
  | cons m rest ih =>
    cases m with
    | write f => exact (ih writes.2).trans writes.1
    | push | release | drop => exact (ih writes).trans (act_kept (by simp)).2

end WarningCapture.Sinks
