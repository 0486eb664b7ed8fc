import Mathlib.Logic.Relation
import WarningCapture.Proofs.Session.Guards

/-! What can happen in a session, said once. A course is a whole stretch of it: elementary changes
one after another, and captures, runs, calls of listeners and emissions with a course of their own
inside. A moment is any state on the way, inside them too. -/
namespace WarningCapture.Session

/-- The sessions differ in nothing that sinks, guards, buffers or the history depend on. -/
structure Alike (s t : Session) : Prop where
  sinks : t.sinks = s.sinks
  guards : t.guards = s.guards
  buffers : t.buffers = s.buffers
  busy : t.busy = s.busy
  history : t.history = s.history

theorem Alike.refl (s : Session) : s.Alike s := ⟨rfl, rfl, rfl, rfl, rfl⟩

/-- A flush takes the records out that it claims. -/
def takeOut (s : Session) (buffer : String) (claimed : Record → Bool) : Session :=
  (s.setBuffer buffer
      { s.buffer buffer with records := (s.buffer buffer).records.filter (!claimed ·) }).add
    (.flushed buffer ((s.buffer buffer).records.filter claimed))

/-- What the end of a test does at the moment to the records it finds. -/
def fate (s : Session) : Fate :=
  if s.policy.replayUnflushed = false then .discarded
  else if s.sinks.facility.warnExplicit = .missing then .lost else .replayed

/-- The end of a test takes all records out. -/
def sweep (s : Session) (buffer : String) : Session :=
  (s.setBuffer buffer { s.buffer buffer with records := [] }).add
    (.taken buffer (s.buffer buffer).records s.fate)

/-- An elementary change, in a session in which the given writes to the facility occur. -/
inductive Change (W : Facility → Facility → Prop) : Session → Session → Prop where
  | arrange : s.Alike t → Change W s t
  | remark (s : Session) : e.aside = true → Change W s (s.add e)
  | write (s : Session) : W s.sinks.facility f → Change W s (s.withFacility f)
  | refuse : s.pushSink o = (.error err, t) → Change W s t
  | pushGuard (s : Session) (guard : String) (o : Observer) : Change W s (s.pushGuard guard o).2
  | releaseGuard (s : Session) (guard : String) (elsewhere : Bool) :
      Change W s (s.releaseGuard guard elsewhere).2
  | dropGuard (s : Session) (guard : String) : Change W s (s.dropGuard guard).2
  | store (s : Session) (buffer : String) (r : Record) : Change W s (s.store buffer r)
  | place (s : Session) (buffer : String) (r : Record) : Change W s (s.place buffer r)
  | takeOut (s : Session) (buffer : String) (claimed : Record → Bool) :
      Change W s (s.takeOut buffer claimed)
  | discard (s : Session) (buffer : String) : s.fate ≠ .replayed → Change W s (s.sweep buffer)
  | close (s : Session) (step : String) (outcome : Outcome) : Change W s (s.close step outcome)
  /-- A buffer is written as it is. -/
  | touch (s : Session) (buffer : String) : Change W s (s.setBuffer buffer (s.buffer buffer))

/-- A course from one session to another. Records that were swept to be emitted again are owed until
they are handed over, each of them once and in order. -/
inductive Course (W : Facility → Facility → Prop) :
    Session → List (String × Record) → Session → Prop where
  | change : Change W s t → Course W s [] t
  | trans : Course W s [] t → Course W t owed u → Course W s owed u
  | capture : s.pushSink o = (.ok token, t) → Course W t [] u →
      Course W s [] (u.releaseSink token false).2
  | run {buffer : String} : Course W (s.enterRun buffer) [] t →
      Course W s [] (t.leaveRun buffer s.logger.testId)
  | call : s.isBusy o = false → Course W (s.enterListener o listener r) [] t →
      Course W s [] (t.leaveListener o)
  | sweep {buffer : String} : s.fate = .replayed →
      Course W s ((s.buffer buffer).records.map (buffer, ·)) (s.sweep buffer)
  | hand {buffer : String} : Course W s ((buffer, r) :: owed) t →
      Course W (t.add (.handed buffer r)) [] u → Course W s owed u

/-- The second session is a state on the way of some course of the first. -/
inductive Moment (W : Facility → Facility → Prop) : Session → Session → Prop where
  | now : Course W s owed u → Moment W s u
  | captured : Course W s owed t → t.pushSink o = (.ok token, t') → Moment W t' u → Moment W s u
  | running {buffer : String} : Course W s owed t → Moment W (t.enterRun buffer) u → Moment W s u
  | called : Course W s owed t → t.isBusy o = false →
      Moment W (t.enterListener o listener r) u → Moment W s u
  | handed {buffer : String} : Course W s ((buffer, r) :: owed) t →
      Moment W (t.add (.handed buffer r)) u → Moment W s u

/-- One turn of a session, without regard to what it is part of. -/
inductive Turn (W : Facility → Facility → Prop) : Session → Session → Prop where
  | change : Change W s t → Turn W s t
  | install : s.pushSink o = (.ok token, t) → Turn W s t
  | takeOff (s : Session) (token : Nat) : Turn W s (s.releaseSink token false).2
  | enterRun (s : Session) (buffer : String) : Turn W s (s.enterRun buffer)
  | leaveRun (s : Session) (buffer : String) (testId : Option String) :
      Turn W s (s.leaveRun buffer testId)
  | enterListener (s : Session) (o : Observer) (listener : String) (r : Record) :
      Turn W s (s.enterListener o listener r)
  | leaveListener (s : Session) (o : Observer) : Turn W s (s.leaveListener o)
  | sweep (s : Session) (buffer : String) : Turn W s (s.sweep buffer)
  | hand (s : Session) (buffer : String) (r : Record) : Turn W s (s.add (.handed buffer r))

variable {W : Facility → Facility → Prop} {s t u : Session} {owed : List (String × Record)}

/-- The changes that concern buffers are few. -/
theorem Change.keepsBuffers_or (changed : Change W s t) :
    s.KeepsBuffers t ∨ (∃ name r, t = s.store name r) ∨ (∃ name r, t = s.place name r) ∨
      (∃ name claimed, t = s.takeOut name claimed) ∨
      (∃ name, s.fate ≠ .replayed ∧ t = s.sweep name) ∨
      (∃ step outcome, t = s.close step outcome) ∨
      ∃ name, t = s.setBuffer name (s.buffer name) := by
  cases changed with
  | arrange alike => exact .inl (.of_remarked (.refl t) alike.history alike.buffers)
  | remark _ isAside => exact .inl (.of_remarked (s.add_remarked isAside) rfl rfl)
  | write => exact .inl (.of_remarked (.refl _) rfl rfl)
  | refuse refused => exact .inl (pushSink_keepsBuffers refused)
  | pushGuard _ guard o => exact .inl (s.pushGuard_keepsBuffers guard o)
  | releaseGuard _ guard elsewhere => exact .inl (s.releaseGuard_keepsBuffers guard elsewhere)
  | dropGuard _ guard => exact .inl (s.dropGuard_keepsBuffers guard)
  | store => exact .inr (.inl ⟨_, _, rfl⟩)
  | place => exact .inr (.inr (.inl ⟨_, _, rfl⟩))
  | takeOut => exact .inr (.inr (.inr (.inl ⟨_, _, rfl⟩)))
  | discard _ _ away => exact .inr (.inr (.inr (.inr (.inl ⟨_, away, rfl⟩))))
  | close => exact .inr (.inr (.inr (.inr (.inr (.inl ⟨_, _, rfl⟩)))))
  | touch => exact .inr (.inr (.inr (.inr (.inr (.inr ⟨_, rfl⟩)))))

theorem Change.busy (changed : Change W s t) : t.busy = s.busy := by
  cases changed with
  | arrange alike => exact alike.busy
  | remark | write | store | place | takeOut | discard | close | touch => rfl
  | refuse refused => exact (pushSink_error refused).1.busy
  | pushGuard _ guard o =>
    rcases s.pushGuard_cases guard o with ⟨remarked, _⟩ | ⟨_, _, remarked⟩
    · exact remarked.busy
    · exact remarked.busy
  | releaseGuard _ guard elsewhere =>
    rcases s.releaseGuard_cases guard elsewhere with ⟨_, same⟩ | ⟨_, _, remarked⟩
    · rw [same]
    · exact remarked.busy
  | dropGuard _ guard =>
    rcases s.dropGuard_cases guard with ⟨_, same⟩ | ⟨_, _, remarked⟩
    · rw [same]
    · exact remarked.busy

/-- Listeners that are called return before anything else happens. -/
theorem Course.busy (course : Course W s owed t) : t.busy = s.busy := by
  induction course with
  | change changed => exact changed.busy
  | trans _ _ first second => exact second.trans first
  | capture installed _ inside =>
    exact (releaseSink_busy _ _ _).trans (inside.trans (pushSink_push installed).1.busy)
  | run _ inside => exact inside
  | call _ _ inside =>
    exact (congrArg (List.erase · _) inside).trans (List.erase_cons_head _ _)
  | sweep => rfl
  | hand _ _ first second => exact second.trans first

theorem Course.turns (course : Course W s owed t) : Relation.ReflTransGen (Turn W) s t := by
  induction course with
  | change changed => exact .single (.change changed)
  | trans _ _ first second => exact first.trans second
  | capture installed _ inner =>
    exact .head (.install installed) (inner.tail (.takeOff _ _))
  | run _ inner => exact .head (.enterRun _ _) (inner.tail (.leaveRun _ _ _))
  | call _ _ inner => exact .head (.enterListener _ _ _ _) (inner.tail (.leaveListener _ _))
  | sweep => exact .single (.sweep _ _)
  | hand _ _ before inner => exact before.trans (.head (.hand _ _ _) inner)

theorem Moment.turns (now : Moment W s u) : Relation.ReflTransGen (Turn W) s u := by
  induction now with
  | now course => exact course.turns
  | captured before installed _ inner => exact before.turns.trans (.head (.install installed) inner)
  | running before _ inner => exact before.turns.trans (.head (.enterRun _ _) inner)
  | called before _ _ inner => exact before.turns.trans (.head (.enterListener _ _ _ _) inner)
  | handed before _ inner => exact before.turns.trans (.head (.hand _ _ _) inner)

namespace Course

theorem refl (s : Session) : Course W s [] s := .change (.arrange (.refl s))

theorem arrange (alike : s.Alike t) : Course W s [] t := .change (.arrange alike)

theorem of_remarked (remarked : s.Remarked t) : Course W s [] t := by
  obtain ⟨es, rfl, asides⟩ := remarked
  induction es with
  | nil => exact .refl s
  | cons e rest ih =>
    have earlier := ih fun other member => asides other (List.mem_cons_of_mem _ member)
    exact earlier.trans (.change (.remark _ (asides e List.mem_cons_self)))

end Course
end WarningCapture.Session
