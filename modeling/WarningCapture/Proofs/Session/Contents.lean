import WarningCapture.Proofs.Session.Booking
import WarningCapture.Proofs.Session.Silencing

/-! What buffers hold can be read off the history: every event says what it puts into a buffer or
takes out of it. What is written to the log says nothing about this. -/
namespace WarningCapture

namespace Event

/-- What a buffer holds after events, the latest first, if it held the given records before. -/
def held (buffer : String) (before : List Record) : List Event → List Record
  | [] => before
  | e :: earlier =>
      (held buffer before earlier).filter (· ∉ e.takes buffer) ++ (e.puts? buffer).toList

variable {buffer : String} {before : List Record}

theorem held_append (later earlier : List Event) :
    held buffer before (later ++ earlier) = held buffer (held buffer before earlier) later := by
  induction later with
  | nil => rfl
  | cons e rest ih => simp only [List.cons_append, held, ih]

theorem held_cons_of_not_touches {e : Event} (apart : ¬ e.Touches buffer) (earlier : List Event) :
    held buffer before (e :: earlier) = held buffer before earlier := by
  simp [held, puts_of_not_touches apart, takes_of_not_touches apart]

theorem held_of_not_touches {later : List Event} (apart : ∀ e ∈ later, ¬ e.Touches buffer) :
    held buffer before later = before := by
  induction later with
  | nil => rfl
  | cons e rest ih =>
    rw [held_cons_of_not_touches (apart e List.mem_cons_self)]
    exact ih fun other member => apart other (List.mem_cons_of_mem e member)

/-- Without what is written to the log, the events say the same about buffers. -/
theorem held_unlogged (events : List Event) :
    held buffer before (events.filterMap (unlogged? false)) = held buffer before events := by
  induction events with
  | nil => rfl
  | cons e rest ih =>
    cases e with
    | wrote line outlet =>
      have apart : ¬ (wrote line outlet).Touches buffer := not_false
      rw [held_cons_of_not_touches apart]
      exact ih
    | uttered showing =>
      have apart : ¬ (uttered showing).Touches buffer := not_false
      rw [held_cons_of_not_touches apart]
      exact ih
    | finished entry =>
      have apart : ∀ shown, ¬ (finished shown).Touches buffer := fun _ => not_false
      simp only [List.filterMap_cons, unlogged?]
      rw [held_cons_of_not_touches (apart _), held_cons_of_not_touches (apart _), ih]
    | _ => simp only [List.filterMap_cons, unlogged?, held, ih]

end Event

namespace Session
variable {W : Facility → Facility → Prop} {s t u v : Session} {buffer : String}

theorem Booked.held (booked : Booked buffer s t) :
    ∃ later, t.history = later ++ s.history ∧
      t.pendingIn buffer = Event.held buffer (s.pendingIn buffer) later := by
  cases booked with
  | apart later history apart same =>
    exact ⟨later, history, by rw [same, Event.held_of_not_touches apart]⟩
  | put e r history _ puts takes same =>
    refine ⟨[e], history, ?_⟩
    have kept : (s.pendingIn buffer).filter (· ∉ ([] : List Record)) = s.pendingIn buffer :=
      List.filter_eq_self.mpr (by simp)
    simp only [same, Event.held, puts, takes, kept, Option.toList_some]
  | take e claimed history _ puts takes same =>
    refine ⟨[e], history, ?_⟩
    have left : ∀ r ∈ s.pendingIn buffer,
        (!claimed r) = decide (r ∉ (s.pendingIn buffer).filter claimed) := by
      intro r pending
      simp [pending]
    simp only [same, Event.held, puts, takes, Option.toList_none, List.append_nil]
    exact List.filter_congr left

theorem held_of_turns (turns : Relation.ReflTransGen (Turn W) s t) (buffer : String) :
    ∃ later, t.history = later ++ s.history ∧
      t.pendingIn buffer = Event.held buffer (s.pendingIn buffer) later := by
  induction turns with
  | refl => exact ⟨[], rfl, rfl⟩
  | tail _ turn ih =>
    obtain ⟨es, told, holds⟩ := ih
    obtain ⟨fs, toldNext, holdsNext⟩ := (turn.booked buffer).held
    refine ⟨fs ++ es, by rw [toldNext, told, List.append_assoc], ?_⟩
    rw [holdsNext, holds, Event.held_append]

/-- At every moment of a session a buffer holds what the history says. -/
theorem Moment.held (now : Moment W s u) (new : s.history = []) (buffer : String) :
    u.pendingIn buffer = Event.held buffer (s.pendingIn buffer) u.history := by
  obtain ⟨later, told, holds⟩ := held_of_turns now.turns buffer
  rw [new, List.append_nil] at told
  rw [told, holds]

/-- Sessions that are the same but for the log hold the same at moments at which, but for the log,
the same has happened in them. -/
theorem SameButLog.held (alike : s.SameButLog t) (new : s.history = []) (new' : t.history = [])
    (now : Moment W s u) (now' : Moment W t v)
    (past : u.history.filterMap (Event.unlogged? false) =
      v.history.filterMap (Event.unlogged? false))
    (buffer : String) : u.pendingIn buffer = v.pendingIn buffer := by
  have before : s.pendingIn buffer = t.pendingIn buffer :=
    alike.read (fun x => x.pendingIn buffer) fun _ => rfl
  rw [now.held new, now'.held new', before, ← Event.held_unlogged u.history, past,
    Event.held_unlogged]

end Session
end WarningCapture
