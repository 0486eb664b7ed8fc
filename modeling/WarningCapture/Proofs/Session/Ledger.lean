import Mathlib.Data.List.Induction
import WarningCapture.Session.Event

/-! Ledgers of buffers. A ledger lists the records ever put into a buffer, each occurrence with its
place: it is pending, or the event of some number took it. -/
namespace WarningCapture

namespace Event

/-- The record that the event puts into the buffer. -/
def puts? (buffer : String) : Event → Option Record
  | stored other r | placed other r => if other = buffer then some r else none
  | _ => none

/-- The records that the event takes out of the buffer. -/
def takes (buffer : String) : Event → List Record
  | flushed other records | taken other records _ => if other = buffer then records else []
  | _ => []

/-- The event puts something into the buffer or takes something out of it. -/
def Touches (buffer : String) : Event → Prop
  | stored other _ | placed other _ | flushed other _ | taken other _ _ => other = buffer
  | _ => False

theorem puts_of_not_touches {buffer : String} {e : Event} (apart : ¬ e.Touches buffer) :
    e.puts? buffer = none := by
  cases e with
  | stored | placed => simpa [puts?, Touches] using apart
  | _ => rfl

theorem takes_of_not_touches {buffer : String} {e : Event} (apart : ¬ e.Touches buffer) :
    e.takes buffer = [] := by
  cases e with
  | flushed | taken => exact if_neg apart
  | _ => rfl

end Event

/-- Occurrences of records in the order in which they came, each pending or with the number of the
event that took it. -/
abbrev Ledger := List (Record × Option Nat)

namespace Ledger

/-- The records in a place, in order. -/
def inPlace (place : Option Nat) (ledger : Ledger) : List Record :=
  (ledger.filter fun entry => entry.2 = place).map (·.1)

/-- The pending records that are claimed go to the event of a number. -/
def move (number : Nat) (claimed : Record → Bool) (ledger : Ledger) : Ledger :=
  ledger.map fun entry =>
    if entry.2 = none ∧ claimed entry.1 then (entry.1, some number) else entry

variable {ledger : Ledger} {number : Nat} {claimed : Record → Bool}

@[simp] theorem inPlace_nil (place : Option Nat) : inPlace place [] = [] := rfl

theorem inPlace_cons (place : Option Nat) (entry : Record × Option Nat) (ledger : Ledger) :
    inPlace place (entry :: ledger) =
      if entry.2 = place then entry.1 :: inPlace place ledger else inPlace place ledger := by
  by_cases here : entry.2 = place <;> simp [inPlace, here]

theorem inPlace_append (place : Option Nat) (ledger more : Ledger) :
    inPlace place (ledger ++ more) = inPlace place ledger ++ inPlace place more := by
  simp [inPlace]

theorem move_records : (move number claimed ledger).map (·.1) = ledger.map (·.1) := by
  rw [move, List.map_map]
  refine List.map_congr_left fun entry _ => ?_
  simp only [Function.comp_apply]
  split <;> rfl

theorem move_cons (entry : Record × Option Nat) (ledger : Ledger) :
    move number claimed (entry :: ledger) =
      (if entry.2 = none ∧ claimed entry.1 then (entry.1, some number) else entry) ::
        move number claimed ledger := rfl

theorem move_pending : inPlace none (move number claimed ledger) =
    (inPlace none ledger).filter (!claimed ·) := by
  induction ledger with
  | nil => rfl
  | cons entry rest ih =>
    obtain ⟨r, place⟩ := entry
    rw [move_cons, inPlace_cons, inPlace_cons, ih]
    cases place with
    | none => cases isClaimed : claimed r <;> simp [isClaimed]
    | some earlier => simp

/-- The event gets the claimed records, if nothing has its number yet. -/
theorem move_taken (unused : inPlace (some number) ledger = []) :
    inPlace (some number) (move number claimed ledger) =
      (inPlace none ledger).filter claimed := by
  induction ledger with
  | nil => rfl
  | cons entry rest ih =>
    obtain ⟨r, place⟩ := entry
    rw [inPlace_cons] at unused
    split at unused
    · cases unused
    · rename_i other
      rw [move_cons, inPlace_cons, inPlace_cons, ih unused]
      cases place with
      | none => cases isClaimed : claimed r <;> simp [isClaimed]
      | some earlier => simpa using other

theorem move_other {other : Nat} (different : other ≠ number) :
    inPlace (some other) (move number claimed ledger) = inPlace (some other) ledger := by
  induction ledger with
  | nil => rfl
  | cons entry rest ih =>
    obtain ⟨r, place⟩ := entry
    rw [move_cons, inPlace_cons, inPlace_cons, ih]
    cases place with
    | none => cases claimed r <;> simp [Ne.symm different]
    | some earlier => simp

end Ledger

/-- What the event of a number took out of a buffer. -/
def takenBy (buffer : String) (events : List Event) (number : Nat) : List Record :=
  events[number]?.elim [] (Event.takes buffer)

/-- The records that the events put into a buffer are accounted for: in the order in which they
came, each occurrence is either pending or taken by one event, nothing else is pending, and no event
took anything else. -/
def Accounted (buffer : String) (events : List Event) (pending : List Record) : Prop :=
  ∃ ledger : Ledger, ledger.map (·.1) = events.filterMap (Event.puts? buffer) ∧
    ledger.inPlace none = pending ∧
    ∀ number, ledger.inPlace (some number) = takenBy buffer events number

namespace Accounted
variable {buffer : String} {events : List Event} {pending : List Record} {e : Event}

theorem start (buffer : String) : Accounted buffer [] [] := ⟨[], rfl, rfl, fun _ => rfl⟩

theorem takenBy_append (number : Nat) : takenBy buffer (events ++ [e]) number =
    if number = events.length then e.takes buffer else takenBy buffer events number := by
  unfold takenBy
  split
  · rename_i last
    rw [last, List.getElem?_concat_length]
    rfl
  · rename_i other
    rcases Nat.lt_or_gt_of_ne other with earlier | later
    · rw [List.getElem?_append_left earlier]
    · rw [List.getElem?_eq_none (by simp; omega), List.getElem?_eq_none (by omega)]

theorem takenBy_next : takenBy buffer events events.length = [] := by
  rw [takenBy, List.getElem?_eq_none (Nat.le_refl _)]
  rfl

theorem untouched (accounted : Accounted buffer events pending) (apart : ¬ e.Touches buffer) :
    Accounted buffer (events ++ [e]) pending := by
  obtain ⟨ledger, records, isPending, taken⟩ := accounted
  refine ⟨ledger, ?_, isPending, fun number => ?_⟩
  · rw [records, List.filterMap_append]
    simp [Event.puts_of_not_touches apart]
  · rw [taken, takenBy_append]
    split
    · rename_i last
      rw [last, takenBy_next, Event.takes_of_not_touches apart]
    · rfl

theorem untouchedAll {later : List Event} (accounted : Accounted buffer events pending)
    (apart : ∀ e ∈ later, ¬ e.Touches buffer) : Accounted buffer (events ++ later) pending := by
  induction later generalizing events with
  | nil => simpa using accounted
  | cons e rest ih =>
    have first := accounted.untouched (apart e List.mem_cons_self)
    have all := ih first fun other member => apart other (List.mem_cons_of_mem _ member)
    simpa using all

theorem put {r : Record} (accounted : Accounted buffer events pending)
    (puts : e.puts? buffer = some r) (takes : e.takes buffer = []) :
    Accounted buffer (events ++ [e]) (pending ++ [r]) := by
  obtain ⟨ledger, records, rfl, taken⟩ := accounted
  refine ⟨ledger ++ [(r, none)], ?_, ?_, fun number => ?_⟩
  · rw [List.map_append, records, List.filterMap_append]
    simp [puts]
  · rw [Ledger.inPlace_append]
    rfl
  · rw [Ledger.inPlace_append, taken, takenBy_append]
    split
    · rename_i last
      rw [last, takenBy_next, takes]
      rfl
    · simp [Ledger.inPlace_cons]

theorem take {claimed : Record → Bool} (accounted : Accounted buffer events pending)
    (puts : e.puts? buffer = none) (takes : e.takes buffer = pending.filter claimed) :
    Accounted buffer (events ++ [e]) (pending.filter (!claimed ·)) := by
  obtain ⟨ledger, records, rfl, taken⟩ := accounted
  refine ⟨ledger.move events.length claimed, ?_, Ledger.move_pending, fun number => ?_⟩
  · rw [Ledger.move_records, records, List.filterMap_append]
    simp [puts]
  · rw [takenBy_append]
    split
    · rename_i last
      rw [last, takes]
      exact Ledger.move_taken ((taken _).trans takenBy_next)
    · rename_i other
      rw [Ledger.move_other other, taken]

end Accounted
end WarningCapture
