import Mathlib.Data.List.Perm.Subperm
import WarningCapture.Proofs.Session.Booking
import WarningCapture.Proofs.Session.Layering

/-! Records are conserved. What is put into a buffer is pending or was taken by one event, and what
was taken to be emitted again is handed to the emitting function once. -/
namespace WarningCapture

namespace Event

/-- The record of the buffer that the event hands to the function that emits warnings. -/
def hands? (buffer : String) : Event → Option Record
  | handed other r => if other = buffer then some r else none
  | _ => none

/-- The records of the buffer that the event takes out to be emitted again. -/
def owes (buffer : String) : Event → List Record
  | taken other records .replayed => if other = buffer then records else []
  | _ => []

def handedFrom (buffer : String) (events : List Event) : List Record :=
  events.filterMap (hands? buffer)

def owedFrom (buffer : String) (events : List Event) : List Record :=
  events.flatMap (owes buffer)

theorem handedFrom_perm {buffer : String} {events more : List Event} (same : events.Perm more) :
    (handedFrom buffer events).Perm (handedFrom buffer more) :=
  same.filterMap _

theorem owedFrom_perm {buffer : String} {events more : List Event} (same : events.Perm more) :
    (owedFrom buffer events).Perm (owedFrom buffer more) :=
  same.flatMap_right _

theorem silent_of_aside {buffer : String} {e : Event} (isAside : e.aside = true) :
    e.hands? buffer = none ∧ e.owes buffer = [] := by
  cases e <;> first | exact ⟨rfl, rfl⟩ | cases isAside

end Event

namespace Session
variable {W : Facility → Facility → Prop} {s t u : Session} {buffer name : String} {r : Record}
  {owed more : List (String × Record)}

/-- The records of the buffer among those that are owed. -/
def stillOwed (buffer : String) (owed : List (String × Record)) : List Record :=
  owed.filterMap fun (other, r) => if other = buffer then some r else none

theorem stillOwed_map (buffer name : String) (records : List Record) :
    stillOwed buffer (records.map (name, ·)) = if name = buffer then records else [] := by
  unfold stillOwed
  rw [List.filterMap_map]
  split
  · rename_i here
    simp [here]
  · rename_i elsewhere
    exact List.filterMap_eq_nil_iff.mpr fun r _ => if_neg elsewhere

/-- The added events take no records out of the buffer to be emitted again and hand none over. -/
def Silent (buffer : String) (s t : Session) : Prop :=
  ∃ later, t.history = later ++ s.history ∧
    ∀ e ∈ later, e.hands? buffer = none ∧ e.owes buffer = []

/-- Of the records taken out to be emitted again, all but those still owed were handed over. -/
def Owing (buffer : String) (s t : Session) (owed : List (String × Record)) : Prop :=
  ∃ later, t.history = later ++ s.history ∧ ∀ r,
    (Event.handedFrom buffer later).count r + (stillOwed buffer owed).count r =
      (Event.owedFrom buffer later).count r

/-- No more records were handed over than were taken out to be emitted again. -/
def Within (buffer : String) (s t : Session) : Prop :=
  ∃ later, t.history = later ++ s.history ∧ ∀ r,
    (Event.handedFrom buffer later).count r ≤ (Event.owedFrom buffer later).count r

theorem Silent.of_event {e : Event} (history : t.history = e :: s.history)
    (silent : e.hands? buffer = none ∧ e.owes buffer = []) : Silent buffer s t :=
  ⟨[e], history, by simpa using silent⟩

theorem Silent.of_keepsBuffers (kept : s.KeepsBuffers t) : Silent buffer s t := by
  obtain ⟨u, history, _, later, rfl, asides⟩ := kept
  exact ⟨later, congrArg _ history, fun e member => Event.silent_of_aside (asides e member)⟩

theorem sweep_silent (away : s.fate ≠ .replayed) : Silent buffer s (s.sweep name) := by
  refine .of_event rfl ⟨rfl, ?_⟩
  cases fate : s.fate with
  | replayed => exact absurd fate away
  | discarded | lost => rfl

theorem Change.silent (changed : Change W s t) : Silent buffer s t := by
  rcases changed.keepsBuffers_or with
    kept | ⟨name, r, rfl⟩ | ⟨name, r, rfl⟩ | ⟨name, claimed, rfl⟩ | ⟨name, away, rfl⟩ |
      ⟨step, outcome, rfl⟩ | ⟨name, rfl⟩
  · exact .of_keepsBuffers kept
  · exact .of_event rfl ⟨rfl, rfl⟩
  · exact .of_event rfl ⟨rfl, rfl⟩
  · exact .of_event rfl ⟨rfl, rfl⟩
  · exact sweep_silent away
  · exact .of_event rfl ⟨rfl, rfl⟩
  · exact ⟨[], rfl, by simp⟩

namespace Owing

theorem of_silent (silent : Silent buffer s t) : Owing buffer s t [] := by
  obtain ⟨later, history, silent⟩ := silent
  refine ⟨later, history, fun r => ?_⟩
  have nothing : Event.handedFrom buffer later = [] :=
    List.filterMap_eq_nil_iff.mpr fun e member => (silent e member).1
  have none : Event.owedFrom buffer later = [] :=
    List.flatMap_eq_nil_iff.mpr fun e member => (silent e member).2
  rw [nothing, none]
  rfl

theorem trans (first : Owing buffer s t owed) (second : Owing buffer t u more) :
    Owing buffer s u (owed ++ more) := by
  obtain ⟨later, history, counts⟩ := first
  obtain ⟨last, rest, others⟩ := second
  refine ⟨last ++ later, by rw [rest, history, List.append_assoc], fun r => ?_⟩
  have before := counts r
  have after := others r
  simp only [Event.handedFrom, Event.owedFrom, stillOwed, List.filterMap_append,
    List.flatMap_append, List.count_append] at before after ⊢
  omega

theorem sweep (replays : s.fate = .replayed) :
    Owing buffer s (s.sweep name) ((s.buffer name).records.map (name, ·)) := by
  refine ⟨[.taken name (s.buffer name).records s.fate], rfl, fun r => ?_⟩
  have taken : Event.owedFrom buffer [.taken name (s.buffer name).records s.fate] =
      if name = buffer then (s.buffer name).records else [] := by
    rw [replays]
    exact List.append_nil _
  rw [taken, stillOwed_map]
  exact Nat.zero_add _

theorem hand (before : Owing buffer s t ((name, r) :: owed)) :
    Owing buffer s (t.add (.handed name r)) owed := by
  obtain ⟨later, history, counts⟩ := before
  refine ⟨.handed name r :: later, by rw [add, history]; rfl, fun other => ?_⟩
  have count := counts other
  have untaken : Event.owedFrom buffer (.handed name r :: later) = Event.owedFrom buffer later :=
    rfl
  rw [untaken]
  by_cases here : name = buffer
  · have paid : Event.handedFrom buffer (.handed name r :: later) =
        r :: Event.handedFrom buffer later := List.filterMap_cons_some (if_pos here)
    have due : stillOwed buffer ((name, r) :: owed) = r :: stillOwed buffer owed :=
      List.filterMap_cons_some (if_pos here)
    rw [due, List.count_cons] at count
    rw [paid, List.count_cons]
    omega
  · have unpaid : Event.handedFrom buffer (.handed name r :: later) =
        Event.handedFrom buffer later := List.filterMap_cons_none (if_neg here)
    have undue : stillOwed buffer ((name, r) :: owed) = stillOwed buffer owed :=
      List.filterMap_cons_none (if_neg here)
    rw [undue] at count
    rw [unpaid]
    exact count

theorem within (owing : Owing buffer s t owed) : Within buffer s t := by
  obtain ⟨later, history, counts⟩ := owing
  refine ⟨later, history, fun r => ?_⟩
  have count := counts r
  omega

end Owing

namespace Within

theorem of_silent (silent : Silent buffer s t) : Within buffer s t :=
  (Owing.of_silent silent).within

theorem trans (first : Within buffer s t) (second : Within buffer t u) : Within buffer s u := by
  obtain ⟨later, history, counts⟩ := first
  obtain ⟨last, rest, more⟩ := second
  refine ⟨last ++ later, by rw [rest, history, List.append_assoc], fun r => ?_⟩
  have before := counts r
  have after := more r
  simp only [Event.handedFrom, Event.owedFrom, List.filterMap_append, List.flatMap_append,
    List.count_append] at before after ⊢
  omega

end Within

/-- A course hands over what it takes out to be emitted again, but for what is still owed. -/
theorem Course.owing (course : Course W s owed t) (buffer : String) : Owing buffer s t owed := by
  induction course with
  | change changed => exact .of_silent changed.silent
  | trans _ _ first second => exact first.trans second
  | capture installed _ inside =>
    have before : Owing buffer _ _ [] :=
      .of_silent (.of_keepsBuffers (pushSink_keepsBuffers installed))
    refine (before.trans inside).trans (.of_silent ?_)
    exact .of_keepsBuffers (releaseSink_keepsBuffers _ _ _)
  | run _ inside =>
    exact ((Owing.of_silent (.of_event rfl ⟨rfl, rfl⟩)).trans inside).trans
      (.of_silent (.of_event rfl ⟨rfl, rfl⟩))
  | call _ _ inside =>
    exact ((Owing.of_silent (.of_event rfl ⟨rfl, rfl⟩)).trans inside).trans
      (.of_silent (.of_event rfl ⟨rfl, rfl⟩))
  | sweep replays => exact .sweep replays
  | hand _ _ before inside => simpa using before.hand.trans inside

/-- At any moment, records taken out to be emitted again may still be owed, or be in the hands of
the emitting function. -/
theorem Moment.within (now : Moment W s u) (buffer : String) : Within buffer s u := by
  induction now with
  | now course => exact (course.owing buffer).within
  | captured before installed _ inside =>
    have installs : Within buffer _ _ :=
      .of_silent (.of_keepsBuffers (pushSink_keepsBuffers installed))
    exact ((before.owing buffer).within.trans installs).trans inside
  | running before _ inside =>
    exact ((before.owing buffer).within.trans (.of_silent (.of_event rfl ⟨rfl, rfl⟩))).trans inside
  | called before _ _ inside =>
    exact ((before.owing buffer).within.trans (.of_silent (.of_event rfl ⟨rfl, rfl⟩))).trans inside
  | handed before _ inside => exact (before.owing buffer).hand.within.trans inside

theorem accounted_of_turns (turns : Relation.ReflTransGen (Turn W) s t)
    (before : Accounted buffer s.events (s.pendingIn buffer)) :
    Accounted buffer t.events (t.pendingIn buffer) := by
  have start : AccountedSince [] buffer s := ⟨s.events, rfl, before⟩
  obtain ⟨since, told, accounted⟩ := accountedSince_of_turns turns start
  rw [told]
  exact accounted

theorem grows_of_turns (buffer : String) (turns : Relation.ReflTransGen (Turn W) s t) :
    ∃ later, t.history = later ++ s.history ∧
      ((∀ e ∈ later, ¬ e.Touches buffer) → t.pendingIn buffer = s.pendingIn buffer) := by
  induction turns with
  | refl => exact ⟨[], rfl, fun _ => rfl⟩
  | tail _ turn ih =>
    obtain ⟨later, history, same⟩ := ih
    obtain ⟨last, rest, kept⟩ := (turn.booked buffer).grows
    refine ⟨last ++ later, by rw [rest, history, List.append_assoc], fun apart => ?_⟩
    rw [kept fun e member => apart e (List.mem_append_left _ member),
      same fun e member => apart e (List.mem_append_right _ member)]

theorem Course.history (course : Course W s owed t) : s.history <:+ t.history := by
  obtain ⟨later, history, _⟩ := grows_of_turns "" course.turns
  exact ⟨later, history.symm⟩

theorem emitAll_history {react : Reaction} (remembers : Remembers W) (follows : react.Follows W)
    (emitter : FunctionState) (name : String) (records : List Record) (s : Session) :
    s.history <:+ (emitAll react emitter name records s).2.history := by
  induction records generalizing s with
  | nil => exact List.suffix_rfl
  | cons r rest ih =>
    have emitted := emitAgain_course remembers follows emitter (s.add (.handed name r)) r
    have noted : s.history <:+ (s.add (.handed name r)).history := List.suffix_cons _ _
    have longer := noted.trans emitted.history
    unfold emitAll
    split
    · rename_i outcome
      rw [outcome] at longer
      exact longer.trans (ih _)
    · rename_i outcome
      rw [outcome] at longer
      exact longer.trans ((note_remarked _ _).history.trans (ih _))

/-- The records of a buffer are conserved in a session that has come from one state to another. -/
structure Conserved (start s : Session) (buffer : String) : Prop where
  /-- Each occurrence of a record is pending or was taken by one event, and those pending are in the
  order in which they came. -/
  accounted : Accounted buffer s.events (s.pendingIn buffer)
  /-- No record is handed to the emitting function more often than it was taken out to be emitted
  again. -/
  handed : (Event.handedFrom buffer s.events).Subperm (Event.owedFrom buffer s.events)
  /-- Once nothing is under way, each of these records was handed over once. -/
  allHanded : Course Facility.Anything start [] s →
    (Event.handedFrom buffer s.events).Perm (Event.owedFrom buffer s.events)
  /-- What a flush returns is what its event took, and it has no other event of any buffer. -/
  flushed : ∀ objects targets records,
    (s.flush objects buffer targets).1 = .ok records →
    ∃ before after,
      (s.flush objects buffer targets).2.events =
        s.events ++ before ++ .flushed buffer records :: after ∧
      ∀ e ∈ before ++ after, e.aside = true
  /-- A flush that fails takes nothing out of any buffer. -/
  refused : ∀ objects other targets f, (s.flush objects other targets).1 = .error f →
    (s.flush objects other targets).2.buffers = s.buffers
  /-- The end of a test takes all that is pending in one event, before anything else happens. What
  becomes of it, and what is returned or raised, is its fate. -/
  finished : ∀ react, react.Follows Facility.Anything → s.pendingIn buffer ≠ [] →
    (∃ later, (s.finish react buffer).2.events =
      s.events ++ .taken buffer (s.pendingIn buffer) s.fate :: later) ∧
    match s.fate with
    | .discarded => (s.finish react buffer).1 = .ok []
    | .lost => (s.finish react buffer).1 = .error (.reported replayUnavailable)
    | .replayed => ∃ raised, (s.finish react buffer).1 = .ok raised
  /-- Whatever happens next leaves the pending records alone unless an event of the buffer tells. -/
  apart : ∀ owed t, Course Facility.Anything s owed t → ∃ later, t.events = s.events ++ later ∧
    ((∀ e ∈ later, ¬ e.Touches buffer) → t.pendingIn buffer = s.pendingIn buffer)
  /-- Putting records into another buffer, or taking them out, is no such event. -/
  others : ∀ other ≠ buffer,
    (∀ r, (s.store other r).pendingIn buffer = s.pendingIn buffer) ∧
    (∀ r, (s.place other r).pendingIn buffer = s.pendingIn buffer) ∧
    (∀ objects targets,
      (s.flush objects other targets).2.pendingIn buffer = s.pendingIn buffer) ∧
    (s.sweep other).pendingIn buffer = s.pendingIn buffer
  /-- To look at a buffer is to leave everything as it is. -/
  looked : ∀ scene react other, ((Step.pending other).perform scene react s).2 = s ∧
    ((Step.describe other).perform scene react s).2 = s

theorem flush_flushed {objects : HostObjects} {targets : TargetList} {records : List Record}
    (ok : (s.flush objects buffer targets).1 = .ok records) : ∃ before after,
      (s.flush objects buffer targets).2.events =
        s.events ++ before ++ .flushed buffer records :: after ∧
      ∀ e ∈ before ++ after, e.aside = true := by
  rcases s.flush_cases objects buffer targets with
    ⟨f, failed, _⟩ | ⟨claimed, read, u, noted, taken, told⟩
  · rw [failed] at ok
    cases ok
  · rw [taken] at ok
    cases ok
    obtain ⟨before, earlier, asides⟩ := noted.events
    obtain ⟨after, later, others⟩ := told.events
    have out : (u.takeOut buffer claimed).events =
        u.events ++ [.flushed buffer ((s.buffer buffer).records.filter claimed)] := by
      rw [takeOut, add_events, buffer_congr noted.buffers]
      rfl
    refine ⟨before, after, ?_, fun e member => ?_⟩
    · rw [later, out, earlier, List.append_assoc]
      rfl
    · exact (List.mem_append.mp member).elim (asides e) (others e)

theorem flush_elsewhere {objects : HostObjects} {targets : TargetList} (other : name ≠ buffer) :
    (s.flush objects name targets).2.pendingIn buffer = s.pendingIn buffer := by
  rcases s.flush_cases objects name targets with
    ⟨_, _, remarked⟩ | ⟨claimed, read, u, noted, _, taken⟩
  · exact pendingIn_congr remarked.buffers buffer
  · have out : (u.takeOut name claimed).pendingIn buffer = u.pendingIn buffer :=
      setBuffer_elsewhere other _
    rw [pendingIn_congr taken.buffers, out]
    exact pendingIn_congr noted.buffers buffer

theorem finish_finished {react : Reaction} (follows : react.Follows Facility.Anything)
    (something : s.pendingIn buffer ≠ []) :
    (∃ later, (s.finish react buffer).2.events =
      s.events ++ .taken buffer (s.pendingIn buffer) s.fate :: later) ∧
    match s.fate with
    | .discarded => (s.finish react buffer).1 = .ok []
    | .lost => (s.finish react buffer).1 = .error (.reported replayUnavailable)
    | .replayed => ∃ raised, (s.finish react buffer).1 = .ok raised := by
  have told (longer : (s.sweep buffer).history <:+ (s.finish react buffer).2.history) :
      ∃ later, (s.finish react buffer).2.events =
        s.events ++ .taken buffer (s.pendingIn buffer) s.fate :: later := by
    obtain ⟨later, same⟩ := longer
    have swept : (s.sweep buffer).events =
        s.events ++ [.taken buffer (s.pendingIn buffer) s.fate] := add_events _ _
    refine ⟨later.reverse, ?_⟩
    rw [events, ← same, List.reverse_append, ← events, swept, List.append_assoc]
    rfl
  rcases s.finish_cases react buffer with
    ⟨empty, _⟩ | ⟨fate, result, remarked⟩ | ⟨fate, result, remarked⟩ |
    ⟨fate, raised, t, emitted, same⟩
  · exact absurd empty something
  · exact ⟨told remarked.history, by rw [fate]; exact result⟩
  · exact ⟨told remarked.history, by rw [fate]; exact result⟩
  · have longer := emitAll_history remembers_anything follows s.sinks.facility.warnExplicit buffer
      (s.buffer buffer).records (s.sweep buffer)
    rw [emitted] at longer
    refine ⟨told ?_, by rw [fate, same]; exact ⟨raised, rfl⟩⟩
    rw [same]
    exact longer.trans (List.suffix_cons _ _)

/-- In a session that begins with nothing pending, the records of each buffer are conserved at every
moment, whatever captures, flushes, ends of tests and listeners do and however they are nested. -/
theorem records_are_conserved (start s : Session) (fresh : start.history = [])
    (nothing : ∀ buffer, start.pendingIn buffer = []) (now : Moment Facility.Anything start s)
    (buffer : String) : Conserved start s buffer := by
  have began : start.events = [] := by rw [events, fresh]; rfl
  have empty : Accounted buffer start.events (start.pendingIn buffer) := by
    rw [began, nothing]
    exact .start buffer
  have before : ∀ later, s.history = later ++ start.history → s.events.Perm later := by
    intro later history
    rw [events, history, fresh, List.append_nil]
    exact List.reverse_perm later
  constructor
  · exact accounted_of_turns now.turns empty
  · obtain ⟨later, history, counts⟩ := now.within buffer
    have same := before later history
    refine List.subperm_iff_count.mpr fun r => ?_
    rw [(Event.handedFrom_perm same).count_eq, (Event.owedFrom_perm same).count_eq]
    exact counts r
  · intro course
    obtain ⟨later, history, counts⟩ := course.owing buffer
    have same := before later history
    refine List.perm_iff_count.mpr fun r => ?_
    rw [(Event.handedFrom_perm same).count_eq, (Event.owedFrom_perm same).count_eq]
    exact counts r
  · exact fun objects targets records ok => flush_flushed ok
  · intro objects other targets f failed
    rcases s.flush_cases objects other targets with ⟨_, _, remarked⟩ | ⟨_, _, _, _, taken, _⟩
    · exact remarked.buffers
    · rw [taken] at failed
      cases failed
  · exact fun react follows something => finish_finished follows something
  · intro owed t course
    obtain ⟨later, history, same⟩ := grows_of_turns buffer course.turns
    refine ⟨later.reverse, ?_, fun apart => same fun e member => ?_⟩
    · rw [events, history, List.reverse_append, events]
    · exact apart e (List.mem_reverse.mpr member)
  · intro other different
    exact ⟨fun r => setBuffer_elsewhere different _, fun r => setBuffer_elsewhere different _,
      fun objects targets => flush_elsewhere different, setBuffer_elsewhere different _⟩
  · exact fun scene react other => ⟨rfl, rfl⟩

/-- Emitting the one record of a buffer again, under a guard that captures into the same buffer,
leaves one record pending there: the first was taken and handed over, and the second is another. -/
theorem record_emitted_into_its_own_buffer :
    bare.history = [] ∧ (∀ buffer, bare.pendingIn buffer = []) ∧
    Moment Facility.Anything bare (({} : Scene).play guarded bare) ∧
    Accounted "buffer" (({} : Scene).play guarded bare).events
      ((({} : Scene).play guarded bare).pendingIn "buffer") ∧
    ((({} : Scene).play guarded bare).pendingIn "buffer").length = 1 ∧
    (Event.handedFrom "buffer" (({} : Scene).play guarded bare).events).Perm
      (Event.owedFrom "buffer" (({} : Scene).play guarded bare).events) ∧
    (Event.owedFrom "buffer" (({} : Scene).play guarded bare).events).length = 1 := by
  have nothing : ∀ buffer, bare.pendingIn buffer = [] := by
    intro buffer
    have none : bare.buffers = [] := by decide +kernel
    rw [pendingIn, Session.buffer, none]
    rfl
  have course : Course Facility.Anything bare [] (({} : Scene).play guarded bare) :=
    play_course remembers_anything {}
      (fun _ => allThroughout_of_forall Step.writesWithin_anything _) guarded
      (allThroughout_of_forall Step.writesWithin_anything _) bare
  have conserved := records_are_conserved bare _ rfl nothing (.now course) "buffer"
  exact ⟨rfl, nothing, .now course, conserved.accounted, by decide +kernel,
    conserved.allHanded course, by decide +kernel⟩

end Session
end WarningCapture
