import WarningCapture.Proofs.Session.Ledger
import WarningCapture.Proofs.Session.Performance

/-! Every turn of a session books what it does to a buffer: the event that it adds says what was put
in or taken out, and a turn that adds no such event leaves the pending records alone. -/
namespace WarningCapture

theorem Event.not_touches_of_aside {buffer : String} {e : Event} (isAside : e.aside = true) :
    ¬ e.Touches buffer := by
  cases e <;> first | exact not_false | cases isAside

namespace Session
variable {W : Facility → Facility → Prop} {s t u : Session} {buffer name : String}

theorem buffer_setBuffer (s : Session) (name : String) (b : Buffer) (other : String) :
    (s.setBuffer name b).buffer other = if other = name then b else s.buffer other := by
  unfold Session.buffer setBuffer
  split
  · rename_i same
    rw [same, Table.get?_put_self]
    rfl
  · rename_i different
    rw [Table.get?_put_of_ne (Ne.symm different)]

def pendingIn (s : Session) (buffer : String) : List Record := (s.buffer buffer).records

theorem pendingIn_congr (same : t.buffers = s.buffers) (buffer : String) :
    t.pendingIn buffer = s.pendingIn buffer :=
  congrArg Buffer.records (buffer_congr same buffer)

theorem pendingIn_setBuffer (s : Session) (name : String) (b : Buffer) (other : String) :
    (s.setBuffer name b).pendingIn other =
      if other = name then b.records else s.pendingIn other := by
  unfold pendingIn
  rw [buffer_setBuffer]
  split <;> rfl

theorem setBuffer_elsewhere (other : name ≠ buffer) (b : Buffer) :
    (s.setBuffer name b).pendingIn buffer = s.pendingIn buffer := by
  rw [pendingIn_setBuffer, if_neg (Ne.symm other)]

/-- What happened to a buffer from one session to the other is what the added events say. -/
inductive Booked (buffer : String) (s t : Session) : Prop where
  | apart (later : List Event) : t.history = later ++ s.history →
      (∀ e ∈ later, ¬ e.Touches buffer) → t.pendingIn buffer = s.pendingIn buffer →
      Booked buffer s t
  | put (e : Event) (r : Record) : t.history = e :: s.history → e.Touches buffer →
      e.puts? buffer = some r → e.takes buffer = [] →
      t.pendingIn buffer = s.pendingIn buffer ++ [r] → Booked buffer s t
  | take (e : Event) (claimed : Record → Bool) : t.history = e :: s.history → e.Touches buffer →
      e.puts? buffer = none → e.takes buffer = (s.pendingIn buffer).filter claimed →
      t.pendingIn buffer = (s.pendingIn buffer).filter (!claimed ·) → Booked buffer s t

/-- The records put into the buffer after the given events, which are all of the past, are accounted
for. -/
def AccountedSince (past : List Event) (buffer : String) (s : Session) : Prop :=
  ∃ since, s.events = past ++ since ∧ Accounted buffer since (s.pendingIn buffer)

namespace Booked

theorem of_event {e : Event} (history : t.history = e :: s.history) (apart : ¬ e.Touches buffer)
    (same : t.pendingIn buffer = s.pendingIn buffer) : Booked buffer s t :=
  .apart [e] history (by simpa using apart) same

theorem of_same (history : t.history = s.history) (same : t.pendingIn buffer = s.pendingIn buffer) :
    Booked buffer s t :=
  .apart [] history (by simp) same

theorem of_keepsBuffers (kept : s.KeepsBuffers t) : Booked buffer s t := by
  obtain ⟨u, history, buffers, later, rfl, asides⟩ := kept
  refine .apart later (congrArg _ history) (fun e member => ?_) (pendingIn_congr buffers buffer)
  exact Event.not_touches_of_aside (asides e member)

/-- A turn that adds no event of the buffer leaves its pending records alone. -/
theorem grows (booked : Booked buffer s t) : ∃ later, t.history = later ++ s.history ∧
    ((∀ e ∈ later, ¬ e.Touches buffer) → t.pendingIn buffer = s.pendingIn buffer) := by
  cases booked with
  | apart later history _ same => exact ⟨later, history, fun _ => same⟩
  | put e r history touches =>
    exact ⟨[e], history, fun apart => absurd touches (apart e List.mem_cons_self)⟩
  | take e claimed history touches =>
    exact ⟨[e], history, fun apart => absurd touches (apart e List.mem_cons_self)⟩

theorem accounted {past : List Event} (booked : Booked buffer s t)
    (before : AccountedSince past buffer s) : AccountedSince past buffer t := by
  obtain ⟨since, told, before⟩ := before
  cases booked with
  | apart later history apart same =>
    refine ⟨since ++ later.reverse, ?_, ?_⟩
    · rw [events, history, List.reverse_append, ← events, told, List.append_assoc]
    · rw [same]
      exact before.untouchedAll fun e member => apart e (List.mem_reverse.mp member)
  | put e r history _ puts takes same =>
    refine ⟨since ++ [e], ?_, ?_⟩
    · rw [events, history, List.reverse_cons, ← events, told, List.append_assoc]
    · rw [same]
      exact before.put puts takes
  | take e claimed history _ puts takes same =>
    refine ⟨since ++ [e], ?_, ?_⟩
    · rw [events, history, List.reverse_cons, ← events, told, List.append_assoc]
    · rw [same]
      exact before.take puts takes

end Booked

theorem pendingIn_setBuffer_self (s : Session) (name : String) (b : Buffer) :
    (s.setBuffer name b).pendingIn name = b.records := by
  rw [pendingIn_setBuffer, if_pos rfl]

theorem store_pendingIn (s : Session) (name other : String) (r : Record) :
    (s.store name r).pendingIn other =
      s.pendingIn other ++ if other = name then [r] else [] := by
  have stored : (s.store name r).pendingIn other =
      if other = name then s.pendingIn name ++ [r] else s.pendingIn other :=
    s.pendingIn_setBuffer name _ other
  rw [stored]
  split
  · rename_i here
    rw [here]
  · rw [List.append_nil]

theorem store_booked (s : Session) (name : String) (r : Record) :
    Booked buffer s (s.store name r) := by
  by_cases same : name = buffer
  · subst same
    exact .put (.stored name r) r rfl rfl (if_pos rfl) rfl (s.pendingIn_setBuffer_self name _)
  · exact .of_event rfl same (setBuffer_elsewhere same _)

theorem place_booked (s : Session) (name : String) (r : Record) :
    Booked buffer s (s.place name r) := by
  by_cases same : name = buffer
  · subst same
    exact .put (.placed name r) r rfl rfl (if_pos rfl) rfl (s.pendingIn_setBuffer_self name _)
  · exact .of_event rfl same (setBuffer_elsewhere same _)

theorem takeOut_booked (s : Session) (name : String) (claimed : Record → Bool) :
    Booked buffer s (s.takeOut name claimed) := by
  by_cases same : name = buffer
  · subst same
    exact .take (.flushed name _) claimed rfl rfl rfl (if_pos rfl)
      (s.pendingIn_setBuffer_self name _)
  · exact .of_event rfl same (setBuffer_elsewhere same _)

theorem sweep_booked (s : Session) (name : String) : Booked buffer s (s.sweep name) := by
  by_cases same : name = buffer
  · subst same
    refine .take (.taken name _ s.fate) (fun _ => true) rfl rfl rfl ?_ ?_
    · rw [List.filter_eq_self.mpr fun _ _ => rfl]
      exact if_pos rfl
    · rw [List.filter_eq_nil_iff.mpr (by simp)]
      exact s.pendingIn_setBuffer_self name _
  · exact .of_event rfl same (setBuffer_elsewhere same _)

theorem rewrite_pending {name : String} {b : Buffer} (same : b.records = s.pendingIn name) :
    (s.setBuffer name b).pendingIn buffer = s.pendingIn buffer := by
  rw [pendingIn_setBuffer]
  split
  · rename_i here
    rw [here, same]
  · rfl

theorem Change.booked (changed : Change W s t) : Booked buffer s t := by
  rcases changed.keepsBuffers_or with
    kept | ⟨name, r, rfl⟩ | ⟨name, r, rfl⟩ | ⟨name, claimed, rfl⟩ | ⟨name, _, rfl⟩ |
      ⟨step, outcome, rfl⟩ | ⟨name, rfl⟩
  · exact .of_keepsBuffers kept
  · exact s.store_booked name r
  · exact s.place_booked name r
  · exact s.takeOut_booked name claimed
  · exact s.sweep_booked name
  · exact .of_event rfl not_false rfl
  · exact .of_same rfl (rewrite_pending rfl)

theorem Turn.booked (turn : Turn W s t) (buffer : String) : Booked buffer s t := by
  cases turn with
  | change changed => exact changed.booked
  | install installed => exact .of_keepsBuffers (pushSink_keepsBuffers installed)
  | takeOff _ token => exact .of_keepsBuffers (s.releaseSink_keepsBuffers token false)
  | enterRun => exact .of_event rfl not_false (rewrite_pending rfl)
  | leaveRun => exact .of_event rfl not_false (rewrite_pending rfl)
  | enterListener | leaveListener | hand => exact .of_event rfl not_false rfl
  | sweep => exact s.sweep_booked _

theorem accountedSince_of_turns {past : List Event} (turns : Relation.ReflTransGen (Turn W) s t)
    (before : AccountedSince past buffer s) : AccountedSince past buffer t := by
  induction turns with
  | refl => exact before
  | tail _ turn ih => exact (turn.booked buffer).accounted ih

end Session
end WarningCapture
