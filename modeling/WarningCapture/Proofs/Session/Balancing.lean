import WarningCapture.Proofs.Session.Proceeding

/-! Captured records balance. Every record that an observer builds is counted once and comes to one
place, and what buffers take in is what flushes and the ends of tests take out and what is pending,
at every moment. -/
namespace WarningCapture

namespace Event

def captured? : Event → Option Record
  | captured r => some r
  | _ => none

/-- The record that came to a buffer, to a listener or, as the listener was running, to nothing. -/
def received? : Event → Option Record
  | stored _ r | called _ _ r | dropped _ r => some r
  | _ => none

/-- Lines of the log, what exceptions show as they are printed for it, and reports of errors. -/
def spoken : Event → Bool
  | wrote .. | uttered _ | reported _ => true
  | _ => false

theorem spoken_nothing {e : Event} (spoken : e.spoken = true) :
    e.captured? = none ∧ e.received? = none ∧ e.metric? = none ∧
      ∀ buffer, ¬ e.Touches buffer := by
  cases e <;> first | exact ⟨rfl, rfl, rfl, fun _ => not_false⟩ | cases spoken

end Event

namespace Session
variable {Tags : Option String → Prop} {s t u : Session} {buffer : String} {es fs : List Event}

/-- Only what is spoken was added. -/
structure Spoke (s t : Session) : Prop where
  buffers : t.buffers = s.buffers
  told : ∃ later, t.history = later ++ s.history ∧ ∀ e ∈ later, e.spoken = true

namespace Spoke

theorem of_same (buffers : t.buffers = s.buffers) (history : t.history = s.history) : s.Spoke t :=
  ⟨buffers, [], history, by simp⟩

theorem trans (first : s.Spoke t) (second : t.Spoke u) : s.Spoke u where
  buffers := second.buffers.trans first.buffers
  told := told_trans first.told second.told

theorem note (s : Session) (n : Log.Notice) : s.Spoke (s.note n) := by
  refine ⟨(s.note_remarked n).buffers, _, congrArg history (s.addAll_eq _), fun e member => ?_⟩
  rcases mem_noticed (List.mem_reverse.mp member) with ⟨_, _, _, rfl⟩ | ⟨_, _, _, rfl⟩ <;> rfl

theorem noteAll (s : Session) (ns : List Log.Notice) : s.Spoke (s.noteAll ns) := by
  induction ns generalizing s with
  | nil => exact .of_same rfl rfl
  | cons n rest ih => exact (note s n).trans (ih _)

theorem add (s : Session) {e : Event} (spoken : e.spoken = true) : s.Spoke (s.add e) :=
  ⟨rfl, [e], rfl, by simpa using spoken⟩

theorem report (s : Session) (err : CaptureError) : s.Spoke (s.report err) := by
  have logged : s.Spoke ((s.add (.reported err)).note (Log.errorNotice err)) :=
    (add s rfl).trans (note _ _)
  unfold Session.report
  simp only
  split
  · exact logged.trans (add _ rfl)
  · exact logged

theorem applyPolicy (disk : String → Log.Opening) (s : Session) (p : Policy) :
    s.Spoke (s.applyPolicy disk p) := by
  let put : Session := { s with policy := p }
  let complained := put.noteAll (put.logger.levelNotices p.logLevel)
  let levelled : Session :=
    { complained with logger := complained.logger.setLevel p.logLevel }
  have first : s.Spoke complained :=
    (show s.Spoke put from .of_same rfl rfl).trans (noteAll put _)
  have second : complained.Spoke levelled := .of_same rfl rfl
  have third := (first.trans second).trans
    (noteAll levelled (Log.Logger.fileNotices disk p.logFile))
  exact third.trans (.of_same rfl rfl)

end Spoke

/-- What happened to the buffer is what the added events say. -/
theorem Booked.perm (booked : Booked buffer s t) (told : t.history = es ++ s.history) :
    (s.pendingIn buffer ++ es.filterMap (Event.puts? buffer)).Perm
      (es.flatMap (Event.takes buffer) ++ t.pendingIn buffer) := by
  cases booked with
  | apart later history apart same =>
    obtain rfl := List.append_cancel_right (told.symm.trans history)
    have puts : es.filterMap (Event.puts? buffer) = [] :=
      List.filterMap_eq_nil_iff.mpr fun e member => Event.puts_of_not_touches (apart e member)
    have takes : es.flatMap (Event.takes buffer) = [] :=
      List.flatMap_eq_nil_iff.mpr fun e member => Event.takes_of_not_touches (apart e member)
    rw [puts, takes, same, List.append_nil, List.nil_append]
  | put e r history _ puts takes same =>
    obtain rfl : es = [e] := List.append_cancel_right (told.symm.trans history)
    rw [List.filterMap_cons_some puts, List.flatMap_singleton, takes, same]
    exact .refl _
  | take e claimed history _ puts takes same =>
    obtain rfl : es = [e] := List.append_cancel_right (told.symm.trans history)
    rw [List.filterMap_cons_none puts, List.flatMap_singleton, takes, same]
    simpa using (List.filter_append_perm claimed (s.pendingIn buffer)).symm

/-- The added events balance: what was captured was received, in order, and what was put into a
buffer was taken out or is pending, like what was pending before. -/
structure Balances (s t : Session) (es : List Event) : Prop where
  told : t.history = es ++ s.history
  received : es.filterMap Event.captured? = es.filterMap Event.received?
  buffers : ∀ buffer, (s.pendingIn buffer ++ es.filterMap (Event.puts? buffer)).Perm
    (es.flatMap (Event.takes buffer) ++ t.pendingIn buffer)

namespace Balances

theorem of_spoke (spoke : s.Spoke t) : ∃ es, Balances s t es := by
  obtain ⟨es, told, spoken⟩ := spoke.told
  refine ⟨es, told, ?_, fun buffer => Booked.perm (.apart es told (fun e member =>
    (Event.spoken_nothing (spoken e member)).2.2.2 buffer) (pendingIn_congr spoke.buffers buffer))
    told⟩
  rw [List.filterMap_eq_nil_iff.mpr fun e member => (Event.spoken_nothing (spoken e member)).1,
    List.filterMap_eq_nil_iff.mpr fun e member => (Event.spoken_nothing (spoken e member)).2.1]

theorem of_same (buffers : t.buffers = s.buffers) (history : t.history = s.history) :
    ∃ es, Balances s t es :=
  of_spoke (.of_same buffers history)

theorem of_event {e : Event} (history : t.history = e :: s.history)
    (received : e.captured? = e.received?) (booked : ∀ buffer, Booked buffer s t) :
    Balances s t [e] where
  told := history
  received := by simp only [List.filterMap_cons, List.filterMap_nil, received]
  buffers buffer := (booked buffer).perm history

/-- A record is captured, and comes to its place at once. -/
theorem of_capture {e : Event} {r : Record} (history : t.history = e :: .captured r :: s.history)
    (uncaptured : e.captured? = none) (received : e.received? = some r)
    (booked : ∀ buffer, Booked buffer (s.add (.captured r)) t) :
    Balances s t [e, .captured r] where
  told := history
  received := by
    rw [List.filterMap_cons_none uncaptured, List.filterMap_cons_some received]
    rfl
  buffers buffer := by
    have perm : (s.pendingIn buffer ++ [e].filterMap (Event.puts? buffer)).Perm
        ([e].flatMap (Event.takes buffer) ++ t.pendingIn buffer) := (booked buffer).perm history
    have puts : ([e] ++ [Event.captured r]).filterMap (Event.puts? buffer) =
        [e].filterMap (Event.puts? buffer) :=
      List.filterMap_append.trans (List.append_nil _)
    have takes : ([e] ++ [Event.captured r]).flatMap (Event.takes buffer) =
        [e].flatMap (Event.takes buffer) :=
      List.flatMap_append.trans (List.append_nil _)
    rw [show [e, Event.captured r] = [e] ++ [Event.captured r] from rfl]
    rwa [puts, takes]

theorem trans (first : Balances s t es) (second : Balances t u fs) :
    Balances s u (fs ++ es) where
  told := by rw [second.told, first.told, List.append_assoc]
  received := by
    rw [List.filterMap_append, List.filterMap_append, first.received, second.received]
  buffers buffer := by
    refine List.perm_iff_count.mpr fun r => ?_
    have before := (first.buffers buffer).count_eq r
    have after := (second.buffers buffer).count_eq r
    simp only [List.filterMap_append, List.flatMap_append, List.count_append] at before after ⊢
    omega

end Balances

theorem Deed.balances (deed : Deed Tags s t) : ∃ es, Balances s t es := by
  cases deed with
  | arrange | tag | nameObserver | write | pushNamed | pushNew | takeOff =>
    exact Balances.of_same rfl rfl
  | note _ n => exact Balances.of_spoke (.note s n)
  | report _ err => exact Balances.of_spoke (.report s err)
  | applyPolicy _ disk p => exact Balances.of_spoke (.applyPolicy disk s p)
  | tell _ telling =>
    rename_i e
    refine ⟨[e], .of_event rfl ?_ fun buffer => .of_event rfl ?_ rfl⟩
    · cases e <;> first | rfl | cases telling
    · cases e <;> first | exact not_false | cases telling
  | store _ buffer r => exact ⟨_, .of_capture rfl rfl rfl fun _ => store_booked _ buffer r⟩
  | @dismiss o _ _ r =>
    obtain ⟨es, noted⟩ := Balances.of_spoke (.note ((s.add (.captured r)).add (.dropped o.id r))
      (Sinks.say .debug ("dropping warning raised by the collector itself: " ++ r.message)))
    have dropped : Balances s ((s.add (.captured r)).add (.dropped o.id r))
        [.dropped o.id r, .captured r] :=
      .of_capture rfl rfl rfl fun _ => .of_event rfl not_false rfl
    exact ⟨_, dropped.trans noted⟩
  | place _ buffer r => exact ⟨_, .of_event rfl rfl fun _ => s.place_booked buffer r⟩
  | takeOut _ buffer claimed =>
    exact ⟨_, .of_event rfl rfl fun _ => s.takeOut_booked buffer claimed⟩
  | sweep _ buffer => exact ⟨_, .of_event rfl rfl fun _ => s.sweep_booked buffer⟩
  | touch _ buffer =>
    exact ⟨[], rfl, rfl, fun _ => Booked.perm (.of_same rfl (rewrite_pending rfl)) rfl⟩
  | close => exact ⟨_, .of_event rfl rfl fun _ => .of_event rfl not_false rfl⟩

theorem enterRun_balances (s : Session) (name : String) :
    Balances s (s.enterRun name) [.began name] :=
  .of_event rfl rfl fun _ => .of_event rfl not_false (rewrite_pending rfl)

theorem leaveRun_balances (s : Session) (name : String) (testId : Option String) :
    Balances s (s.leaveRun name testId) [.ended name] :=
  .of_event rfl rfl fun _ => .of_event rfl not_false (rewrite_pending rfl)

theorem enterListener_balances (s : Session) (o : Observer) (listener : String) (r : Record) :
    Balances s ((s.add (.captured r)).enterListener o listener r)
      [.called listener o.id r, .captured r] :=
  .of_capture rfl rfl rfl fun _ => .of_event rfl not_false rfl

theorem leaveListener_balances (s : Session) (o : Observer) :
    Balances s (s.leaveListener o) [.returned o.id] :=
  .of_event rfl rfl fun _ => .of_event rfl not_false rfl

theorem Proceeds.balances (proceeds : Proceeds Tags s t) : ∃ es, Balances s t es := by
  induction proceeds with
  | deed deed => exact deed.balances
  | trans _ _ first second =>
    obtain ⟨es, first⟩ := first
    obtain ⟨fs, second⟩ := second
    exact ⟨_, first.trans second⟩
  | run _ inside =>
    obtain ⟨es, inside⟩ := inside
    exact ⟨_, ((enterRun_balances _ _).trans inside).trans (leaveRun_balances _ _ _)⟩
  | call _ _ _ _ inside =>
    obtain ⟨es, inside⟩ := inside
    exact ⟨_, ((enterListener_balances _ _ _ _).trans inside).trans (leaveListener_balances _ _)⟩

/-- The metrics balance at every moment, inside runs and calls too. -/
theorem Passes.balances (passes : Passes Tags s u) : ∃ es, Balances s u es := by
  induction passes with
  | now before => exact before.balances
  | running before _ ih =>
    obtain ⟨es, before⟩ := before.balances
    obtain ⟨fs, inside⟩ := ih
    exact ⟨_, (before.trans (enterRun_balances _ _)).trans inside⟩
  | called before _ _ _ _ ih =>
    obtain ⟨es, before⟩ := before.balances
    obtain ⟨fs, inside⟩ := ih
    exact ⟨_, (before.trans (enterListener_balances _ _ _ _)).trans inside⟩

/-- Each record that was captured is counted where it came to. -/
theorem Balances.counts (balances : Balances s t es) :
    es.countP (· matches .captured _) = es.countP (· matches .stored ..) +
      es.countP (· matches .called ..) + es.countP (· matches .dropped ..) := by
  have captured : ∀ events : List Event,
      (events.filterMap Event.captured?).length = events.countP (· matches .captured _) := by
    intro events
    induction events with
    | nil => rfl
    | cons e rest ih => cases e <;> simp [List.filterMap_cons, Event.captured?, ih]
  have received : ∀ events : List Event, (events.filterMap Event.received?).length =
      events.countP (· matches .stored ..) + events.countP (· matches .called ..) +
        events.countP (· matches .dropped ..) := by
    intro events
    induction events with
    | nil => rfl
    | cons e rest ih => cases e <;> simp [List.filterMap_cons, Event.received?, ih] <;> omega
  rw [← captured, ← received, balances.received]

/-- The record is counted once and received once. What else is counted is counted while the listener
is called. -/
structure CountsOnce (react : Reaction) (s : Session) (o : Observer) (r : Record) (t : Session)
    (e : Event) (after : List Event) : Prop where
  received : e.received? = some r
  told : t.history = after ++ e :: .captured r :: s.history
  counted : (∀ x ∈ after, x.metric? = none) ∨
    ∃ listener inner, o.collector = .listener listener ∧ after = .returned o.id :: inner ∧
      (react listener r ((s.add (.captured r)).enterListener o listener r)).2.history =
        inner ++ ((s.add (.captured r)).enterListener o listener r).history

/-- An observer that is called with what makes a record counts it once, and passes it on once. -/
theorem callObserver_counts (scene : Scene) (depth : Nat) (s : Session) (o : Observer)
    {message : Printable} {category : Category} {file : Printable} {line : Value} {r : Record}
    (converted : Record.ofShown message category file line = .ok r) :
    ∃ e after, CountsOnce (scene.reaction depth) s o r
      (s.callObserver (scene.reaction depth) o message category file line).2 e after := by
  unfold callObserver deliver
  rw [converted]
  simp only
  split
  · rename_i name _
    exact ⟨.stored name r, [], rfl, rfl, .inl (by simp)⟩
  · rename_i listener collector
    split
    · obtain ⟨later, told, spoken⟩ := (Spoke.note ((s.add (.captured r)).add (.dropped o.id r))
        (Sinks.say .debug
          ("dropping warning raised by the collector itself: " ++ r.message))).told
      exact ⟨.dropped o.id r, later, rfl, told,
        .inl fun x member => (Event.spoken_nothing (spoken x member)).2.2.1⟩
    · obtain ⟨inner, balances⟩ := (reaction_proceeds
        (fun _ => allThroughout_of_forall Step.tagsWithin_anything _) depth listener r
        ((s.add (.captured r)).enterListener o listener r)).balances
      refine ⟨.called listener o.id r, .returned o.id :: inner, rfl, ?_,
        .inr ⟨listener, inner, collector, rfl, balances.told⟩⟩
      exact congrArg (.returned o.id :: ·) balances.told

end Session
end WarningCapture
