import WarningCapture.Proofs.Session.Numbering

/-! Listeners are not entered again through the observer that they are running under. An observer is
busy exactly while a call of its listener is in progress; what reaches it then is dropped, and what
reaches it at any other time is passed to the listener once. -/
namespace WarningCapture

/-- The observers whose calls are in progress after the given events, the innermost first. The
latest event comes first, as in a history. -/
def openCalls : List Event → List Nat
  | [] => []
  | .called _ observer _ :: earlier => observer :: openCalls earlier
  | .returned observer :: earlier => (openCalls earlier).erase observer
  | _ :: earlier => openCalls earlier

namespace Event

/-- A listener is called through an idle observer, a record is dropped by a busy one, and only the
innermost call returns. -/
def MindsCalls : Event → List Event → Prop
  | called _ observer _, earlier => observer ∉ openCalls earlier
  | dropped observer _, earlier => observer ∈ openCalls earlier
  | returned observer, earlier => (openCalls earlier).head? = some observer
  | _, _ => True

theorem Within.openCalls_append {testId : Option String} {busy : List Nat} {later past : List Event}
    (within : ∀ e ∈ later, e.Within testId busy) : openCalls (later ++ past) = openCalls past := by
  induction later with
  | nil => rfl
  | cons e rest ih =>
    have here := within e List.mem_cons_self
    have rest := ih fun other member => within other (List.mem_cons_of_mem e member)
    cases e with
    | called | returned => exact here.elim
    | _ => exact rest

end Event

namespace Session
variable {Tags : Option String → Prop} {s t u : Session} {o : Observer} {id : Nat}

theorem Proceeds.busy (proceeds : Proceeds Tags s t) : t.busy = s.busy := by
  induction proceeds with
  | deed deed =>
    rcases deed.steady with steady | ⟨_, _, rfl⟩
    · exact steady.busy
    · rfl
  | trans _ _ first second => exact second.trans first
  | run _ inside => exact inside
  | call _ _ _ _ inside =>
    exact (congrArg (List.erase · _) inside).trans (List.erase_cons_head _ _)

/-- Observers that are busy stay so, whatever is done in runs and calls. -/
theorem Passes.busy (passes : Passes Tags s u) : s.busy <:+ u.busy := by
  induction passes with
  | now before => exact before.busy ▸ List.suffix_refl _
  | running before _ ih => exact before.busy ▸ ih
  | called before _ _ _ _ ih => exact before.busy ▸ (List.suffix_cons _ _).trans ih

/-- While an observer is busy its listener is not called through it. -/
theorem Proceeds.spares (proceeds : Proceeds Tags s t) (busy : id ∈ s.busy) :
    ∃ later, t.history = later ++ s.history ∧ ∀ listener r, .called listener id r ∉ later := by
  induction proceeds with
  | deed deed =>
    rcases deed.steady with steady | ⟨_, _, rfl⟩
    · obtain ⟨later, told, within⟩ := steady.told
      exact ⟨later, told, fun _ _ member => within _ member⟩
    · exact ⟨[], rfl, by simp⟩
  | trans before _ first second =>
    obtain ⟨es, told, spared⟩ := first busy
    obtain ⟨fs, toldNext, sparedNext⟩ := second (before.busy ▸ busy)
    refine ⟨fs ++ es, by rw [toldNext, told, List.append_assoc], fun listener r member => ?_⟩
    rcases List.mem_append.mp member with later | earlier
    · exact sparedNext listener r later
    · exact spared listener r earlier
  | @run t s name _ inside =>
    obtain ⟨later, told, spared⟩ := inside busy
    refine ⟨.ended name :: (later ++ [.began name]), ?_, ?_⟩
    · show .ended name :: t.history = _
      rw [told]
      simp [enterRun, add, setBuffer]
    · simpa using spared
  | @call t s o listener r _ _ idle _ inside =>
    obtain ⟨later, told, spared⟩ := inside (List.mem_cons_of_mem _ busy)
    have other : o.id ≠ id := by
      rintro rfl
      rw [← Bool.not_eq_true, isBusy, List.contains_iff_mem] at idle
      exact idle busy
    refine ⟨.returned o.id :: (later ++ [.called listener o.id r, .captured r]), ?_, ?_⟩
    · show .returned o.id :: t.history = _
      rw [told]
      simp [enterListener, add]
    · simpa [Ne.symm other] using spared

/-- The state of the calls is what the history tells of them. -/
structure Attended (s : Session) : Prop where
  busy : s.busy = openCalls s.history
  minds : Event.Each Event.MindsCalls s.history

namespace Attended

theorem of_event {e : Event} (attended : s.Attended) (busy : t.busy = s.busy)
    (history : t.history = e :: s.history) (minds : e.MindsCalls s.history)
    (apart : openCalls (e :: s.history) = openCalls s.history) : t.Attended where
  busy := by rw [busy, history, apart, attended.busy]
  minds := history ▸ Event.each_cons.mpr ⟨minds, attended.minds⟩

theorem deed (attended : s.Attended) (deed : Deed Tags s t) : t.Attended := by
  rcases deed.steady with steady | ⟨_, _, rfl⟩
  · obtain ⟨later, told, within⟩ := steady.told
    constructor
    · rw [steady.busy, told, Event.Within.openCalls_append within, attended.busy]
    · rw [told]
      refine Event.each_append attended.minds fun e member between suffix => ?_
      have before : openCalls (between ++ s.history) = s.busy :=
        (Event.Within.openCalls_append fun other inside =>
          within other (suffix.subset inside)).trans attended.busy.symm
      have here := within e member
      cases e with
      | called | returned => exact here.elim
      | dropped observer =>
        show observer ∈ openCalls (between ++ s.history)
        rw [before]
        exact here
      | _ => trivial
  · exact ⟨attended.busy, attended.minds⟩

theorem enterRun (attended : s.Attended) (buffer : String) : (s.enterRun buffer).Attended :=
  attended.of_event rfl rfl trivial rfl

theorem leaveRun (attended : s.Attended) (buffer : String) (testId : Option String) :
    (s.leaveRun buffer testId).Attended :=
  attended.of_event rfl rfl trivial rfl

theorem enterListener {listener : String} {r : Record} (attended : s.Attended)
    (idle : s.isBusy o = false) :
    ((s.add (.captured r)).enterListener o listener r).Attended := by
  have captured : (s.add (.captured r)).Attended := attended.of_event rfl rfl trivial rfl
  have free : o.id ∉ openCalls s.history := by
    rw [← attended.busy, ← List.contains_iff_mem, Bool.not_eq_true]
    exact idle
  exact ⟨congrArg (o.id :: ·) attended.busy, Event.each_cons.mpr ⟨free, captured.minds⟩⟩

theorem leaveListener (attended : s.Attended) (innermost : s.busy.head? = some o.id) :
    (s.leaveListener o).Attended where
  busy := congrArg (List.erase · o.id) attended.busy
  minds := Event.each_cons.mpr ⟨attended.busy ▸ innermost, attended.minds⟩

theorem proceeds (attended : s.Attended) (proceeds : Proceeds Tags s t) : t.Attended := by
  induction proceeds with
  | deed deed => exact attended.deed deed
  | trans _ _ first second => exact second (first attended)
  | run _ inside => exact (inside (attended.enterRun _)).leaveRun _ _
  | call _ _ idle inner inside =>
    refine (inside (attended.enterListener idle)).leaveListener ?_
    rw [inner.busy]
    rfl

theorem passes (attended : s.Attended) (passes : Passes Tags s u) : u.Attended := by
  induction passes with
  | now before => exact attended.proceeds before
  | running before _ ih => exact ih ((attended.proceeds before).enterRun _)
  | called before _ _ idle _ ih => exact ih ((attended.proceeds before).enterListener idle)

end Attended

/-- Nothing has happened yet, and there are no observers. -/
structure Unattended (s : Session) : Prop where
  history : s.history = []
  busy : s.busy = []
  frames : s.sinks.frames = []
  hook : ∀ o, s.sinks.facility.hook ≠ some (.observer o)
  observers : s.observers = []
  next : 0 < s.nextObserver

namespace Unattended

theorem attended (unattended : s.Unattended) : s.Attended where
  busy := by rw [unattended.busy, unattended.history]; rfl
  minds := unattended.history ▸ Event.each_nil _

/-- A name that was never given leads to the observer of no buffer. -/
theorem numbered (unattended : s.Unattended) : s.Numbered := by
  have nameless : ∀ o, s.Known o → o = ⟨0, .buffer ""⟩ := by
    rintro o ((hook | ⟨frame, member, _⟩) | ⟨name, rfl⟩)
    · exact absurd hook (unattended.hook o)
    · rw [unattended.frames] at member
      cases member
    · simp [observer, unattended.observers, Table.get?]
  constructor
  · intro o known
    rw [nameless o known]
    exact unattended.next
  · simp [unattended.busy]
  · intro o p first second _
    rw [nameless o first, nameless p second]

/-- A policy that is put in force at the start calls no listener. -/
theorem of_start (scene : Scene) (policy : Policy.Update) (filters : List Filter)
    (modules : Modules) (buffers : Table Buffer) (cwd : String) :
    (Session.start scene policy filters modules buffers cwd).Unattended := by
  let before := Session.fresh scene filters modules buffers cwd
  let configured := (before.configure scene.disk policy).2
  have same : before.SameObservers configured := .configure scene.disk before policy
  have steady : before.Steady configured := .configure scene.disk before policy
  have sinks : configured.sinks = before.sinks := same.sinks
  refine ⟨rfl, steady.busy, congrArg Sinks.frames sinks, fun o hook => ?_, same.observers, ?_⟩
  · have ambient : before.sinks.facility.hook = some (.observer o) := sinks ▸ hook
    cases ambient
  · exact Nat.lt_of_lt_of_eq Nat.one_pos same.next.symm

end Unattended

/-- A record is passed to a listener through an idle observer, and nothing of it is left when the
call is over. -/
structure Attends (scene : Scene) (s : Session) (o : Observer) (listener : String) (r : Record)
    (attempt : Attempt Unit) : Prop where
  /-- The exception of the listener is raised, if there is one. -/
  outcome : attempt.1 = (scene.listener listener).raises.elim (.ok ()) .error
  /-- The listener is called once through the observer. -/
  once : ∃ later, attempt.2.history = later ++ .called listener o.id r :: .captured r :: s.history ∧
    ∀ other again, .called other o.id again ∉ later
  /-- The observer is busy throughout the call. -/
  meanwhile : ∀ v, Passes (fun _ => True) ((s.add (.captured r)).enterListener o listener r) v →
    v.isBusy o = true
  others : ∀ p, p.id ≠ o.id →
    ((s.add (.captured r)).enterListener o listener r).isBusy p = s.isBusy p
  /-- All observers, this one and others, are as busy as before. -/
  after : attempt.2.busy = s.busy

theorem callObserver_attends (scene : Scene) (depth : Nat) {listener : String} {message : Printable}
    {category : Category} {file : Printable} {line : Value} {r : Record}
    (collector : o.collector = .listener listener)
    (converted : Record.ofShown message category file line = .ok r) (idle : s.isBusy o = false) :
    Attends scene s o listener r
      (s.callObserver (scene.reaction depth) o message category file line) := by
  let entered := (s.add (.captured r)).enterListener o listener r
  let inside := (scene.reaction depth listener r entered).2
  have delivered : s.callObserver (scene.reaction depth) o message category file line =
      ((scene.reaction depth listener r entered).1, inside.leaveListener o) := by
    have free : (s.add (.captured r)).isBusy o = false := idle
    simp only [callObserver, converted, deliver, collector, free]
    rfl
  have proceeds : Proceeds (fun _ => True) entered inside :=
    reaction_proceeds (fun _ => allThroughout_of_forall Step.tagsWithin_anything _) depth
      listener r entered
  have running : o.id ∈ entered.busy := List.mem_cons_self
  rw [delivered]
  constructor
  · cases depth <;> rfl
  · obtain ⟨later, told, spared⟩ := proceeds.spares running
    refine ⟨.returned o.id :: later, congrArg (Event.returned o.id :: ·) told, ?_⟩
    simpa using spared
  · intro v passes
    exact List.contains_iff_mem.mpr (passes.busy.subset running)
  · intro p other
    show (o.id :: s.busy).contains p.id = s.busy.contains p.id
    simp [other]
  · show inside.busy.erase o.id = s.busy
    rw [proceeds.busy]
    exact List.erase_cons_head _ _

/-- At every moment of a session, an observer is busy if and only if a call of its listener is in
progress. No listener was ever called through a busy observer, and nothing was dropped but by busy
observers. What reaches an observer over a listener now is dropped and the call returns, if the
observer is busy, and is passed to the listener once, if not. Observers are told apart by their
numbers, so none is busy on account of another. -/
theorem listeners_are_never_reentered (start u : Session) (unattended : start.Unattended)
    (now : Passes Tags start u) :
    (∀ o, u.isBusy o = true ↔ o.id ∈ openCalls u.history) ∧
    (∀ listener id r earlier, .called listener id r :: earlier <:+ u.history →
      id ∉ openCalls earlier) ∧
    (∀ id r earlier, .dropped id r :: earlier <:+ u.history → id ∈ openCalls earlier) ∧
    (∀ o p, u.Known o → u.Known p → o.id = p.id → o = p) ∧
    (∀ collector, u.isBusy (u.newObserver collector).1 = false ∧
      ∀ o, u.Known o → o.id ≠ (u.newObserver collector).1.id) ∧
    ∀ (scene : Scene) depth o listener message category file line r,
      o.collector = .listener listener → Record.ofShown message category file line = .ok r →
      (u.isBusy o = true →
        u.callObserver (scene.reaction depth) o message category file line =
          (.ok (), (u.add (.captured r)).dropRecord o r)) ∧
      (u.isBusy o = false → Attends scene u o listener r
        (u.callObserver (scene.reaction depth) o message category file line)) := by
  have attended : u.Attended := unattended.attended.passes now
  have numbered : u.Numbered := unattended.numbered.passes now
  refine ⟨fun o => ?_, ?_, ?_, numbered.unique, numbered.newObserver, ?_⟩
  · rw [isBusy, List.contains_iff_mem, attended.busy]
  · intro listener id r earlier suffix
    exact attended.minds _ _ suffix
  · intro id r earlier suffix
    exact attended.minds _ _ suffix
  · intro scene depth o listener message category file line r collector converted
    refine ⟨fun busy => ?_, callObserver_attends scene depth collector converted⟩
    have running : (u.add (.captured r)).isBusy o = true := busy
    simp only [callObserver, converted, deliver, collector, running, if_true]

/-- A listener that in its first call warns, is called directly through the two observers over it,
and captures into itself, and that raises in every call. -/
def restless : Scene :=
  { listeners := [("listener", {
      steps := [.warn "again" .warning "file.py" 1,
        .callObserver "first" (.value (.text "direct")) .warning (.value (.text "file.py"))
          (.int 2),
        .callObserver "second" (.value (.text "other")) .warning (.value (.text "file.py"))
          (.int 3),
        .collect "listener" {} [.warn "inner" .warning "file.py" 4] (.returns .null)]
      raises := some (.raised "ValueError" "raised") })] }

/-- Two observers over the listener, of which the first is in place. -/
def overheard : Session :=
  restless.play [.observe "first" "listener", .observe "second" "listener", .push "guard" "first"]
    bare

def firstObserver : Observer := ⟨1, .listener "listener"⟩

/-- The first observer is called directly. -/
def heard : Attempt Unit :=
  overheard.callObserver (restless.reaction 1) firstObserver (.value (.text "message")) .warning
    (.value (.text "file.py")) (.int 5)

/-- Whether a record was passed to a listener or dropped, and the number of the observer. -/
def reached? : Event → Option (Bool × Nat)
  | .called _ observer _ => some (true, observer)
  | .dropped observer _ => some (false, observer)
  | _ => none

/-- During the call two records are dropped, and two reach the listener through other observers. -/
theorem restless_listener_is_entered_once :
    bare.Unattended ∧ Passes (fun _ => True) bare overheard ∧
    firstObserver.collector = .listener "listener" ∧ overheard.isBusy firstObserver = false ∧
    heard.1 = .error (.raised "ValueError" "raised") ∧ heard.2.isBusy firstObserver = false ∧
    heard.2.history.filterMap reached? =
      [(true, 3), (true, 2), (false, 1), (false, 1), (true, 1)] := by
  have unattended : bare.Unattended := .of_start {} {} [] {} [] "/"
  have now : Passes (fun _ => True) bare overheard :=
    .now (play_proceeds restless (fun _ => allThroughout_of_forall Step.tagsWithin_anything _) _
      (allThroughout_of_forall Step.tagsWithin_anything _) bare)
  have idle : overheard.isBusy firstObserver = false := by decide +kernel
  obtain ⟨_, _, _, _, _, calls⟩ := listeners_are_never_reentered bare overheard unattended now
  have attends : Attends restless overheard firstObserver "listener" _ heard :=
    (calls restless 1 firstObserver "listener" _ .warning _ _ _ rfl rfl).2 idle
  refine ⟨unattended, now, rfl, idle, attends.outcome, ?_, by decide +kernel⟩
  rw [isBusy, attends.after]
  exact idle

end Session
end WarningCapture
