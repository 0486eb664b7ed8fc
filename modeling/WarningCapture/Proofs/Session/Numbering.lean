import WarningCapture.Proofs.Session.Proceeding

/-! Observers are told apart by their numbers. Each new one gets a number above all those in use, so
whatever stands in for the hook, is to stand in for it again, has a name or has its listener running
is known by its number alone. -/
namespace WarningCapture

/-- The observer stands in for the hook, or a sink that is taken off puts it there again. -/
def Sinks.Holds (s : Sinks) (o : Observer) : Prop :=
  s.facility.hook = some (.observer o) ∨ ∃ frame ∈ s.frames, frame.hook = .observer o

namespace Sinks
variable {s : Sinks} {o p : Observer}

theorem holds_push (held : (s.act (.push o)).Holds p) : s.Holds p ∨ p = o := by
  rcases s.push_cases o with ⟨frame, installs⟩ | refuses
  · rcases held with hook | ⟨other, member, hook⟩
    · have same := installs.observing.symm.trans hook
      cases same
      exact .inr rfl
    · have frames : (s.act (.push o)).frames = s.frames ++ [frame] := installs.frames
      rw [frames] at member
      rcases List.mem_append.mp member with older | newest
      · exact .inl (.inr ⟨other, older, hook⟩)
      · rw [List.mem_singleton.mp newest] at hook
        exact .inl (.inl (installs.hook.trans (congrArg some hook)))
  · rcases held with hook | ⟨other, member, hook⟩
    · exact .inl (.inl (refuses.facility.hook.symm.trans hook))
    · have frames : (s.act (.push o)).frames = s.frames := refuses.frames
      rw [frames] at member
      exact .inl (.inr ⟨other, member, hook⟩)

theorem holds_takesOff {m : Move} {token : Nat} (takes : m.TakesOff token)
    (held : (s.act m).Holds p) : s.Holds p := by
  rw [act_takesOff takes false] at held
  cases found : s.find? token with
  | none =>
    rw [(release_gone found false).2] at held
    exact held
  | some frame =>
    obtain ⟨_, above, stack⟩ := find_stack found
    rcases held with hook | ⟨other, member, hook⟩
    · rw [(release_found found false).2, Frame.restore_hook] at hook
      split at hook
      · exact .inl hook
      · have inside : frame ∈ s.frames := by simp [stack]
        exact .inr ⟨frame, inside, Option.some.inj hook⟩
    · rw [release_frames] at member
      exact .inr ⟨other, (s.below_prefix token).subset member, hook⟩

end Sinks

namespace Session
variable {Tags : Option String → Prop} {s t u : Session} {o p : Observer}

/-- The observer may come to be called: the sinks hold it, or it has a name. -/
def Known (s : Session) (o : Observer) : Prop := s.sinks.Holds o ∨ ∃ name, s.observer name = o

theorem Reaches.known (reaches : s.Reaches o) : s.Known o := by
  rcases reaches with hook | named
  · exact .inl (.inl hook)
  · exact .inr named

theorem Known.of_same (sinks : t.sinks = s.sinks) (observers : t.observers = s.observers)
    (known : t.Known o) : s.Known o := by
  simpa only [Known, observer, sinks, observers] using known

/-- The observers that may come to be called are the same. -/
structure SameObservers (s t : Session) : Prop where
  sinks : t.sinks = s.sinks
  observers : t.observers = s.observers
  next : t.nextObserver = s.nextObserver

namespace SameObservers

theorem of_remarked (remarked : s.Remarked t) : s.SameObservers t := by
  obtain ⟨es, rfl, _⟩ := remarked
  exact ⟨rfl, rfl, rfl⟩

theorem applyPolicy (disk : String → Log.Opening) (s : Session) (p : Policy) :
    s.SameObservers (s.applyPolicy disk p) := by
  let put : Session := { s with policy := p }
  let complained := put.noteAll (put.logger.levelNotices p.logLevel)
  let levelled : Session := { complained with logger := complained.logger.setLevel p.logLevel }
  have first : put.SameObservers complained := .of_remarked (noteAll_remarked _ _)
  have second : levelled.SameObservers
      (levelled.noteAll (Log.Logger.fileNotices disk p.logFile)) :=
    .of_remarked (noteAll_remarked _ _)
  exact ⟨second.sinks.trans first.sinks, second.observers.trans first.observers,
    second.next.trans first.next⟩

theorem configure (disk : String → Log.Opening) (s : Session) (u : Policy.Update) :
    s.SameObservers (s.configure disk u).2 := by
  unfold Session.configure
  split
  · exact of_remarked (s.report_remarked _)
  · exact applyPolicy disk s _

end SameObservers

/-- From one session to the other nothing comes to be known, or the next new observer does. -/
inductive Introduces (s t : Session) : Prop where
  | nothing : (∀ o, t.Known o → s.Known o) → t.nextObserver = s.nextObserver → Introduces s t
  | new (collector : Collector) :
      (∀ o, t.Known o → s.Known o ∨ o = (s.newObserver collector).1) →
      t.nextObserver = s.nextObserver + 1 → Introduces s t

theorem SameObservers.introduces (same : s.SameObservers t) : Introduces s t :=
  .nothing (fun _ => Known.of_same same.sinks same.observers) same.next

theorem observer_nameObserver (s : Session) (name other : String) (collector : Collector) :
    (s.nameObserver name collector).observer other =
      if other = name then (s.newObserver collector).1 else s.observer other := by
  show (Table.get? other (Table.put name (s.newObserver collector).1 s.observers)).getD _ = _
  by_cases here : other = name
  · rw [if_pos here, here, Table.get?_put_self, Option.getD_some]
  · rw [if_neg here, Table.get?_put_of_ne (Ne.symm here), observer]

theorem Deed.introduces (deed : Deed Tags s t) : Introduces s t := by
  cases deed with
  | arrange | tag | tell | store | place | takeOut | sweep | touch | close =>
    exact SameObservers.introduces ⟨rfl, rfl, rfl⟩
  | note _ n => exact (SameObservers.of_remarked (s.note_remarked n)).introduces
  | report _ err => exact (SameObservers.of_remarked (s.report_remarked err)).introduces
  | applyPolicy _ disk p => exact (SameObservers.applyPolicy disk s p).introduces
  | @dismiss o _ _ r =>
    have dropped : (s.add (.captured r)).SameObservers ((s.add (.captured r)).dropRecord o r) :=
      .of_remarked ((add_remarked _ rfl).trans (note_remarked _ _))
    exact SameObservers.introduces ⟨dropped.sinks, dropped.observers, dropped.next⟩
  | nameObserver _ name collector =>
    refine .new collector (fun o known => ?_) rfl
    rcases known with held | ⟨other, named⟩
    · exact .inl (.inl held)
    · rw [observer_nameObserver] at named
      split at named
      · exact .inr named.symm
      · exact .inl (.inr ⟨other, named⟩)
  | write _ kept =>
    refine .nothing (fun o known => ?_) rfl
    rcases known with (hook | member) | named
    · exact .inl (.inl (kept o hook))
    · exact .inl (.inr member)
    · exact .inr named
  | pushNamed _ name =>
    refine .nothing (fun o known => ?_) rfl
    rcases known with held | named
    · rcases Sinks.holds_push held with held | rfl
      · exact .inl held
      · exact .inr ⟨name, rfl⟩
    · exact .inr named
  | pushNew _ collector =>
    refine .new collector (fun o known => ?_) rfl
    rcases known with held | named
    · rcases Sinks.holds_push held with held | new
      · exact .inl (.inl held)
      · exact .inr new
    · exact .inl (.inr named)
  | takeOff _ takes =>
    refine .nothing (fun o known => ?_) rfl
    rcases known with held | named
    · exact .inl (Sinks.holds_takesOff takes held)
    · exact .inr named

/-- Known and busy observers have different numbers, all of them handed out before. -/
structure Numbered (s : Session) : Prop where
  known : ∀ o, s.Known o → o.id < s.nextObserver
  busy : ∀ id ∈ s.busy, id < s.nextObserver
  unique : ∀ o p, s.Known o → s.Known p → o.id = p.id → o = p

namespace Numbered

theorem introduces (numbered : s.Numbered) (introduces : Introduces s t)
    (busy : t.busy = s.busy) : t.Numbered := by
  cases introduces with
  | nothing known next =>
    constructor
    · intro o here
      rw [next]
      exact numbered.known o (known o here)
    · rw [next, busy]
      exact numbered.busy
    · intro o p first second
      exact numbered.unique o p (known o first) (known p second)
  | new collector known next =>
    constructor
    · intro o here
      rw [next]
      rcases known o here with before | rfl
      · exact Nat.lt_succ_of_lt (numbered.known o before)
      · exact Nat.lt_succ_self _
    · intro id member
      rw [next]
      rw [busy] at member
      exact Nat.lt_succ_of_lt (numbered.busy id member)
    · intro o p first second same
      rcases known o first with old | rfl
      · rcases known p second with older | rfl
        · exact numbered.unique o p old older same
        · exact absurd same (Nat.ne_of_lt (numbered.known o old))
      · rcases known p second with older | rfl
        · exact absurd same.symm (Nat.ne_of_lt (numbered.known p older))
        · rfl

theorem enterRun (numbered : s.Numbered) (buffer : String) : (s.enterRun buffer).Numbered :=
  numbered.introduces (SameObservers.introduces ⟨rfl, rfl, rfl⟩) rfl

theorem leaveRun (numbered : s.Numbered) (buffer : String) (testId : Option String) :
    (s.leaveRun buffer testId).Numbered :=
  numbered.introduces (SameObservers.introduces ⟨rfl, rfl, rfl⟩) rfl

theorem enterListener {listener : String} {r : Record} (numbered : s.Numbered)
    (known : s.Known o) : ((s.add (.captured r)).enterListener o listener r).Numbered where
  known := numbered.known
  busy := List.forall_mem_cons.mpr ⟨numbered.known o known, numbered.busy⟩
  unique := numbered.unique

theorem leaveListener (numbered : s.Numbered) (o : Observer) : (s.leaveListener o).Numbered where
  known := numbered.known
  busy id member := numbered.busy id (List.mem_of_mem_erase member)
  unique := numbered.unique

theorem deed (numbered : s.Numbered) (deed : Deed Tags s t) : t.Numbered := by
  refine numbered.introduces deed.introduces ?_
  rcases deed.steady with steady | ⟨_, _, rfl⟩
  · exact steady.busy
  · rfl

theorem proceeds (numbered : s.Numbered) (proceeds : Proceeds Tags s t) : t.Numbered := by
  induction proceeds with
  | deed deed => exact numbered.deed deed
  | trans _ _ first second => exact second (first numbered)
  | run _ inside => exact (inside (numbered.enterRun _)).leaveRun _ _
  | call reaches _ _ _ inside =>
    exact (inside (numbered.enterListener reaches.known)).leaveListener _

theorem passes (numbered : s.Numbered) (passes : Passes Tags s u) : u.Numbered := by
  induction passes with
  | now before => exact numbered.proceeds before
  | running before _ ih => exact ih ((numbered.proceeds before).enterRun _)
  | called before reaches _ _ _ ih =>
    exact ih ((numbered.proceeds before).enterListener reaches.known)

/-- A new observer is none of the known ones, and its listener is not running. -/
theorem newObserver (numbered : s.Numbered) (collector : Collector) :
    s.isBusy (s.newObserver collector).1 = false ∧
      ∀ o, s.Known o → o.id ≠ (s.newObserver collector).1.id := by
  constructor
  · rw [← Bool.not_eq_true, isBusy, List.contains_iff_mem]
    intro member
    exact Nat.lt_irrefl _ (numbered.busy _ member)
  · intro o known
    exact Nat.ne_of_lt (numbered.known o known)

end Numbered

end Session
end WarningCapture
