import WarningCapture.Proofs.Session.Answering
import WarningCapture.Proofs.Session.Balancing
import WarningCapture.Proofs.Session.Reentering

/-! Metrics balance. What is counted when records are taken out or emitted again is what the
operation returns, however ends of tests are nested, and what fails or finds nothing is not
counted. -/
namespace WarningCapture

namespace Event

/-- The records that a flush took out. -/
def flush? : Event → Option (List Record)
  | flushed _ records => some records
  | _ => none

/-- The exceptions that emitting records again raised. -/
def replay? : Event → Option (List Fault)
  | replayed _ _ raised => some raised
  | _ => none

/-- The records that a finished flush returned. -/
def flushResult? : Event → Option (List Record)
  | finished entry =>
      match entry.outcome with
      | .returned (.records records) => if entry.step = "flush" then some records else none
      | _ => none
  | _ => none

/-- The exceptions that a finished end of a test returned. -/
def finishResult? : Event → Option (List Fault)
  | finished entry =>
      match entry.outcome with
      | .returned (.faults raised) => if entry.step = "finish" then some raised else none
      | _ => none
  | _ => none

theorem answer_records (e : Event) : e.answer?.bind Answer.records? = e.flush? := by
  cases e <;> rfl

theorem answer_faults (e : Event) : e.answer?.bind Answer.faults? = e.replay? := by
  cases e <;> rfl

theorem shows_results (e : Event) : e.shows?.bind Answer.records? = e.flushResult? ∧
    e.shows?.bind Answer.faults? = e.finishResult? := by
  cases e with
  | finished entry =>
    obtain ⟨step, outcome⟩ := entry
    cases outcome with
    | silent => exact ⟨rfl, rfl⟩
    | failed f => cases f <;> exact ⟨rfl, rfl⟩
    | returned result =>
      cases result with
      | records records =>
        by_cases flush : step = "flush" <;> simp [shows?, Outcome.answer?, flushResult?,
          finishResult?, flush, Answer.records?, Answer.faults?]
      | faults raised =>
        by_cases finish : step = "finish" <;> simp [shows?, Outcome.answer?, flushResult?,
          finishResult?, finish, Answer.records?, Answer.faults?]
      | _ => exact ⟨rfl, rfl⟩
  | _ => exact ⟨rfl, rfl⟩

end Event

namespace Session
variable {Tags : Option String → Prop} {s t u : Session} {buffer : String} {es fs : List Event}

/-- The records that were taken out to be emitted again, with their buffers, where this is not over;
the innermost first. -/
def openReplays : List Event → List (String × List Record)
  | [] => []
  | .taken buffer records .replayed :: rest => (buffer, records) :: openReplays rest
  | .replayed .. :: rest => (openReplays rest).tail
  | _ :: rest => openReplays rest

/-- When records have been emitted again, their number and that of the exceptions are told: it is
those that were taken out last of those not emitted yet. -/
def CountsReplay (e : Event) (earlier : List Event) : Prop :=
  match e with
  | .replayed buffer count raised => ∃ records,
      (openReplays earlier).head? = some (buffer, records) ∧ count = records.length ∧
        raised.length ≤ count
  | _ => True

theorem CountsReplay.append {e : Event} (counts : CountsReplay e es)
    (same : openReplays (es ++ fs) = openReplays es ++ openReplays fs) :
    CountsReplay e (es ++ fs) := by
  cases e with
  | replayed =>
    obtain ⟨records, innermost, count, bound⟩ := counts
    refine ⟨records, ?_, count, bound⟩
    rw [same, List.head?_append, innermost]
    rfl
  | _ => trivial

theorem openReplays_append (counts : Event.Each CountsReplay es) (fs : List Event) :
    openReplays (es ++ fs) = openReplays es ++ openReplays fs := by
  induction es with
  | nil => rfl
  | cons e rest ih =>
    obtain ⟨here, before⟩ := Event.each_cons.mp counts
    have inner := ih before
    cases e with
    | replayed =>
      obtain ⟨_, innermost, _⟩ := here
      show (openReplays (rest ++ fs)).tail = (openReplays rest).tail ++ openReplays fs
      rw [inner, List.tail_append_of_ne_nil]
      rintro empty
      rw [empty] at innermost
      cases innermost
    | taken buffer records fate =>
      cases fate with
      | replayed => exact congrArg ((buffer, records) :: ·) inner
      | discarded | lost => exact inner
    | _ => exact inner

theorem countsReplay_append (before : Event.Each CountsReplay es)
    (after : Event.Each CountsReplay fs) : Event.Each CountsReplay (fs ++ es) := by
  induction fs with
  | nil => exact before
  | cons e rest ih =>
    obtain ⟨here, earlier⟩ := Event.each_cons.mp after
    exact Event.each_cons.mpr ⟨here.append (openReplays_append earlier es), ih earlier⟩

/-- Whatever was taken out to be emitted again has been, and the counts told are right. -/
structure Settled (es : List Event) : Prop where
  counts : Event.Each CountsReplay es
  closed : openReplays es = []

namespace Settled

theorem append (first : Settled es) (second : Settled fs) : Settled (fs ++ es) where
  counts := countsReplay_append first.counts second.counts
  closed := by
    rw [openReplays_append second.counts, first.closed, second.closed]
    rfl

theorem nil : Settled [] := ⟨Event.each_nil _, rfl⟩

theorem cons {e : Event} (apart : openReplays (e :: es) = openReplays es)
    (counts : CountsReplay e es) (settled : Settled es) : Settled (e :: es) :=
  ⟨Event.each_cons.mpr ⟨counts, settled.counts⟩, apart.trans settled.closed⟩

theorem of_quiet (quiet : ∀ e ∈ es, e.quiet = true) : Settled es := by
  induction es with
  | nil => exact .nil
  | cons e rest ih =>
    have before := ih fun other member => quiet other (List.mem_cons_of_mem e member)
    have here := quiet e List.mem_cons_self
    cases e with
    | reported | flushed | replayed | finished => cases here
    | taken _ _ fate => cases fate <;> first | exact before.cons rfl trivial | cases here
    | _ => exact before.cons rfl trivial

/-- Between the two events of a replay, everything that was taken out is emitted again. -/
theorem replay {buffer : String} {records : List Record} {raised : List Fault}
    (inside : Settled es) (bound : raised.length ≤ records.length) :
    Settled (.replayed buffer records.length raised ::
      (es ++ [.taken buffer records .replayed])) := by
  have taken : Event.Each CountsReplay [.taken buffer records .replayed] :=
    Event.each_cons.mpr ⟨trivial, Event.each_nil _⟩
  have opened : openReplays (es ++ [.taken buffer records .replayed]) = [(buffer, records)] := by
    rw [openReplays_append inside.counts, inside.closed]
    rfl
  constructor
  · refine Event.each_cons.mpr ⟨⟨records, ?_, rfl, bound⟩, countsReplay_append taken inside.counts⟩
    rw [opened]
    rfl
  · exact congrArg List.tail opened

end Settled

/-- What is told of replays is right, however they are nested. -/
theorem Conducts.settles {given : CaptureError → Prop} {Sets : Policy → Policy → Prop}
    {answer : Option Answer} (conducts : Conducts given Sets s answer t) :
    ∃ later, t.history = later ++ s.history ∧ Settled later := by
  induction conducts with
  | quiet quiet =>
    obtain ⟨later, told, quiet⟩ := quiet.told
    exact ⟨later, told, .of_quiet quiet⟩
  | trans _ _ first second =>
    obtain ⟨es, told, before⟩ := first
    obtain ⟨fs, toldNext, after⟩ := second
    exact ⟨fs ++ es, by rw [toldNext, told, List.append_assoc], before.append after⟩
  | settle _ quiet ih =>
    obtain ⟨es, told, before⟩ := ih
    obtain ⟨fs, toldNext, quiet⟩ := quiet.told
    exact ⟨fs ++ es, by rw [toldNext, told, List.append_assoc], before.append (.of_quiet quiet)⟩
  | apply s disk =>
    obtain ⟨_, _, lines, quiet, told⟩ := s.applyPolicy_told disk _
    exact ⟨lines, told, .of_quiet quiet⟩
  | report s err =>
    obtain ⟨_, _, lines, quiet, told⟩ := s.report_told err
    refine ⟨_, told.trans (List.append_cons _ _ _), ?_⟩
    have first : Settled [.reported err] := Settled.nil.cons rfl trivial
    have reported : Settled (lines ++ [.reported err]) := first.append (.of_quiet quiet)
    rw [List.append_assoc]
    split
    · exact reported.cons rfl trivial
    · exact reported
  | again | pass => exact ⟨[], rfl, .nil⟩
  | flush _ buffer records => exact ⟨[.flushed buffer records], rfl, .cons rfl trivial .nil⟩
  | @replay t s raised buffer fate _ bound ih =>
    obtain ⟨es, told, inside⟩ := ih
    have settled : Settled (.replayed buffer (s.pendingIn buffer).length raised ::
      (es ++ [.taken buffer (s.pendingIn buffer) .replayed])) := inside.replay bound
    refine ⟨_, ?_, settled⟩
    show _ :: t.history = _
    rw [told, sweep, fate]
    simp [add, setBuffer, pendingIn]
  | close step outcome _ ih =>
    obtain ⟨es, told, inside⟩ := ih
    exact ⟨_ :: es, congrArg (_ :: ·) told, inside.cons rfl trivial⟩

/-- A replay takes out records that are pending, and raises no more exceptions than it has records
to emit again. -/
theorem finish_replays (react : Reaction) (replays : s.fate = .replayed)
    (something : s.pendingIn buffer ≠ []) :
    ∃ raised, ∃ t : Session, s.finish react buffer =
        (.ok raised, t.add (.replayed buffer (s.pendingIn buffer).length raised)) ∧
      raised.length ≤ (s.pendingIn buffer).length := by
  have bound := emitAll_length react s.sinks.facility.warnExplicit buffer
    (s.buffer buffer).records (s.sweep buffer)
  rcases s.finish_cases react buffer with
    ⟨empty, _⟩ | ⟨fate, _⟩ | ⟨fate, _⟩ | ⟨_, raised, t, emitted, same⟩
  · exact absurd empty something
  · cases replays.symm.trans fate
  · cases replays.symm.trans fate
  · rw [emitted] at bound
    exact ⟨raised, t, same, bound⟩

/-- Nothing was counted. -/
def Unmeasured (s t : Session) : Prop :=
  ∃ later, t.history = later ++ s.history ∧ ∀ e ∈ later, e.metric? = none

theorem Spoke.unmeasured (spoke : s.Spoke t) : s.Unmeasured t := by
  obtain ⟨later, told, spoken⟩ := spoke.told
  exact ⟨later, told, fun e member => (Event.spoken_nothing (spoken e member)).2.2.1⟩

/-- A flush that fails says nothing but that. -/
theorem flush_spoke {objects : HostObjects} {targets : TargetList} {f : Fault}
    (failed : (s.flush objects buffer targets).1 = .error f) :
    s.Spoke (s.flush objects buffer targets).2 := by
  unfold flush at failed ⊢
  split
  · cases failed
  · exact .of_same rfl rfl
  · split
    · exact .report s _
    · rename_i resolved
      simp only [resolved] at failed
      cases failed

theorem scrubWith_spoke {σ κ : Type} [DecidableEq κ] {r : Registry σ κ} {x : σ}
    {err : CaptureError} (failed : (s.scrubWith r x).1 = .error err) :
    s.Spoke (s.scrubWith r x).2.2 := by
  have walked : s.Spoke (s.noteAll ((r.walk s.policy.maxScrubPasses x).1.notices
    s.policy.maxScrubPasses)) := .noteAll _ _
  unfold scrubWith at failed ⊢
  simp only at failed ⊢
  split
  · exact walked.trans (.note _ _)
  · rename_i ok
    rw [ok] at failed
    cases failed

theorem scrubModules_spoke {err : CaptureError} (failed : s.scrubModules.1 = .error err) :
    s.Spoke s.scrubModules.2 := by
  unfold scrubModules at failed ⊢
  cases store : s.modules.store <;> simp only [store] at failed ⊢
  case missing => exact .of_same rfl rfl
  all_goals exact (scrubWith_spoke failed).trans (.of_same rfl rfl)

theorem scrubResult_spoke {f : Fault} (failed : s.scrubResult.1 = .error f) :
    s.Spoke s.scrubResult.2 := by
  unfold scrubResult at failed ⊢
  split
  · rename_i outcome
    simp only [outcome] at failed
    cases failed
  · rename_i outcome
    have scrubbed := scrubModules_spoke (congrArg Prod.fst outcome)
    rw [outcome] at scrubbed
    exact scrubbed.trans (.report _ _)

theorem finish_unmeasured (react : Reaction)
    (nothing : s.fate = .discarded ∨ s.pendingIn buffer = []) :
    s.Unmeasured (s.finish react buffer).2 := by
  rw [finish_eq]
  split
  · exact ⟨[], rfl, by simp⟩
  · rename_i something
    rw [nothing.resolve_right something]
    obtain ⟨later, told, spoken⟩ := (Spoke.note (s.sweep buffer)
      (discardNotice (s.pendingIn buffer).length)).told
    refine ⟨later ++ [.taken buffer (s.pendingIn buffer) s.fate], ?_, fun e member => ?_⟩
    · rw [List.append_assoc]
      exact told
    · rcases List.mem_append.mp member with line | taken
      · exact (Event.spoken_nothing (spoken e line)).2.2.1
      · cases List.mem_singleton.mp taken
        rfl

/-- What is counted of a call of an observer. -/
structure CountsCall (scene : Scene) (depth : Nat) (s : Session) (o : Observer)
    (message : Printable) (category : Category) (file : Printable) (line : Value) : Prop where
  refused : ∀ f, Record.ofShown message category file line = .error f →
    s.callObserver (scene.reaction depth) o message category file line = (.error f, s)
  converted : ∀ r, Record.ofShown message category file line = .ok r → ∃ e after,
    CountsOnce (scene.reaction depth) s o r
      (s.callObserver (scene.reaction depth) o message category file line).2 e after

theorem callObserver_countsCall (scene : Scene) (depth : Nat) (s : Session) (o : Observer)
    (message : Printable) (category : Category) (file : Printable) (line : Value) :
    CountsCall scene depth s o message category file line where
  refused f failed := by simp only [callObserver, failed]
  converted _ converted := callObserver_counts scene depth s o converted

/-- What a whole session counts is what its operations return. -/
structure CountsResults (scene : Scene) (steps : List Step) (s : Session) (later : List Event) :
    Prop where
  told : (scene.play steps s).history = later ++ s.history
  /-- Flushes are counted with the records that they return. -/
  flushes : later.filterMap Event.flush? = later.filterMap Event.flushResult?
  /-- Replays are counted with the exceptions that the end of a test returns. Only an end of a test
  that returns no exceptions may go uncounted. -/
  replays : LeavesOut (· = []) (later.filterMap Event.finishResult?)
    (later.filterMap Event.replay?)
  /-- Replays are counted with the number of records that the end of the test took. -/
  numbers : Event.Each CountsReplay later

theorem play_counts (scene : Scene) (steps : List Step) (s : Session) :
    ∃ later, CountsResults scene steps s later := by
  have conducts : Conducts (fun _ => True) (fun _ _ => True) s none (scene.play steps s) :=
    play_conducts scene.handsIn_anything
      (fun _ => allThroughout_of_forall Step.setsWithin_anything _) steps
      (allThroughout_of_forall Step.handsIn_anything steps)
      (allThroughout_of_forall Step.setsWithin_anything steps) s
  obtain ⟨later, told, answers⟩ := conducts.answers
  obtain ⟨again, toldAgain, settled⟩ := conducts.settles
  obtain rfl := List.append_cancel_right (told.symm.trans toldAgain)
  have flushes := answers.filterMap (Q := fun _ => False) Answer.records? (by
    intro a records unreported same
    cases a <;> cases same
    exact unreported)
  have replays := answers.filterMap (Q := (· = [])) Answer.faults? (by
    intro a raised unreported same
    cases a <;> cases same
    exact unreported)
  simp only [Option.toList_none, List.nil_append, List.filterMap_filterMap, Event.answer_records,
    Event.answer_faults, Event.shows_results] at flushes replays
  exact ⟨later, told, flushes.eq fun _ => not_false, replays, settled.counts⟩

/-- What fails, discards or finds nothing is not counted. -/
structure LeavesUncounted (s : Session) : Prop where
  flush : ∀ objects buffer targets f, (s.flush objects buffer targets).1 = .error f →
    s.Unmeasured (s.flush objects buffer targets).2
  scrub : ∀ f, s.scrubResult.1 = .error f → s.Unmeasured s.scrubResult.2
  scrubBefore : ∀ err, s.scrubModules.1 = .error err → s.Unmeasured s.scrubBeforeCapture
  finish : ∀ react buffer, s.fate = .discarded ∨ s.pendingIn buffer = [] →
    s.Unmeasured (s.finish react buffer).2

theorem leavesUncounted (s : Session) : s.LeavesUncounted where
  flush _ _ _ _ failed := (flush_spoke failed).unmeasured
  scrub _ failed := (scrubResult_spoke failed).unmeasured
  scrubBefore err failed := by
    unfold scrubBeforeCapture
    split
    · exact (scrubModules_spoke failed).unmeasured
    · exact ⟨[], rfl, by simp⟩
  finish react _ nothing := finish_unmeasured react nothing

/-- The metrics of a session balance, that has come from one state to another. -/
structure MetricsBalance (start u : Session) : Prop where
  /-- The records that were captured are those that came to buffers and listeners or were dropped,
  and what was put into a buffer is what flushes and the ends of tests took out of it, and what is
  pending. -/
  captured : ∃ es, Balances start u es ∧
    es.countP (· matches .captured _) = es.countP (· matches .stored ..) +
      es.countP (· matches .called ..) + es.countP (· matches .dropped ..)
  /-- An observer counts what it makes a record of, once. -/
  called (scene : Scene) (depth : Nat) (o : Observer) (message : Printable) (category : Category)
    (file : Printable) (line : Value) : CountsCall scene depth u o message category file line
  /-- What is counted from here on is what operations return. -/
  played (scene : Scene) (steps : List Step) : ∃ later, CountsResults scene steps u later
  /-- The end of a test that replays returns what is counted. -/
  replayed : ∀ react buffer, u.fate = .replayed → u.pendingIn buffer ≠ [] →
    ∃ raised, ∃ t : Session, u.finish react buffer =
        (.ok raised, t.add (.replayed buffer (u.pendingIn buffer).length raised)) ∧
      raised.length ≤ (u.pendingIn buffer).length
  uncounted : u.LeavesUncounted

/-- The metrics balance at every moment, however ends of tests are nested. -/
theorem metrics_balance (start u : Session) (now : Passes Tags start u) :
    MetricsBalance start u where
  captured := by
    obtain ⟨es, balances⟩ := now.balances
    exact ⟨es, balances, balances.counts⟩
  called scene depth := callObserver_countsCall scene depth u
  played scene steps := play_counts scene steps u
  replayed react _ replays something := finish_replays react replays something
  uncounted := leavesUncounted u

/-- An observer over a listener that warns is called, and a warning is captured into a buffer. -/
def tallied : Session :=
  restless.play [.observe "first" "listener", .observe "second" "listener",
    .observeInto "third" "buffer", .push "guard" "third",
    .callObserver "first" (.value (.text "message")) .warning (.value (.text "file.py")) (.int 1),
    .warn "message" .warning "file.py" 2] bare

/-- A flush, and the end of a test with a record that is emitted again and one that is refused. -/
def clearance : List Step :=
  [.flush "buffer" none, .pushRecord "buffer" picky, .pushRecord "buffer" plain, .finish "buffer"]

/-- Of six records two are stored, three come to the listener and one is dropped. The flush returns
the two, and of the two records that are emitted again one is raised. -/
theorem six_records_are_tallied :
    Passes (fun _ => True) bare tallied ∧
    (∃ es, Balances bare tallied es ∧ es.countP (· matches .captured _) = 6 ∧
      es.countP (· matches .stored ..) + es.countP (· matches .called ..) +
        es.countP (· matches .dropped ..) = 6) ∧
    ∃ later, (restless.play clearance tallied).history = later ++ tallied.history ∧
      later.filterMap Event.flush? = later.filterMap Event.flushResult? ∧
      later.filterMap Event.finishResult? = [[.raised "TypeError" "refused message"]] ∧
      LeavesOut (· = []) [[.raised "TypeError" "refused message"]]
        (later.filterMap Event.replay?) ∧
      Event.Each CountsReplay later ∧
      (restless.play clearance tallied).history.filterMap Event.metric? =
        ["replayed 2 1", "captured", "flushed 2", "captured", "captured", "scrub 0 0 0 0 0",
          "captured", "captured", "captured", "captured"] := by
  have now : Passes (fun _ => True) bare tallied :=
    .now (play_proceeds restless (fun _ => allThroughout_of_forall Step.tagsWithin_anything _) _
      (allThroughout_of_forall Step.tagsWithin_anything _) bare)
  have balance := metrics_balance bare tallied now
  obtain ⟨es, balances, counts⟩ := balance.captured
  obtain ⟨later, told, flushes, replays, counted⟩ := balance.played restless clearance
  have all : es = tallied.history := by
    rw [balances.told]
    exact (List.append_nil es).symm
  have captured : es.countP (· matches .captured _) = 6 := by
    rw [all]
    decide +kernel
  have collected : later.filterMap Event.finishResult? =
      [[.raised "TypeError" "refused message"]] := by
    have whole : (restless.play clearance tallied).history.filterMap Event.finishResult? =
        [[.raised "TypeError" "refused message"]] := by decide +kernel
    have before : tallied.history.filterMap Event.finishResult? = [] := by decide +kernel
    rw [told, List.filterMap_append, before, List.append_nil] at whole
    exact whole
  exact ⟨now, ⟨es, balances, captured, counts.symm.trans captured⟩, later, told, flushes, collected,
    collected ▸ replays, counted, by decide +kernel⟩

end Session
end WarningCapture
