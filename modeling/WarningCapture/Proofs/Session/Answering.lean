import WarningCapture.Proofs.Session.Proceeding
import WarningCapture.Proofs.Session.Quiet

/-! What a session answers. The error that an operation raises, the records that it takes out and
the exceptions that it collects stand in the history twice: where the operation comes to them, and
in the step that is finished with them. Conduct from one session to another keeps count of both, and
its answer is what is left to be shown at its end. -/
namespace WarningCapture

namespace Answer

def error? : Answer → Option CaptureError
  | error err => some err
  | _ => none

def records? : Answer → Option (List Record)
  | records taken => some taken
  | _ => none

def faults? : Answer → Option (List Fault)
  | faults raised => some raised
  | _ => none

end Answer

/-- The second list is the first without some members, all of which have a property. -/
inductive LeavesOut {α : Type} (P : α → Prop) : List α → List α → Prop where
  | nil : LeavesOut P [] []
  | keep (x : α) : LeavesOut P xs ys → LeavesOut P (x :: xs) (x :: ys)
  | leave : P x → LeavesOut P xs ys → LeavesOut P (x :: xs) ys

namespace LeavesOut
variable {α β : Type} {P : α → Prop} {xs ys xs' ys' : List α}

theorem append (first : LeavesOut P xs ys) (second : LeavesOut P xs' ys') :
    LeavesOut P (xs ++ xs') (ys ++ ys') := by
  induction first with
  | nil => exact second
  | keep x _ ih => exact .keep x ih
  | leave left _ ih => exact .leave left ih

/-- Lists of which nothing may be left out are the same. -/
theorem eq (leaves : LeavesOut P xs ys) (nothing : ∀ x, ¬ P x) : ys = xs := by
  induction leaves with
  | nil => rfl
  | keep x _ ih => rw [ih]
  | leave left => exact absurd left (nothing _)

theorem filterMap {Q : β → Prop} (f : α → Option β) (leaves : LeavesOut P xs ys)
    (image : ∀ x y, P x → f x = some y → Q y) :
    LeavesOut Q (xs.filterMap f) (ys.filterMap f) := by
  induction leaves with
  | nil => exact .nil
  | keep x _ ih =>
    cases value : f x with
    | none => simpa only [List.filterMap_cons_none value] using ih
    | some y => simpa only [List.filterMap_cons_some value] using ih.keep y
  | @leave x _ _ left _ ih =>
    cases value : f x with
    | none => simpa only [List.filterMap_cons_none value] using ih
    | some y => simpa only [List.filterMap_cons_some value] using ih.leave (image x y left value)

end LeavesOut

namespace Event

/-- What an operation came to. -/
def answer? : Event → Option Answer
  | reported err => some (.error err)
  | flushed _ records => some (.records records)
  | replayed _ _ raised => some (.faults raised)
  | _ => none

/-- What a step was finished with. -/
def shows? : Event → Option Answer
  | finished entry => entry.outcome.answer? entry.step
  | _ => none

theorem quiet_answer {e : Event} (quiet : e.quiet = true) : e.answer? = none := by
  cases e <;> first | rfl | cases quiet

theorem quiet_shows {e : Event} (quiet : e.quiet = true) : e.shows? = none := by
  cases e <;> first | rfl | cases quiet

end Event

namespace Session

/-- Conduct of a session, with its answer. Errors that are raised without a report are among the
given ones, and policies change in the given way only. -/
inductive Conducts (given : CaptureError → Prop) (Sets : Policy → Policy → Prop) :
    Session → Option Answer → Session → Prop where
  | quiet : s.Quiet t → Conducts given Sets s none t
  | trans : Conducts given Sets s none t → Conducts given Sets t answer u →
      Conducts given Sets s answer u
  | settle : Conducts given Sets s answer t → t.Quiet u → Conducts given Sets s answer u
  | apply (s : Session) (disk : String → Log.Opening) : Sets s.policy p →
      Conducts given Sets s none (s.applyPolicy disk p)
  | report (s : Session) (err : CaptureError) :
      Conducts given Sets s (some (.error err)) (s.report err)
  /-- An error that was handed in is raised again. -/
  | again (s : Session) : given err → Conducts given Sets s (some (.error err)) s
  | flush (s : Session) (buffer : String) (records : List Record) :
      Conducts given Sets s (some (.records records)) (s.add (.flushed buffer records))
  /-- The end of a test that emits nothing again. -/
  | pass (s : Session) : Conducts given Sets s (some (.faults [])) s
  | replay {buffer : String} : s.fate = .replayed → Conducts given Sets (s.sweep buffer) none t →
      raised.length ≤ (s.pendingIn buffer).length →
      Conducts given Sets s (some (.faults raised))
        (t.add (.replayed buffer (s.pendingIn buffer).length raised))
  | close (step : String) (outcome : Outcome) :
      Conducts given Sets s (outcome.answer? step) t →
      Conducts given Sets s none (t.close step outcome)

/-- What may be left out of the answers that operations come to, though steps show it. -/
def Unreported (given : CaptureError → Prop) : Answer → Prop
  | .error err => given err
  | .records _ => False
  | .faults raised => raised = []

variable {given : CaptureError → Prop} {Sets : Policy → Policy → Prop} {s t : Session}
  {answer : Option Answer}

/-- What is answered in between is shown by the steps that are finished in between, or by the step
that is finished next. -/
theorem Conducts.answers (conducts : Conducts given Sets s answer t) :
    ∃ later, t.history = later ++ s.history ∧
      LeavesOut (Unreported given) (answer.toList ++ later.filterMap Event.shows?)
        (later.filterMap Event.answer?) := by
  have silent : ∀ {later : List Event}, (∀ e ∈ later, e.quiet = true) →
      later.filterMap Event.shows? = [] ∧ later.filterMap Event.answer? = [] :=
    fun quiet => ⟨List.filterMap_eq_nil_iff.mpr fun e member => Event.quiet_shows (quiet e member),
      List.filterMap_eq_nil_iff.mpr fun e member => Event.quiet_answer (quiet e member)⟩
  induction conducts with
  | quiet quiet =>
    obtain ⟨later, told, quiet⟩ := quiet.told
    refine ⟨later, told, ?_⟩
    rw [(silent quiet).1, (silent quiet).2]
    exact .nil
  | trans _ _ first second =>
    obtain ⟨es, told, before⟩ := first
    obtain ⟨fs, toldNext, after⟩ := second
    refine ⟨fs ++ es, by rw [toldNext, told, List.append_assoc], ?_⟩
    rw [List.filterMap_append, List.filterMap_append, ← List.append_assoc]
    exact after.append before
  | settle _ quiet ih =>
    obtain ⟨es, told, before⟩ := ih
    obtain ⟨fs, toldNext, quiet⟩ := quiet.told
    refine ⟨fs ++ es, by rw [toldNext, told, List.append_assoc], ?_⟩
    rw [List.filterMap_append, List.filterMap_append, (silent quiet).1, (silent quiet).2]
    exact before
  | apply s disk =>
    obtain ⟨_, _, lines, quiet, told⟩ := s.applyPolicy_told disk _
    refine ⟨lines, told, ?_⟩
    rw [(silent quiet).1, (silent quiet).2]
    exact .nil
  | report s err =>
    obtain ⟨_, _, lines, quiet, told⟩ := s.report_told err
    refine ⟨_, told.trans (List.append_cons _ _ _), ?_⟩
    simp only [List.filterMap_append, (silent quiet).1, (silent quiet).2]
    split <;> exact .keep _ .nil
  | again _ handed => exact ⟨[], rfl, .leave handed .nil⟩
  | flush _ buffer records => exact ⟨[.flushed buffer records], rfl, .keep _ .nil⟩
  | pass => exact ⟨[], rfl, .leave rfl .nil⟩
  | @replay t s raised buffer _ _ _ ih =>
    obtain ⟨es, told, before⟩ := ih
    refine ⟨.replayed buffer (s.pendingIn buffer).length raised ::
      (es ++ [.taken buffer (s.pendingIn buffer) s.fate]), ?_, ?_⟩
    · show _ :: t.history = _
      rw [told]
      simp [sweep, add, setBuffer, pendingIn]
    · simpa [List.filterMap_cons, List.filterMap_append, Event.shows?, Event.answer?] using
        before.keep (.faults raised)
  | @close s t step outcome _ ih =>
    obtain ⟨es, told, before⟩ := ih
    obtain ⟨entry, closed, shown⟩ : ∃ entry : Entry,
        (t.close step outcome).history = .finished entry :: t.history ∧
          Event.shows? (.finished entry) = outcome.answer? step := ⟨_, rfl, rfl⟩
    refine ⟨.finished entry :: es, by rw [closed, told]; rfl, ?_⟩
    rw [List.filterMap_cons_none (a := Event.finished entry) (f := Event.answer?) rfl]
    rw [List.filterMap_cons, shown]
    cases answered : outcome.answer? step <;> rw [answered] at before <;> exact before

/-- The answer of an operation is what it is to conduct itself to. -/
theorem conducts_neutral {b : Bounds}
    (inner : ∀ {s t}, b.inside s t → Conducts b.given b.sets s none t) :
    Neutral b (Conducts b.given b.sets) where
  quiet := .quiet
  trans := .trans
  settle := .settle
  inside := inner
  apply s disk _ sets := .apply s disk sets
  report := .report
  again s _ given := .again s given
  flush := .flush
  pass := .pass
  replay := .replay

end Session

/-- Conduct with the given errors handed in and the given changes of policies. -/
def Bounds.conduct (given : CaptureError → Prop) (Sets : Policy → Policy → Prop) : Bounds where
  remembers := Session.remembers_anything
  given := given
  sets := Sets
  inside := (Session.Conducts given Sets · none ·)

theorem Bounds.conduct_closed (given : CaptureError → Prop) (Sets : Policy → Policy → Prop) :
    (Bounds.conduct given Sets).Closed where
  trans := .trans
  operation story := story.keeps (Session.conducts_neutral id)
  close step outcome story := .close step outcome (story.keeps (Session.conducts_neutral id))

theorem Step.HandsIn.within {given : CaptureError → Prop} {Sets : Policy → Policy → Prop}
    {step : Step} (hands : step.HandsIn given) (sets : step.SetsWithin Sets) :
    step.Within (.conduct given Sets) where
  writes := step.writesWithin_anything
  tags := step.tagsWithin_anything
  hands := hands
  sets := sets
  guards _ := trivial

namespace Session
variable {given : CaptureError → Prop} {Sets : Policy → Policy → Prop} {react : Reaction}
  {scene : Scene}

theorem performAll_conducts (conveys : react.Conveys given (Conducts given Sets · none ·))
    (steps : List Step) (hands : AllThroughout (Step.HandsIn given) steps)
    (sets : AllThroughout (Step.SetsWithin Sets) steps) (s : Session) :
    Conducts given Sets s none (performAll scene react steps s) :=
  performAll_inside (Bounds.conduct_closed given Sets) conveys steps
    (allThroughout_of_both (fun _ hands sets => hands.within sets) steps hands sets) s

/-- Listeners that call one another keep to the conduct, however deep the calls are nested. -/
theorem reaction_conducts (hands : scene.HandsIn given)
    (sets : scene.Throughout (Step.SetsWithin Sets)) (depth : Nat) :
    (scene.reaction depth).Conveys given (Conducts given Sets · none ·) := by
  have within : scene.Within (.conduct given Sets) :=
    ⟨fun name => allThroughout_of_both (fun _ hands sets => hands.within sets) _ (hands.steps name)
      (sets name), hands.raises⟩
  exact reaction_conveys (Bounds.conduct_closed given Sets) within depth

theorem play_conducts (hands : scene.HandsIn given) (sets : scene.Throughout (Step.SetsWithin Sets))
    (steps : List Step) (handsSteps : AllThroughout (Step.HandsIn given) steps)
    (setsSteps : AllThroughout (Step.SetsWithin Sets) steps) (s : Session) :
    Conducts given Sets s none (scene.play steps s) :=
  performAll_conducts (reaction_conducts hands sets _) steps handsSteps setsSteps s

end Session
end WarningCapture
