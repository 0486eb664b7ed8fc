import WarningCapture.Proofs.Registry.Carrying
import WarningCapture.Proofs.Session.Contents
import WarningCapture.Proofs.Session.Likeness
import WarningCapture.Proofs.Session.Relocating

/-! Sessions whose modules are held by another mapping. Where modules stay in place, it makes no
difference to a session whether a dictionary holds them. Step by step it comes to the same, but for
what it shows of where the paths of targets were found. -/
namespace WarningCapture

/-- The result without the origins of targets, which tell where their paths were found. -/
def Result.unplaced : Result → Result
  | origins _ claims remembered => origins [] claims remembered
  | result => result

def Outcome.unplaced : Outcome → Outcome
  | returned result => returned result.unplaced
  | outcome => outcome

def Entry.unplaced (e : Entry) : Entry := { e with outcome := e.outcome.unplaced }

def Event.unplaced : Event → Event
  | finished entry => finished entry.unplaced
  | e => e

namespace Session
variable {objects : HostObjects} {scope : Scope} {s t : Session}

/-- A mapping holds for the second session what a dictionary holds for the first one, where all
stays in place; and in both the same has happened. -/
structure SameButHolder (objects : HostObjects) (scope : Scope) (s t : Session) : Prop where
  settled : s.modules.Settled objects scope
  inside : scope.directories s.cwd
  same : t = s.elsewhere s.modules.asMapping s.cwd t.history
  past : s.history.map Event.unplaced = t.history.map Event.unplaced

/-- What is done in any place alike comes to the same, whatever holds the modules. -/
theorem Placeless.agree {α : Type} {f : Session → α × Session} (placeless : Placeless f)
    (alike : SameButHolder objects scope s t) :
    Agree (SameButHolder objects scope) (f s) (f t) := by
  obtain ⟨new, done⟩ := placeless s
  have here : f s = ((f s).1, (f s).2.elsewhere s.modules s.cwd (new ++ s.history)) :=
    done s.modules s.cwd s.history
  have there : f t = ((f s).1, (f s).2.elsewhere s.modules.asMapping s.cwd (new ++ t.history)) := by
    rw [← done, ← alike.same]
  have modules : (f s).2.modules = s.modules := (congrArg (fun x => x.2.modules) here :)
  have cwd : (f s).2.cwd = s.cwd := (congrArg (fun x => x.2.cwd) here :)
  have history : (f s).2.history = new ++ s.history := (congrArg (fun x => x.2.history) here :)
  refine ⟨(congrArg Prod.fst there).symm, ?_⟩
  rw [there]
  constructor
  case settled => rw [modules]; exact alike.settled
  case inside => rw [cwd]; exact alike.inside
  case same => rw [modules, cwd]; rfl
  case past =>
    rw [history]
    show _ = (new ++ t.history).map Event.unplaced
    rw [List.map_append, List.map_append, alike.past]

namespace SameButHolder

/-- What reads neither modules nor the past reads the same of both. -/
theorem read (alike : SameButHolder objects scope s t) {α : Type} (f : Session → α)
    (blind : ∀ (x : Session) modules cwd past, f (x.elsewhere modules cwd past) = f x) :
    f s = f t := by
  rw [alike.same, blind]

/-- What writes to neither modules nor the past does the same to both. -/
theorem act (alike : SameButHolder objects scope s t) (f : Session → Session)
    (blind : ∀ (x : Session) modules cwd past,
      f (x.elsewhere modules cwd past) = (f x).elsewhere modules cwd past) :
    SameButHolder objects scope (f s) (f t) := by
  have placeless : Placeless fun x => ((), f x) := .of_blind fun x modules cwd past => by
    rw [blind]
  exact (placeless.agree alike).after

theorem noteAll (alike : SameButHolder objects scope s t) (ns : List Log.Notice) :
    SameButHolder objects scope (s.noteAll ns) (t.noteAll ns) :=
  ((Placeless.noteAll ns).agree alike).after

theorem raise {α : Type} (alike : SameButHolder objects scope s t) (err : CaptureError) :
    Agree (SameButHolder objects scope) (s.raise err : Attempt α) (t.raise err) :=
  (Placeless.raise err).agree alike

theorem cwd (alike : SameButHolder objects scope s t) : t.cwd = s.cwd := by rw [alike.same]; rfl

theorem modules (alike : SameButHolder objects scope s t) : t.modules = s.modules.asMapping := by
  rw [alike.same]
  rfl

theorem buffer (alike : SameButHolder objects scope s t) (name : String) :
    s.buffer name = t.buffer name :=
  alike.read (fun x => x.buffer name) fun _ _ _ _ => rfl

/-- Modules that stay in place take the place of others. -/
theorem withModules (alike : SameButHolder objects scope s t) {ms : Modules}
    (settled : ms.Settled objects scope) :
    SameButHolder objects scope { s with modules := ms } { t with modules := ms.asMapping } where
  settled := settled
  inside := alike.inside
  same := by rw [alike.same]; rfl
  past := alike.past

theorem scrubModules (alike : SameButHolder objects scope s t) :
    Agree (SameButHolder objects scope) s.scrubModules t.scrubModules := by
  have passes : s.policy.maxScrubPasses = t.policy.maxScrubPasses :=
    alike.read (fun x => x.policy.maxScrubPasses) fun _ _ _ _ => rfl
  obtain ⟨walked, settled⟩ :=
    (Modules.registry_carries objects scope).walk s.policy.maxScrubPasses alike.settled
  have told := (Placeless.tellWalk (Modules.registry.walk s.policy.maxScrubPasses s.modules).1
    s.policy.maxScrubPasses).agree alike
  simp only [Session.scrubModules, alike.settled.dict, scrubWith_eq, alike.modules, ← passes,
    walked]
  exact ⟨told.outcome, told.after.withModules settled⟩

end SameButHolder

/-- What holds the modules only matters to what has to do with them. -/
theorem sameButHolder_likeness (objects : HostObjects) (scope : Scope) :
    Likeness (SameButHolder objects scope) where
  rest {s t} alike := by
    obtain ⟨past, rfl⟩ : ∃ past, t = s.elsewhere s.modules.asMapping s.cwd past := ⟨_, alike.same⟩
    rfl
  act alike f blind := by
    refine alike.act f fun x modules cwd past => ?_
    have kept : (f x).amid x = f x := (blind x x).symm
    calc f (x.elsewhere modules cwd past) = (f x).amid (x.elsewhere modules cwd past) :=
          blind x (x.elsewhere modules cwd past)
      _ = ((f x).amid x).elsewhere modules cwd past := rfl
      _ = (f x).elsewhere modules cwd past := by rw [kept]
  testId alike := alike.read (fun x => x.logger.testId) fun _ _ _ _ => rfl
  setTestId alike testId :=
    alike.act (fun x => { x with logger := { x.logger with testId } }) fun _ _ _ _ => rfl
  scrubs alike := alike.read (fun x => x.policy.scrubRegistry) fun _ _ _ _ => rfl
  replays alike := alike.read (fun x => x.policy.replayUnflushed) fun _ _ _ _ => rfl
  add alike e _ := ((Placeless.add e).agree alike).after
  note alike n := ((Placeless.note n).agree alike).after
  report alike err := ((Placeless.report err).agree alike).after
  scrub alike := alike.scrubModules

namespace SameButHolder

/-- Targets are resolved alike, as their functions have not moved. -/
theorem resolve (alike : SameButHolder objects scope s t) {targets : List String}
    (named : ∀ name ∈ targets, scope.targets name) :
    (∃ err, s.resolve objects targets = .error err ∧ t.resolve objects targets = .error err) ∨
      ∃ r q, s.resolve objects targets = .ok r ∧ t.resolve objects targets = .ok q ∧
        r.SameClaims q := by
  have types : t.types = s.types := by rw [alike.same]; rfl
  have surroundings : t.surroundings = s.surroundings.asMapping := by rw [alike.same]; rfl
  simp only [Session.resolve, types, surroundings]
  apply Resolution.ofTargets_sameClaims alike.settled.dict
  intro fn member
  obtain ⟨target, given, linked⟩ := List.mem_flatMap.mp member
  exact Surroundings.unmoved_of_stay alike.settled.stay alike.inside (named target given) linked

theorem noteResolution (alike : SameButHolder objects scope s t) {r q : Resolution}
    (sameClaims : r.SameClaims q) :
    SameButHolder objects scope (s.noteResolution r) (t.noteResolution q) := by
  unfold Session.noteResolution
  rw [← sameClaims.read, ← sameClaims.notices]
  exact (alike.act (fun x => { x with read := r.read ++ x.read }) fun _ _ _ _ => rfl).noteAll _

theorem functionLines (alike : SameButHolder objects scope s t) {target : String}
    (named : scope.targets target) :
    Agree (SameButHolder objects scope) (s.functionLines objects target)
      (t.functionLines objects target) := by
  have all : ∀ name ∈ [target], scope.targets name := by simpa using named
  unfold Session.functionLines
  rcases alike.resolve all with ⟨err, here, there⟩ | ⟨r, q, here, there, sameClaims⟩
  · simp only [here, there]
    exact alike.raise err
  · simp only [here, there, ← sameClaims.lines]
    exact ⟨rfl, alike.noteResolution sameClaims⟩

theorem flush (alike : SameButHolder objects scope s t) (buffer : String) {targets : TargetList}
    (named : ∀ names, targets = some (.ok names) → ∀ name ∈ names, scope.targets name) :
    Agree (SameButHolder objects scope) (s.flush objects buffer targets)
      (t.flush objects buffer targets) := by
  have likeness := sameButHolder_likeness objects scope
  unfold Session.flush
  rw [← alike.buffer buffer, alike.cwd]
  split
  · exact likeness.takeRecords alike buffer _ _
  · exact ⟨rfl, alike⟩
  · rename_i names
    rcases alike.resolve (named names rfl) with ⟨err, here, there⟩ | ⟨r, q, here, there, sameClaims⟩
    · simp only [here, there]
      exact alike.raise err
    · have said : q.recordNotices s.cwd = r.recordNotices s.cwd :=
        funext fun record => (sameClaims.recordNotices s.cwd record).symm
      simp only [here, there, ← sameClaims.claimsRecord, said]
      exact likeness.takeRecords ((alike.noteResolution sameClaims).noteAll _) buffer _ _

end SameButHolder
end Session
end WarningCapture
