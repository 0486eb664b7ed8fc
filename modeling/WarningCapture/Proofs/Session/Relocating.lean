import WarningCapture.Proofs.Session.Remarks

/-! Operations elsewhere. What is logged and reported, and what policy is in force, has to do with
neither the loaded modules nor the directory nor the past. With others of them it comes to the same,
leaves them as they are, and adds the same to the history. -/
namespace WarningCapture

namespace Session

/-- The session with other modules, in another directory and after another past. -/
def elsewhere (s : Session) (modules : Modules) (cwd : String) (past : List Event) : Session :=
  { s with modules, cwd, history := past }

/-- Wherever the operation is carried out, it comes to the same and adds the same to the past. -/
def Placeless {α : Type} (f : Session → α × Session) : Prop :=
  ∀ s : Session, ∃ new : List Event, ∀ modules cwd past,
    f (s.elsewhere modules cwd past) = ((f s).1, (f s).2.elsewhere modules cwd (new ++ past))

namespace Placeless
variable {α β : Type} {f : Session → α × Session} {g : α → Session → β × Session}

/-- What adds nothing to the past. -/
theorem of_blind (blind : ∀ (s : Session) modules cwd past,
    f (s.elsewhere modules cwd past) = ((f s).1, (f s).2.elsewhere modules cwd past)) :
    Placeless f :=
  fun s => ⟨[], blind s⟩

theorem bind (first : Placeless f) (second : ∀ a, Placeless (g a)) :
    Placeless fun s => g (f s).1 (f s).2 := by
  intro s
  obtain ⟨new, done⟩ := first s
  obtain ⟨more, continued⟩ := second (f s).1 (f s).2
  refine ⟨more ++ new, fun modules cwd past => ?_⟩
  simp only [done, continued, List.append_assoc]

/-- An operation that goes on as another one has come out. -/
theorem andThen {h : Session → β × Session} (first : Placeless f)
    (second : ∀ a, ∃ g, Placeless g ∧ ∀ s, (f s).1 = a → h s = g (f s).2) : Placeless h := by
  intro s
  obtain ⟨g, placeless, same⟩ := second (f s).1
  obtain ⟨new, done⟩ := first s
  obtain ⟨more, continued⟩ := placeless (f s).2
  refine ⟨more ++ new, fun modules cwd past => ?_⟩
  have there := same (s.elsewhere modules cwd past) (by rw [done])
  rw [there, done, same s rfl, continued, List.append_assoc]

/-- An operation that depends on what is read of the session. -/
theorem given {γ : Type} (read : Session → γ)
    (blind : ∀ (s : Session) modules cwd past, read (s.elsewhere modules cwd past) = read s)
    (each : ∀ c, ∃ g, Placeless g ∧ ∀ s, read s = c → f s = g s) : Placeless f := by
  have reads : Placeless fun s => (read s, s) :=
    of_blind fun s modules cwd past => by rw [blind]
  exact reads.andThen each

theorem returns (a : α) : Placeless fun s => (a, s) := of_blind fun _ _ _ _ => rfl

theorem add (e : Event) : Placeless fun s => ((), s.add e) := fun _ => ⟨[e], fun _ _ _ => rfl⟩

theorem note (n : Log.Notice) : Placeless fun s => ((), s.note n) := by
  intro s
  refine ⟨(s.noticed n).reverse, fun modules cwd past => Prod.ext rfl ?_⟩
  have here : s.note n = { s with history := (s.noticed n).reverse ++ s.history } :=
    addAll_eq s _
  have there : (s.elsewhere modules cwd past).note n =
      { s.elsewhere modules cwd past with history := (s.noticed n).reverse ++ past } :=
    addAll_eq _ _
  simp only [here, there]
  rfl

theorem noteAll (ns : List Log.Notice) : Placeless fun s => ((), s.noteAll ns) := by
  induction ns with
  | nil => exact returns ()
  | cons n rest ih => exact (note n).bind fun _ => ih

theorem report (err : CaptureError) : Placeless fun s => ((), s.report err) := by
  have logged : Placeless fun s => ((), (s.add (.reported err)).note (Log.errorNotice err)) :=
    (add _).bind fun _ => note _
  have described : Placeless fun s => ((),
      if s.jsonErrors then s.add (.wrote (.trailer (.ofError err s.logger.testId)) .stderr)
      else s) := by
    apply given (fun s => (s.jsonErrors, s.logger.testId)) fun _ _ _ _ => rfl
    rintro ⟨describes, testId⟩
    cases describes with
    | false =>
      refine ⟨_, returns (), ?_⟩
      intro s told
      simp [(Prod.mk.inj told).1]
    | true =>
      refine ⟨_, add (.wrote (.trailer (.ofError err testId)) .stderr), ?_⟩
      intro s told
      simp [Prod.mk.inj told]
  exact logged.bind fun _ => described

theorem raise (err : CaptureError) : Placeless fun s => (s.raise err : Attempt α) :=
  (report err).bind fun _ => returns _

theorem applyPolicy (disk : String → Log.Opening) (p : Policy) :
    Placeless fun s => ((), s.applyPolicy disk p) := by
  have put : Placeless fun s => ((), { s with policy := p }) := of_blind fun _ _ _ _ => rfl
  have complained : Placeless fun s => ((), s.noteAll (s.logger.levelNotices p.logLevel)) := by
    apply given (fun s => s.logger.levelNotices p.logLevel) fun _ _ _ _ => rfl
    intro ns
    refine ⟨_, noteAll ns, ?_⟩
    rintro s rfl
    rfl
  have levelled : Placeless fun s =>
      ((), { s with logger := s.logger.setLevel p.logLevel }) := of_blind fun _ _ _ _ => rfl
  have directed : Placeless fun s => ((), { s with
      logger := { s.logger with destination := Log.Logger.destinationFor disk p.logFile }
      jsonErrors := p.jsonErrors }) := of_blind fun _ _ _ _ => rfl
  exact (((put.bind fun _ => complained).bind fun _ => levelled).bind fun _ =>
    noteAll (Log.Logger.fileNotices disk p.logFile)).bind fun _ => directed

theorem configure (disk : String → Log.Opening) (u : Policy.Update) :
    Placeless fun s => s.configure disk u := by
  apply given (fun s => s.policy.configure u) fun _ _ _ _ => rfl
  rintro (err | p)
  · refine ⟨_, raise err, ?_⟩
    intro s refused
    rw [Session.configure, refused]
  · refine ⟨_, (applyPolicy disk p).bind fun _ => returns (.ok ()), ?_⟩
    intro s accepted
    rw [Session.configure, accepted]

theorem configureFrom (disk : String → Log.Opening) (env : Environment) :
    Placeless fun s => s.configureFrom disk env := by
  unfold Session.configureFrom
  cases env.policyUpdate with
  | error err => exact raise err
  | ok u =>
    apply given (fun s => s.policy.apply u) fun _ _ _ _ => rfl
    intro p
    refine ⟨_, (applyPolicy disk p).bind fun _ => returns (.ok ()), ?_⟩
    rintro s rfl
    rfl

end Placeless

/-- Tells what a walk of at most so many passes has come to. -/
def tellWalk {κ : Type} (w : Walk κ) (maxPasses : Nat) (s : Session) :
    Except CaptureError ScrubReport × Session :=
  let s := s.noteAll (w.notices maxPasses)
  match w.result with
  | .error f =>
      let err := scanFailed f
      (.error err, s.note (Log.Component.registry.say .warn err.render err.code))
  | .ok report => (.ok report, (s.add (.scrubbed report)).note report.notice)

theorem scrubWith_eq {σ κ : Type} [DecidableEq κ] (s : Session) (r : Registry σ κ) (x : σ) :
    s.scrubWith r x =
      let walked := r.walk s.policy.maxScrubPasses x
      let told := s.tellWalk walked.1 s.policy.maxScrubPasses
      (told.1, walked.2, told.2) := by
  unfold scrubWith tellWalk
  simp only
  cases (r.walk s.policy.maxScrubPasses x).1.result <;> rfl

theorem Placeless.tellWalk {κ : Type} (w : Walk κ) (maxPasses : Nat) :
    Placeless (Session.tellWalk w maxPasses) := by
  have noted := Placeless.noteAll (w.notices maxPasses)
  unfold Session.tellWalk
  cases w.result with
  | error f => exact (noted.bind fun _ => note _).bind fun _ => returns _
  | ok report => exact ((noted.bind fun _ => add _).bind fun _ => note _).bind fun _ => returns _

end Session
end WarningCapture
