import WarningCapture.Proofs.Registry.Aborting
import WarningCapture.Proofs.Session.Calling
import WarningCapture.Proofs.Session.Flushing

/-! Scrubs that fail. The listings of a walk decide whether its scrub fails, whatever its visits
come to. A failure is raised and not counted; a capture takes no notice of it and goes on with
whatever caches are cleared by then. -/
namespace WarningCapture

namespace Session
variable {s t : Session}

section
variable {σ κ : Type} [DecidableEq κ]

/-- Scrubs a mapping of the host, whatever it is, and raises a failure. -/
def scrubMapping (s : Session) (r : Registry σ κ) (x : σ) :
    Except Fault ScrubReport × σ × Session :=
  match s.scrubWith r x with
  | (.ok report, x, s) => (.ok report, x, s)
  | (.error err, x, s) => (.error (.reported err), x, s.report err)

theorem scrubScripted_eq (s : Session) (rules : Scripted.Rules) (x : Scripted.State) :
    s.scrubScripted rules x = s.scrubMapping rules.registry x := by
  unfold scrubScripted scrubMapping
  split <;> rename_i scrubbed <;> rw [scrubbed]

/-- A scrub comes to what its walk comes to. -/
theorem scrubWith_walk (s : Session) (r : Registry σ κ) (x : σ) :
    (s.scrubWith r x).1 = (r.walk s.policy.maxScrubPasses x).1.result.mapError scanFailed ∧
      (s.scrubWith r x).2.1 = (r.walk s.policy.maxScrubPasses x).2 := by
  unfold scrubWith
  cases result : (r.walk s.policy.maxScrubPasses x).1.result with
  | ok report => simp [result, Except.mapError]
  | error f => simp [result, Except.mapError]

theorem scrubMapping_ok {r : Registry σ κ} {x : σ} {report : ScrubReport}
    (finished : (r.walk s.policy.maxScrubPasses x).1.result = .ok report) :
    (s.scrubMapping r x).1 = .ok report := by
  have scrubbed := (s.scrubWith_walk r x).1
  rw [finished] at scrubbed
  unfold scrubMapping
  split <;> simp_all [Except.mapError]

theorem scrubMapping_failed {r : Registry σ κ} {x : σ} {f : Fault}
    (failed : (r.walk s.policy.maxScrubPasses x).1.result = .error f) :
    (s.scrubMapping r x).1 = .error (.reported (scanFailed f)) ∧
      s.SaidOnly (s.scrubMapping r x).2.2 := by
  have scrubbed := (s.scrubWith_walk r x).1
  rw [failed] at scrubbed
  have raised : s.scrubMapping r x = (.error (.reported (scanFailed f)), (s.scrubWith r x).2.1,
      (s.scrubWith r x).2.2.report (scanFailed f)) := by
    unfold scrubMapping
    split <;> simp_all [Except.mapError]
  have walked := scrubWith_spoke scrubbed
  rw [raised]
  exact ⟨rfl, .of_remarked ((s.scrubWith_remarked r x).trans (report_remarked _ _))
    (walked.trans (.report _ _))⟩

end

/-- A scrub failed since keys could not be listed. This was raised; the session tells it, but counts
nothing. -/
structure ScanFails (s : Session) (f : Fault) (t : Session) : Prop where
  raised : ∃ err, f = .reported err ∧ err.code = .registryScanFailed
  uncounted : ∃ modules later, t = { s with modules, history := later ++ s.history } ∧
    ∀ e ∈ later, e.spoken = true ∧ e.metric? = none

section
variable {σ κ : Type} [DecidableEq κ]

theorem scrubMapping_fails_iff (s : Session) (r : Registry σ κ) (x : σ) :
    (∃ f, (s.scrubMapping r x).1 = .error f) ↔
      ∃ f, (r.walk s.policy.maxScrubPasses x).1.result = .error f := by
  cases result : (r.walk s.policy.maxScrubPasses x).1.result with
  | ok report => simp [scrubMapping_ok result]
  | error f => simp [(scrubMapping_failed result).1]

theorem scrubMapping_scanFails {r : Registry σ κ} {x : σ} {f : Fault}
    (failed : (s.scrubMapping r x).1 = .error f) : s.ScanFails f (s.scrubMapping r x).2.2 := by
  obtain ⟨fault, unlisted⟩ := (s.scrubMapping_fails_iff r x).mp ⟨f, failed⟩
  obtain ⟨raised, said⟩ := scrubMapping_failed unlisted
  obtain ⟨later, told, uncounted⟩ := said.uncounted
  cases raised.symm.trans failed
  exact ⟨⟨_, rfl, rfl⟩, s.modules, later, told, uncounted⟩

theorem scrubMapping_state (s : Session) (r : Registry σ κ) (x : σ) :
    (s.scrubMapping r x).2.1 = (r.walk s.policy.maxScrubPasses x).2 := by
  rw [← (s.scrubWith_walk r x).2]
  unfold scrubMapping
  split <;> rename_i scrubbed <;> rw [scrubbed]

end

/-- The modules as a scrub of them leaves them. -/
def scrubbed (s : Session) : Modules :=
  if s.modules.store = .missing then s.modules
  else (Modules.registry.walk s.policy.maxScrubPasses s.modules).2

/-- The modules as a capture finds them. -/
def cleared (s : Session) : Modules :=
  if s.policy.scrubRegistry then s.scrubbed else s.modules

theorem scrubModules_walk (s : Session) :
    s.scrubModules.1 = (if s.modules.store = .missing then .error Modules.unavailable
      else (Modules.registry.walk s.policy.maxScrubPasses s.modules).1.result.mapError
        scanFailed) ∧
    s.scrubModules.2.modules = s.scrubbed := by
  unfold scrubModules scrubbed
  cases store : s.modules.store with
  | missing => simp
  | dict | mapping | failing => simp [s.scrubWith_walk Modules.registry s.modules]

theorem scrubResult_outcome (s : Session) :
    s.scrubResult.1 = s.scrubModules.1.mapError .reported := by
  unfold scrubResult
  split <;> rename_i scrubbed <;> rw [scrubbed] <;> rfl

theorem scrubResult_modules (s : Session) : s.scrubResult.2.modules = s.scrubbed := by
  rw [← s.scrubModules_walk.2]
  unfold scrubResult
  split <;> rename_i scrubbed <;> rw [scrubbed]
  rename_i err t
  obtain ⟨es, same, _⟩ := t.report_remarked err
  show (t.report err).modules = t.modules
  rw [same]

/-- A scrub of the modules fails if there are none, or if they cannot be listed. -/
theorem scrubResult_fails_iff (s : Session) :
    (∃ f, s.scrubResult.1 = .error f) ↔ s.modules.store = .missing ∨
      ∃ f, (Modules.registry.walk s.policy.maxScrubPasses s.modules).1.result = .error f := by
  rw [scrubResult_outcome, s.scrubModules_walk.1]
  by_cases missing : s.modules.store = .missing
  · simp [missing, Except.mapError]
  · rw [if_neg missing, or_iff_right missing]
    cases (Modules.registry.walk s.policy.maxScrubPasses s.modules).1.result <;>
      simp [Except.mapError]

theorem scrubResult_scanFails {f : Fault} (failed : s.scrubResult.1 = .error f) :
    s.ScanFails f s.scrubResult.2 where
  raised := by
    rw [scrubResult_outcome, s.scrubModules_walk.1] at failed
    by_cases missing : s.modules.store = .missing
    · rw [if_pos missing] at failed
      cases failed
      exact ⟨_, rfl, rfl⟩
    · rw [if_neg missing] at failed
      cases result : (Modules.registry.walk s.policy.maxScrubPasses s.modules).1.result with
      | ok report =>
        rw [result] at failed
        cases failed
      | error fault =>
        rw [result] at failed
        cases failed
        exact ⟨_, rfl, rfl⟩
  uncounted := by
    have spoke := scrubResult_spoke failed
    obtain ⟨modules, remarked⟩ : ∃ modules, { s with modules }.Remarked s.scrubResult.2 := by
      obtain ⟨modules, scrubbed⟩ := s.scrubModules_remarked
      unfold scrubResult
      split <;> rename_i outcome <;> rw [outcome] at scrubbed
      · exact ⟨modules, scrubbed⟩
      · exact ⟨modules, scrubbed.trans (report_remarked _ _)⟩
    have said : SaidOnly { s with modules } s.scrubResult.2 :=
      .of_remarked remarked ⟨spoke.buffers, spoke.told⟩
    obtain ⟨later, told, uncounted⟩ := said.uncounted
    exact ⟨modules, later, told, uncounted⟩

theorem scrubBeforeCapture_modules (s : Session) : s.scrubBeforeCapture.modules = s.cleared := by
  unfold scrubBeforeCapture cleared
  split
  · exact s.scrubModules_walk.2
  · rfl

theorem pushSink_modules (s : Session) (o : Observer) : (s.pushSink o).2.modules = s.modules := by
  obtain ⟨es, same, _⟩ := s.pushSink_remarked o
  rw [same]

/-- The sessions differ at most by their modules and by what was told. -/
def SameButModules (s t : Session) : Prop := ∃ modules history, t = { s with modules, history }

theorem SameButModules.report {err : CaptureError} (same : s.SameButModules t) :
    (s.report err).SameButModules (t.report err) := by
  obtain ⟨modules, history, rfl⟩ := same
  obtain ⟨es, same, _⟩ := s.report_remarked err
  obtain ⟨fs, other, _⟩ := ({ s with modules, history } : Session).report_remarked err
  rw [same, other]
  exact ⟨modules, fs ++ history, rfl⟩

end Session

namespace Capturing
variable {scene : Scene} {c : Capturing} {s t : Session}

theorem opened_modules (c : Capturing) (s : Session) : (c.opened s).2.modules = s.cleared := by
  have begun : (c.begun s).cleared = s.cleared := by cases c <;> rfl
  calc (c.opened s).2.modules
    _ = ((c.begun s).scrubBeforeCapture.newObserver c.collector).2.modules :=
        Session.pushSink_modules _ _
    _ = (c.begun s).scrubBeforeCapture.modules := rfl
    _ = (c.begun s).cleared := (c.begun s).scrubBeforeCapture_modules
    _ = s.cleared := begun

/-- The modules, and what clearing their caches comes to, make no difference to a capture. -/
theorem opened_sameButModules (c : Capturing) (s : Session) (modules : Modules) :
    (c.opened s).1 = (c.opened { s with modules }).1 ∧
      (c.opened s).2.SameButModules (c.opened { s with modules }).2 := by
  obtain ⟨outcome, _, es, same, _⟩ := c.opened_opens s
  obtain ⟨other, found, fs, alike, _⟩ := c.opened_opens { s with modules }
  refine ⟨outcome.trans other.symm, found, fs ++ (c.begun s).history, ?_⟩
  rw [same, alike]
  cases c <;> rfl

theorem left_sameButModules {u : Session} (same : t.SameButModules u) (modules : Modules) :
    (c.left s t).SameButModules (c.left { s with modules } u) := by
  obtain ⟨others, history, rfl⟩ := same
  cases c with
  | run buffer => exact ⟨others, .ended buffer :: history, rfl⟩
  | collect => exact ⟨others, history, rfl⟩

/-- Under a capture, calls with other modules go as they do with these. -/
theorem call_sameButModules (accepted : c.Accepted scene) (arguments : Arguments) (s : Session)
    (modules : Modules) :
    (∃ err t u, Session.SameButModules t u ∧ ∀ f,
      c.call scene f arguments s = (.error (.reported err), t) ∧
      c.call scene f arguments { s with modules } = (.error (.reported err), u)) ∨
    ∃ (t u : Session) (ends : Session.Closing), t.SameButModules u ∧ t.modules = s.cleared ∧
      u.modules = ({ s with modules } : Session).cleared ∧ ∀ f,
        c.call scene f arguments s = ends (f arguments t).1 (f arguments t).2 ∧
        c.call scene f arguments { s with modules } = ends (f arguments u).1 (f arguments u).2 := by
  obtain ⟨outcome, same⟩ := c.opened_sameButModules s modules
  have found := c.opened_modules s
  have foundThere := c.opened_modules { s with modules }
  cases opened : c.opened s with
  | mk result t =>
    cases openedThere : c.opened { s with modules } with
    | mk other u =>
      rw [opened] at outcome same found
      rw [openedThere] at outcome same foundThere
      obtain rfl : result = other := outcome
      cases result with
      | error err =>
        have after : (c.left s (t.report err)).SameButModules
            (c.left { s with modules } (u.report err)) :=
          left_sameButModules (Session.SameButModules.report same) modules
        refine .inl ⟨err, _, _, after, fun f => ?_⟩
        rw [call_eq accepted, call_eq accepted, opened, openedThere]
        exact ⟨rfl, rfl⟩
      | ok token =>
        refine .inr ⟨t, u, fun called v => ((v.concluded token called).1,
          c.left s (v.concluded token called).2), same, found, foundThere, fun f => ?_⟩
        rw [call_eq accepted, call_eq accepted, opened, openedThere]
        refine ⟨rfl, ?_⟩
        cases c <;> rfl

/-- Only keys that cannot be listed abort a scrub, for every registry, whatever lookups fail and
resets are refused. The passes before the listing that failed were made in full, what they did stays
done, and nothing is done after it. The host raises this failure and no other, and counts no scrub.
A capture goes on as with any other modules, from the caches as they are cleared by then. -/
theorem only_unlisted_keys_abort_scrubs (scene : Scene) (s : Session) (arguments : Arguments) :
    (∀ {σ κ : Type} [DecidableEq κ] (r : Registry σ κ) (x : σ),
      (∀ maxPasses, ∃ uses, r.recorded.walk maxPasses (x, []) =
          ((r.walk maxPasses x).1, (r.walk maxPasses x).2, uses) ∧
        r.Aborts x uses (r.walk maxPasses x).1 (r.walk maxPasses x).2) ∧
      ((∃ f, (s.scrubMapping r x).1 = .error f) ↔
        ∃ f, (r.walk s.policy.maxScrubPasses x).1.result = .error f) ∧
      (∀ f, (s.scrubMapping r x).1 = .error f → s.ScanFails f (s.scrubMapping r x).2.2) ∧
      (s.scrubMapping r x).2.1 = (r.walk s.policy.maxScrubPasses x).2) ∧
    ((∃ f, s.scrubResult.1 = .error f) ↔ s.modules.store = .missing ∨
      ∃ f, (Modules.registry.walk s.policy.maxScrubPasses s.modules).1.result = .error f) ∧
    (∀ f, s.scrubResult.1 = .error f → s.ScanFails f s.scrubResult.2) ∧
    s.scrubResult.2.modules = s.scrubbed ∧
    ∀ c : Capturing, c.Accepted scene → ∀ modules,
      (∃ err t u, Session.SameButModules t u ∧ ∀ f,
        c.call scene f arguments s = (.error (.reported err), t) ∧
        c.call scene f arguments { s with modules } = (.error (.reported err), u)) ∨
      ∃ (t u : Session) (ends : Session.Closing), t.SameButModules u ∧ t.modules = s.cleared ∧
        u.modules = ({ s with modules } : Session).cleared ∧ ∀ f,
          c.call scene f arguments s = ends (f arguments t).1 (f arguments t).2 ∧
          c.call scene f arguments { s with modules } =
            ends (f arguments u).1 (f arguments u).2 := by
  refine ⟨fun r x => ?_, s.scrubResult_fails_iff, fun f => Session.scrubResult_scanFails,
    s.scrubResult_modules, fun c accepted => call_sameButModules accepted arguments s⟩
  refine ⟨fun maxPasses => r.walk_aborts maxPasses x, s.scrubMapping_fails_iff r x, ?_,
    s.scrubMapping_state r x⟩
  intro f failed
  exact Session.scrubMapping_scanFails failed

/-- A mapping that is listed once and then no more. -/
def listedOnce : Scripted.Rules := { access := .mapping, failAt := some 2 }

/-- Of a mapping that is listed once, and of modules that are listed once, every entry is reset for
which that can be done before the scrub fails. A run goes on from there as with no modules. -/
theorem listed_once_is_scrubbed_once :
    (run "buffer").Accepted {} ∧
    (∃ f, (unlisted.scrubScripted listedOnce { entries := Session.unruly }).1 = .error f ∧
      unlisted.ScanFails f
        (unlisted.scrubScripted listedOnce { entries := Session.unruly }).2.2) ∧
    (unlisted.scrubScripted listedOnce { entries := Session.unruly }).2.1.looked =
      ["first", "second", "broken", "empty"] ∧
    (∃ f, unlisted.scrubResult.1 = .error f ∧ unlisted.ScanFails f unlisted.scrubResult.2) ∧
    unlisted.cleared.entries.map (fun e => e.2.map Module.cache) = [some .cleared] ∧
    ∃ (t u : Session) (ends : Session.Closing), t.SameButModules u ∧ t.modules = unlisted.cleared ∧
      ∀ f, (run "buffer").call {} f {} unlisted = ends (f {} t).1 (f {} t).2 ∧
        (run "buffer").call {} f {} { unlisted with modules := {} } =
          ends (f {} u).1 (f {} u).2 := by
  obtain ⟨mappings, fails, raised, _, captured⟩ :=
    only_unlisted_keys_abort_scrubs {} unlisted {}
  obtain ⟨_, scripted, told, left⟩ := mappings listedOnce.registry { entries := Session.unruly }
  have failing {α : Type} {outcome : Except Fault α} (failed : outcome.isOk = false) :
      ∃ f, outcome = .error f := by
    cases outcome with
    | ok => cases failed
    | error f => exact ⟨f, rfl⟩
  refine ⟨trivial, ?_, ?_, ?_, by decide +kernel, ?_⟩
  · obtain ⟨f, failed⟩ := scripted.mpr (failing (by decide +kernel))
    rw [Session.scrubScripted_eq]
    exact ⟨f, failed, told f failed⟩
  · rw [Session.scrubScripted_eq, left]
    decide +kernel
  · obtain ⟨f, failed⟩ := fails.mpr (.inr (failing (by decide +kernel)))
    exact ⟨f, failed, raised f failed⟩
  · rcases captured (run "buffer") trivial {} with
      ⟨err, t, u, _, refused⟩ | ⟨t, u, ends, same, found, _, called⟩
    · have returned : ((run "buffer").call {} (fun _ s => (.ok .null, s)) {} unlisted).1 =
          .ok .null := rfl
      rw [(refused _).1] at returned
      cases returned
    · exact ⟨t, u, ends, same, found, called⟩

end Capturing
end WarningCapture
