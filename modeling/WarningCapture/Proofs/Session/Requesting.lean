import WarningCapture.Proofs.Policy.Updating
import WarningCapture.Proofs.Session.Answering
import WarningCapture.Proofs.Session.Configuring
import WarningCapture.Proofs.Session.Flushing

/-! Requests to update the policy, from calls and from the environment. A request is refused as a
whole or granted as a whole. One that is refused changes nothing but what is said of it; one that is
granted sets exactly the fields that it gives, and the environment gives those that a call would. -/
namespace WarningCapture

namespace Session

/-- The request is refused for a value that no policy has, and nothing changes but what is said. -/
def Refuses (s : Session) (attempt : Attempt Unit) : Prop :=
  ∃ err, err.code = .invalidPolicyValue ∧ attempt = (.error (.reported err), s.report err) ∧
    s.SaidOnly (s.report err)

/-- The request is granted: the fields of the update are set and no others, and the logger and the
switch for error descriptions follow the policy that comes of this. -/
def Grants (disk : String → Log.Opening) (s : Session) (u : Policy.Update)
    (attempt : Attempt Unit) : Prop :=
  attempt.1 = .ok () ∧ ∃ q, u.Sets s.policy q ∧ attempt.2.settings = s.settings.follow disk q

section
variable {disk : String → Log.Opening} {s t : Session} {u : Policy.Update}
  {values : String → Option ByteArray}

theorem configure_refuses (passless : u.maxScrubPasses = some 0) :
    s.Refuses (s.configure disk u) := by
  refine ⟨Policy.noPasses, rfl, ?_, s.report_saidOnly _⟩
  rw [configure, Policy.configure, if_pos passless]
  rfl

theorem configure_eq (passes : u.maxScrubPasses ≠ some 0) :
    s.configure disk u = (.ok (), s.applyPolicy disk (s.policy.apply u)) := by
  rw [configure, Policy.configure, if_neg passes]

theorem configure_grants (passes : u.maxScrubPasses ≠ some 0) :
    Grants disk s u (s.configure disk u) := by
  rw [configure_eq passes]
  exact ⟨rfl, _, Policy.apply_sets passes s.policy, applyPolicy_settings disk s _⟩

theorem configureFrom_refuses (malformed : Environment.Malformed values) :
    s.Refuses (s.configureFrom disk (.ofBytes values)) := by
  unfold configureFrom
  split
  · rename_i err failed
    exact ⟨err, Environment.policyUpdate_code failed, rfl, s.report_saidOnly err⟩
  · rename_i u read
    exact absurd malformed (Environment.policyUpdate_eq_ok.mp read).1

/-- The environment asks for what a call with the values of its variables asks for. -/
theorem configureFrom_eq (wellFormed : ¬ Environment.Malformed values) :
    ∃ u, Environment.GivesAll values u ∧ u.maxScrubPasses ≠ some 0 ∧
      s.configureFrom disk (.ofBytes values) = s.configure disk u := by
  obtain ⟨u, read⟩ := Environment.exists_policyUpdate wellFormed
  have gives := (Environment.policyUpdate_eq_ok.mp read).2
  refine ⟨u, gives, gives.passes, ?_⟩
  rw [configure_eq gives.passes, configureFrom, read]

/-- A policy that allows a scrub a pass is followed by one that does so too. -/
def KeepsPassing (p q : Policy) : Prop := 1 ≤ p.maxScrubPasses → 1 ≤ q.maxScrubPasses

theorem setsWithin_keepsPassing (step : Step) : step.SetsWithin KeepsPassing := by
  cases step with
  | configure update =>
    intro p q made positive
    unfold Policy.configure at made
    split at made
    · cases made
    · cases made
      exact Policy.apply_maxScrubPasses positive update
  | configureFrom env => exact fun p u _ positive => Policy.apply_maxScrubPasses positive u
  | _ => trivial

theorem Conducts.keepsPassing {given : CaptureError → Prop} {answer : Option Answer}
    (conducts : Conducts given KeepsPassing s answer t) : KeepsPassing s.policy t.policy := by
  induction conducts with
  | quiet quiet =>
    rw [quiet.policy]
    exact id
  | trans _ _ first second => exact fun positive => second (first positive)
  | settle _ quiet before =>
    rw [quiet.policy]
    exact before
  | apply s disk keeps =>
    obtain ⟨policy, _⟩ := s.applyPolicy_told disk _
    rw [policy]
    exact keeps
  | report s err =>
    obtain ⟨policy, _⟩ := s.report_told err
    rw [policy]
    exact id
  | again | flush | pass => exact id
  | replay _ _ _ inside => exact inside
  | close _ _ _ inside => exact inside

/-- No steps take the passes of a scrub away, at whatever depth of calls they are performed. -/
theorem performAll_keepsPassing (scene : Scene) (depth : Nat) (steps : List Step) (s : Session) :
    KeepsPassing s.policy (performAll scene (scene.reaction depth) steps s).policy := by
  have sets : scene.Throughout (Step.SetsWithin KeepsPassing) :=
    fun _ => allThroughout_of_forall setsWithin_keepsPassing _
  have conducts : Conducts (fun _ => True) KeepsPassing s none
      (performAll scene (scene.reaction depth) steps s) :=
    performAll_conducts (reaction_conducts scene.handsIn_anything sets depth) steps
      (allThroughout_of_forall Step.handsIn_anything steps)
      (allThroughout_of_forall setsWithin_keepsPassing steps) s
  exact conducts.keepsPassing

theorem Configured.maxScrubPasses {start : Session} {spec : String} {environment : Option String}
    {last : Option (String → Log.Opening)} (fresh : start.Fresh spec environment)
    (configured : Configured start last s) : 1 ≤ s.policy.maxScrubPasses := by
  induction configured with
  | start =>
    rw [fresh.policy]
    decide
  | @otherwise _ s t _ same ih =>
    have policy : t.policy = s.policy := congrArg Settings.policy same
    rwa [policy]
  | @refused _ s disk r _ refused ih =>
    have policy : (r.make disk s).2.policy = s.policy :=
      congrArg Settings.policy (make_refused refused)
    rwa [policy]
  | @accepted _ s disk r _ accepted ih =>
    obtain ⟨u, _, followed⟩ := make_accepted accepted
    have policy : (r.make disk s).2.policy = s.policy.apply u := congrArg Settings.policy followed
    rw [policy]
    exact Policy.apply_maxScrubPasses ih u

theorem start_maxScrubPasses (scene : Scene) (policy : Policy.Update) (filters : List Filter)
    (modules : Modules) (buffers : Table Buffer) (cwd : String) :
    1 ≤ (Session.start scene policy filters modules buffers cwd).policy.maxScrubPasses := by
  obtain ⟨_, _, fresh, configured⟩ := start_configured scene policy filters modules buffers cwd
  exact configured.maxScrubPasses fresh

end

/-- A call that gives a policy no passes is refused, and any other is granted. A reading of the
environment is refused just if a switch or the number of passes is set to a text that means none,
whatever else is set, and otherwise does what a call does with the values of the variables that are
set to texts. What is refused changes nothing but what is said, and what is granted sets exactly the
given fields. So scrubs are never left without a pass. -/
theorem policy_requests_are_all_or_nothing (disk : String → Log.Opening) (s : Session) :
    (∀ u : Policy.Update,
      (u.maxScrubPasses = some 0 → s.Refuses (s.configure disk u)) ∧
      (u.maxScrubPasses ≠ some 0 → Grants disk s u (s.configure disk u))) ∧
    (∀ values,
      (Environment.Malformed values → s.Refuses (s.configureFrom disk (.ofBytes values))) ∧
      (¬ Environment.Malformed values → ∃ u, Environment.GivesAll values u ∧
        u.maxScrubPasses ≠ some 0 ∧
        s.configureFrom disk (.ofBytes values) = s.configure disk u)) ∧
    (∀ start spec environment last, Fresh spec environment start → Configured start last s →
      1 ≤ s.policy.maxScrubPasses) ∧
    ∀ (scene : Scene) policy filters modules buffers cwd steps,
      1 ≤ (scene.play steps
        (Session.start scene policy filters modules buffers cwd)).policy.maxScrubPasses := by
  refine ⟨fun u => ⟨configure_refuses, configure_grants⟩,
    fun values => ⟨configureFrom_refuses, configureFrom_eq⟩, ?_, ?_⟩
  · intro start spec environment last fresh configured
    exact configured.maxScrubPasses fresh
  · intro scene policy filters modules buffers cwd steps
    exact performAll_keepsPassing scene scene.totalLimit steps _
      (start_maxScrubPasses scene policy filters modules buffers cwd)

namespace Exported

/-- Variables that are set to texts. -/
def texts (held : Table String) (name : String) : Option ByteArray :=
  (Table.get? name held).map String.toUTF8

/-- All variables, with blanks, letter case and signs that are ignored, and a blank path. -/
def sound : String → Option ByteArray := texts
  [(Environment.logLevel, " debug "), (Environment.logFile, " "), (Environment.jsonErrors, "Yes"),
    (Environment.scrubRegistry, " f"), (Environment.maxScrubPasses, "+012"),
    (Environment.replayUnflushed, "TRUE")]

/-- The last variable that is read is no truth value, and the others are well formed. -/
def lastTorn : String → Option ByteArray := texts
  [(Environment.logLevel, "debug"), (Environment.jsonErrors, "yes"),
    (Environment.maxScrubPasses, "12"), (Environment.replayUnflushed, "maybe")]

/-- A switch is set to a byte that no text begins with. -/
def garbled (name : String) : Option ByteArray :=
  if name = Environment.jsonErrors then some ⟨#[0xff]⟩ else none

/-- What the variables ask for. -/
def asked : Policy.Update where
  logLevel := some " debug "
  logFile := some " "
  jsonErrors := some true
  scrubRegistry := some false
  maxScrubPasses := some 12
  replayUnflushed := some true

theorem sound_asks : (Environment.ofBytes sound).policyUpdate = .ok asked := by decide +kernel

end Exported

open FourRequests Exported in
/-- A request is refused for its last variable, whatever the others hold, and one is granted that is
written with blanks and a sign. -/
theorem environment_is_taken_as_a_whole :
    Fresh "info,other=off" (some "debug") installed ∧
    Configured installed (some disk) fourth ∧ 1 ≤ fourth.policy.maxScrubPasses ∧
    Environment.Malformed lastTorn ∧
    fourth.Refuses (fourth.configureFrom disk (.ofBytes lastTorn)) ∧
    fourth.Refuses (fourth.configure disk { maxScrubPasses := some 0, jsonErrors := some false }) ∧
    ¬ Environment.Malformed sound ∧
    (∃ u, Environment.GivesAll sound u ∧
      fourth.configureFrom disk (.ofBytes sound) = fourth.configure disk u ∧
      Grants disk fourth u (fourth.configure disk u)) ∧
    (fourth.configureFrom disk (.ofBytes sound)).2.policy =
      { logLevel := some "debug", logFile := none, jsonErrors := true, scrubRegistry := false,
        maxScrubPasses := 12, replayUnflushed := true } := by
  have fresh : Fresh "info,other=off" (some "debug") installed := ⟨rfl, rfl⟩
  obtain ⟨calls, readings, passes, _⟩ := policy_requests_are_all_or_nothing disk fourth
  have torn : Environment.Malformed lastTorn :=
    .inl ⟨Environment.replayUnflushed, by decide, "maybe", rfl, by decide⟩
  obtain ⟨whole, _⟩ := Environment.policyUpdate_eq_ok.mp sound_asks
  obtain ⟨u, gives, some, same⟩ := (readings sound).2 whole
  exact ⟨fresh, configured, passes _ _ _ _ fresh configured, torn, (readings lastTorn).1 torn,
    (calls _).1 rfl, whole, ⟨u, gives, same, (calls u).2 some⟩, by decide +kernel⟩

open FourRequests Exported in
/-- A switch that is set to what is no text is set to no truth value, and the request is granted all
the same. -/
theorem unreadable_switch_is_ignored :
    Environment.jsonErrors ∈ Environment.switches ∧
    (∃ bytes, garbled Environment.jsonErrors = some bytes ∧
      ∀ text b, bytes = text.toUTF8 → ¬ Environment.MeansTruth text b) ∧
    ¬ ∃ f, (installed.configureFrom disk (.ofBytes garbled)).1 = .error f := by
  refine ⟨by decide, ⟨⟨#[0xff]⟩, rfl, fun text _ encoded => ?_⟩, ?_⟩
  · have unreadable : String.fromUTF8? ⟨#[0xff]⟩ = none := by decide +kernel
    cases unreadable.symm.trans (Environment.fromUTF8?_eq_some.mpr encoded)
  · have granted : (installed.configureFrom disk (.ofBytes garbled)).1 = .ok () := by
      decide +kernel
    rintro ⟨f, refused⟩
    cases granted.symm.trans refused

end Session
end WarningCapture
