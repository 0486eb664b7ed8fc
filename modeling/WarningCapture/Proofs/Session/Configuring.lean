import WarningCapture.Proofs.Log.Filters
import WarningCapture.Proofs.Session.Deeds

/-! How a session logs, through its policy updates. What the policy decides of the logger depends on
the policy in force and on the filter that the logger was installed with, and not on the updates
before; only the filter of the environment is lost to the first update. -/
namespace WarningCapture

/-- The path can be opened for appending, if only to find that it cannot be written. -/
def Log.Opening.opens : Opening → Bool
  | refused _ => false
  | _ => true

/-- What policies decide: the policy itself, whether errors are described, and the logger apart from
the test that is running. -/
structure Settings where
  policy : Policy
  jsonErrors : Bool
  logger : Log.Logger

namespace Settings

/-- The settings once a policy has been put in force. -/
def follow (disk : String → Log.Opening) (x : Settings) (p : Policy) : Settings where
  policy := p
  jsonErrors := p.jsonErrors
  logger :=
    { x.logger.setLevel p.logLevel with destination := Log.Logger.destinationFor disk p.logFile }

/-- The second settings are the first, or what following some policy makes of these. -/
def Become (x y : Settings) : Prop :=
  y = x ∨ ∃ disk p, y = x.follow disk p

theorem Become.trans {x y z : Settings} (first : x.Become y) (second : y.Become z) :
    x.Become z := by
  rcases second with rfl | ⟨disk, p, rfl⟩
  · exact first
  · rcases first with rfl | ⟨_, _, rfl⟩
    · exact .inr ⟨disk, p, rfl⟩
    · exact .inr ⟨disk, p, rfl⟩

end Settings

namespace Policy

/-- A configured level has no blanks around it, and is not empty. -/
def Tidy (p : Policy) : Prop :=
  ∀ level, p.logLevel = some level → Text.trim level = level ∧ level.isEmpty = false

theorem levelOf_tidy {text level : String} (read : levelOf text = some level) :
    Text.trim level = level ∧ level.isEmpty = false := by
  unfold levelOf at read
  simp only at read
  split at read
  · cases read
  · rename_i nonempty
    cases read
    exact ⟨Text.trim_trim text, by simpa using nonempty⟩

theorem Tidy.apply {p : Policy} (tidy : p.Tidy) (u : Update) : (p.apply u).Tidy := by
  intro level named
  unfold Policy.apply at named
  cases given : u.logLevel with
  | none =>
    simp only [given, Option.elim_none] at named
    exact tidy level named
  | some text =>
    simp only [given, Option.elim_some] at named
    exact levelOf_tidy named

end Policy

/-- A request to update the policy: a call with the fields of an update, or a reading of the
environment. -/
inductive Request where
  | call (u : Policy.Update)
  | environment (env : Environment)

namespace Request

/-- The level that a request names. -/
def level? : Request → Option String
  | call u => u.logLevel
  | environment env => env.get? Environment.logLevel

def make (disk : String → Log.Opening) (s : Session) : Request → Attempt Unit
  | call u => s.configure disk u
  | environment env => s.configureFrom disk env

end Request

theorem Environment.policyUpdate_level {env : Environment} {u : Policy.Update}
    (read : env.policyUpdate = .ok u) : u.logLevel = env.get? logLevel := by
  simp only [policyUpdate, bind, Except.bind] at read
  repeat' split at read
  all_goals cases read
  rfl

namespace Session

def settings (s : Session) : Settings :=
  ⟨s.policy, s.jsonErrors, { s.logger with testId := none }⟩

/-- A session in a fresh process: the logger is installed, and no policy has been configured. -/
structure Fresh (spec : String) (environment : Option String) (s : Session) : Prop where
  logger : s.logger = Log.Logger.install spec environment
  policy : s.policy = {}

/-- From a start on policy updates are requested, refused or accepted, each with the disk as it is
then, and anything may happen in between that leaves the settings alone. The disk is that of the
last accepted request. -/
inductive Configured (start : Session) : Option (String → Log.Opening) → Session → Prop where
  | start : Configured start none start
  | otherwise : Configured start last s → t.settings = s.settings → Configured start last t
  | refused (r : Request) : Configured start last s → (r.make disk s).1.isOk = false →
      Configured start last (r.make disk s).2
  | accepted (r : Request) : Configured start last s → (r.make disk s).1.isOk = true →
      Configured start (some disk) (r.make disk s).2

variable {s t : Session}

theorem Remarked.settings (remarked : s.Remarked t) : t.settings = s.settings := by
  obtain ⟨es, rfl, _⟩ := remarked
  rfl

theorem applyPolicy_settings (disk : String → Log.Opening) (s : Session) (p : Policy) :
    (s.applyPolicy disk p).settings = s.settings.follow disk p := by
  let put : Session := { s with policy := p }
  let complained := put.noteAll (put.logger.levelNotices p.logLevel)
  let levelled : Session := { complained with logger := complained.logger.setLevel p.logLevel }
  let told := levelled.noteAll (Log.Logger.fileNotices disk p.logFile)
  have first : complained.settings = put.settings := (noteAll_remarked put _).settings
  have second : told.settings = levelled.settings := (noteAll_remarked levelled _).settings
  have policy : told.policy = p :=
    (congrArg Settings.policy second).trans (congrArg Settings.policy first)
  have logger : { told.logger with testId := none } =
      { s.logger with testId := none }.setLevel p.logLevel :=
    (congrArg Settings.logger second).trans
      (congrArg (fun x : Settings => x.logger.setLevel p.logLevel) first)
  show Settings.mk told.policy p.jsonErrors
    { { told.logger with testId := none } with
      destination := Log.Logger.destinationFor disk p.logFile } = _
  rw [policy, logger]
  rfl

/-- A request is refused with an error, or an update that names the same level is put in force. -/
theorem make_cases (disk : String → Log.Opening) (s : Session) (r : Request) :
    (∃ err, r.make disk s = s.raise err) ∨
      ∃ u : Policy.Update, u.logLevel = r.level? ∧
        r.make disk s = (.ok (), s.applyPolicy disk (s.policy.apply u)) := by
  cases r with
  | call u =>
    simp only [Request.make, Request.level?, configure, Policy.configure]
    split
    · rename_i refused
      exact .inl ⟨_, rfl⟩
    · rename_i p accepted
      split at accepted
      · cases accepted
      · cases accepted
        exact .inr ⟨u, rfl, rfl⟩
  | environment env =>
    simp only [Request.make, Request.level?, configureFrom]
    split
    · exact .inl ⟨_, rfl⟩
    · rename_i u read
      exact .inr ⟨u, Environment.policyUpdate_level read, rfl⟩

theorem make_refused {r : Request} {disk : String → Log.Opening}
    (refused : (r.make disk s).1.isOk = false) : (r.make disk s).2.settings = s.settings := by
  rcases make_cases disk s r with ⟨err, raised⟩ | ⟨u, _, accepted⟩
  · rw [raised]
    exact (s.report_remarked err).settings
  · rw [accepted] at refused
    cases refused

theorem make_accepted {r : Request} {disk : String → Log.Opening}
    (accepted : (r.make disk s).1.isOk = true) :
    ∃ u : Policy.Update, u.logLevel = r.level? ∧
      (r.make disk s).2.settings = s.settings.follow disk (s.policy.apply u) := by
  rcases make_cases disk s r with ⟨err, raised⟩ | ⟨u, level, made⟩
  · rw [raised] at accepted
    cases accepted
  · rw [made]
    exact ⟨u, level, applyPolicy_settings disk s _⟩

/-- A deed other than putting a policy in force leaves the settings alone. -/
theorem Deed.settings {Tags : Option String → Prop} (deed : Deed Tags s t) :
    s.settings.Become t.settings := by
  cases deed with
  | note _ n => exact .inl (s.note_remarked n).settings
  | report _ err => exact .inl (s.report_remarked err).settings
  | applyPolicy _ disk p => exact .inr ⟨disk, p, applyPolicy_settings disk s p⟩
  | @dismiss o _ _ r =>
    exact .inl (note_remarked ((s.add (.captured r)).add (.dropped o.id r)) _).settings
  | _ => exact .inl rfl

theorem Proceeds.settings {Tags : Option String → Prop} (proceeds : Proceeds Tags s t) :
    s.settings.Become t.settings := by
  induction proceeds with
  | deed deed => exact deed.settings
  | trans _ _ first second => exact first.trans second
  | run _ inner => exact inner
  | call _ _ _ _ inner => exact inner

/-- At every moment of a session, inside runs and calls of listeners too, the settings are those of
its start, or those that some policy makes of them, whatever policies came before it. -/
theorem Passes.settings {Tags : Option String → Prop} (passes : Passes Tags s t) :
    s.settings.Become t.settings := by
  induction passes with
  | now before => exact before.settings
  | running before _ inner => exact before.settings.trans inner
  | called before _ _ _ _ inner => exact before.settings.trans inner

end Session

namespace Settings
open Log (Directives Opening)
variable {x y : Settings} {spec : String} {disk : String → Opening}

/-- The path that lines are written to. -/
def path? (x : Settings) : Option String :=
  match x.logger.destination with
  | .stderr => none
  | .file path | .fullFile path _ => some path

/-- The settings follow the policy: its level if that parses, its log file if that opens on the
disk, and its switch for error descriptions. -/
structure Follows (defaults : Directives) (disk : String → Opening) (x : Settings) : Prop where
  filter : x.logger.current =
    (x.policy.logLevel.bind fun level => Directives.parse level defaults.fallback).getD defaults
  jsonErrors : x.jsonErrors = x.policy.jsonErrors
  path : x.path? = x.policy.logFile.filter fun path => (disk path).opens

/-- What requests keep true of the settings, from the start on. -/
structure Sound (spec : String) (last : Option (String → Opening)) (x : Settings) : Prop where
  defaults : x.logger.defaults = Log.Logger.defaultDirectives spec
  ceiling : x.logger.ceiling = x.logger.current.loudest
  tidy : x.policy.Tidy
  unset : last = none → x.policy = {}
  followed : ∀ disk, last = some disk → x = x.follow disk x.policy

theorem follow_filter {p : Policy} (tidy : p.Tidy) (disk : String → Opening) (x : Settings) :
    (x.follow disk p).logger.current =
      (p.logLevel.bind fun level => Directives.parse level x.logger.defaults.fallback).getD
        x.logger.defaults := by
  show (x.logger.directivesFor p.logLevel).getD x.logger.defaults = _
  cases named : p.logLevel with
  | none => rfl
  | some level =>
    obtain ⟨trimmed, nonempty⟩ := tidy level named
    simp only [Log.Logger.directivesFor, trimmed, nonempty, Bool.false_eq_true, if_false,
      Option.bind_some]

theorem follow_path (disk : String → Opening) (x : Settings) (p : Policy) :
    (x.follow disk p).path? = p.logFile.filter fun path => (disk path).opens := by
  unfold path? follow Log.Logger.destinationFor
  cases p.logFile with
  | none => rfl
  | some path => cases opened : disk path <;> simp [opened, Opening.opens, Option.filter_some]

theorem Sound.start {s : Session} {environment : Option String}
    (fresh : s.Fresh spec environment) : s.settings.Sound spec none where
  defaults := by rw [Session.settings, fresh.logger]; rfl
  ceiling := by rw [Session.settings, fresh.logger]; rfl
  tidy := by
    intro level named
    rw [Session.settings, fresh.policy] at named
    cases named
  unset _ := fresh.policy
  followed _ none := nomatch none

theorem Sound.follow (sound : x.Sound spec last) (disk : String → Opening) (u : Policy.Update) :
    (x.follow disk (x.policy.apply u)).Sound spec (some disk) where
  defaults := sound.defaults
  ceiling := rfl
  tidy := sound.tidy.apply u
  unset none := nomatch none
  followed other same := by
    cases same
    rfl

theorem Sound.follows (sound : x.Sound spec (some disk)) :
    x.Follows (Log.Logger.defaultDirectives spec) disk where
  filter := by
    rw [sound.followed disk rfl, follow_filter sound.tidy disk x, sound.defaults]
    rfl
  jsonErrors := by rw [sound.followed disk rfl]; rfl
  path := by rw [sound.followed disk rfl, follow_path disk x x.policy]; rfl

end Settings

namespace Session
variable {start s t : Session} {spec : String} {environment : Option String}
  {last : Option (String → Log.Opening)}

theorem Configured.sound (fresh : start.Fresh spec environment)
    (configured : Configured start last s) : s.settings.Sound spec last := by
  induction configured with
  | start => exact .start fresh
  | otherwise _ same ih => rwa [same]
  | refused _ _ made ih => rwa [make_refused made]
  | accepted _ _ made ih =>
    obtain ⟨u, _, followed⟩ := make_accepted made
    rw [followed]
    exact ih.follow _ u

/-- The logger follows the policy and not its history. After any requests the ceiling is the loudest
threshold of the filter and turns away nothing that the filter allows, and once a request has been
accepted the settings are those that the policy asks for. -/
theorem logger_follows_the_policy (fresh : start.Fresh spec environment)
    (configured : Configured start last s) :
    s.logger.current.Loudest s.logger.ceiling ∧
      (∀ level target, s.logger.enabled level target = true →
        s.logger.ceiling.admits level = true) ∧
      ∀ disk, last = some disk →
        s.settings.Follows (Log.Logger.defaultDirectives spec) disk := by
  have sound := configured.sound fresh
  have loudest : s.logger.current.Loudest s.logger.ceiling := by
    rw [show s.logger.ceiling = s.logger.current.loudest from sound.ceiling]
    exact s.logger.current.loudest_isLoudest
  refine ⟨loudest, fun level target allowed => loudest.admits allowed, ?_⟩
  rintro disk rfl
  exact sound.follows

/-- A session starts with its policy requested in a fresh process. -/
theorem start_configured (scene : Scene) (policy : Policy.Update) (filters : List Filter)
    (modules : Modules) (buffers : Table Buffer) (cwd : String) :
    ∃ before last, before.Fresh defaultFilter none ∧
      Configured before last (Session.start scene policy filters modules buffers cwd) := by
  let before := Session.fresh scene filters modules buffers cwd
  have new : before.Fresh defaultFilter none := ⟨rfl, rfl⟩
  cases granted : ((Request.call policy).make scene.disk before).1.isOk with
  | false => exact ⟨before, none, new, .otherwise (.refused (.call policy) .start granted) rfl⟩
  | true => exact ⟨before, _, new, .otherwise (.accepted (.call policy) .start granted) rfl⟩

/-- At every moment of a session, inside runs and calls of listeners too, the ceiling turns away
nothing that the filter allows. -/
theorem Passes.loudest {Tags : Option String → Prop} {scene : Scene} {policy : Policy.Update}
    {filters : List Filter} {modules : Modules} {buffers : Table Buffer} {cwd : String}
    (passes : Passes Tags (Session.start scene policy filters modules buffers cwd) s) :
    s.logger.current.Loudest s.logger.ceiling := by
  obtain ⟨fresh, last, new, configured⟩ :=
    start_configured scene policy filters modules buffers cwd
  have sound := configured.sound new
  have ceiling : s.settings.logger.ceiling = s.settings.logger.current.loudest := by
    rcases passes.settings with same | ⟨disk, p, followed⟩
    · rw [same]
      exact sound.ceiling
    · rw [followed]
      rfl
  rw [show s.logger.ceiling = s.logger.current.loudest from ceiling]
  exact s.logger.current.loudest_isLoudest

end Session

namespace FourRequests

def disk (path : String) : Log.Opening :=
  if path = "/dev/full" then .full "No space left on device (os error 28)"
  else if path = "/nonexistent/log" then .refused "No such file or directory (os error 2)"
  else .writable

def unreadable : Request := .call { logLevel := some "loud", logFile := some "/nonexistent/log" }

def passless : Request := .call { maxScrubPasses := some 0, jsonErrors := some true }

def exported (jsonErrors : String) : Request :=
  .environment
    { get? := fun name =>
        if name = Environment.logLevel then some " other=trace "
        else if name = Environment.logFile then some "/dev/full"
        else if name = Environment.jsonErrors then some jsonErrors
        else none }

def installed : Session := { logger := Log.Logger.install "info,other=off" (some "debug") }
def first : Session := (unreadable.make disk installed).2
def second : Session := (passless.make disk first).2
def third : Session := ((exported "yes").make disk second).2
def fourth : Session := ((exported "maybe").make disk third).2

theorem configured : Session.Configured installed (some disk) fourth := by
  have once : Session.Configured installed (some disk) first :=
    .accepted unreadable .start (by decide +kernel)
  have twice : Session.Configured installed (some disk) second :=
    .refused passless once (by decide +kernel)
  have thrice : Session.Configured installed (some disk) third :=
    .accepted (exported "yes") twice (by decide +kernel)
  exact .refused (exported "maybe") thrice (by decide +kernel)

end FourRequests

namespace Session
variable {start s : Session} {spec : String} {environment : Option String}
  {last : Option (String → Log.Opening)}

open FourRequests in
theorem logger_follows_the_third_of_four_requests :
    fourth.settings.Follows (Log.Logger.defaultDirectives "info,other=off") disk ∧
      fourth.logger.enabled .trace "other::part" = true ∧ fourth.jsonErrors = true ∧
      fourth.settings.path? = some "/dev/full" := by
  have fresh : installed.Fresh "info,other=off" (some "debug") := ⟨rfl, rfl⟩
  exact ⟨(logger_follows_the_policy fresh configured).2.2 disk rfl, by decide +kernel⟩

/-- A request that names no level leaves the filter alone, unless it is the first to be accepted:
then the filter of the environment gives way to the default one. -/
theorem first_update_resets_the_filter (fresh : start.Fresh spec environment)
    (configured : Configured start last s) (r : Request) (disk : String → Log.Opening)
    (unnamed : r.level? = none) :
    ((r.make disk s).1.isOk = true → last = none →
        (r.make disk s).2.logger.current = Log.Logger.defaultDirectives spec ∧
        (r.make disk s).2.logger.ceiling = (Log.Logger.defaultDirectives spec).loudest) ∧
      ((r.make disk s).1.isOk = false ∨ last.isSome = true →
        (r.make disk s).2.logger.current = s.logger.current ∧
        (r.make disk s).2.logger.ceiling = s.logger.ceiling) := by
  have sound := configured.sound fresh
  -- An accepted request that names no level has the level of the policy read once more.
  have reread : (r.make disk s).1.isOk = true →
      (r.make disk s).2.logger.current = (s.logger.setLevel s.policy.logLevel).current ∧
        (r.make disk s).2.logger.ceiling = (s.logger.setLevel s.policy.logLevel).ceiling := by
    intro accepted
    obtain ⟨u, level, followed⟩ := make_accepted accepted
    have kept : (s.policy.apply u).logLevel = s.policy.logLevel := by
      simp only [Policy.apply, level, unnamed, Option.elim_none]
    rw [← kept]
    exact ⟨congrArg (·.logger.current) followed, congrArg (·.logger.ceiling) followed⟩
  have unchanged : (r.make disk s).1.isOk = false →
      (r.make disk s).2.logger.current = s.logger.current ∧
        (r.make disk s).2.logger.ceiling = s.logger.ceiling := fun refused =>
    ⟨congrArg (·.logger.current) (make_refused refused),
      congrArg (·.logger.ceiling) (make_refused refused)⟩
  constructor
  · rintro accepted rfl
    obtain ⟨current, ceiling⟩ := reread accepted
    rw [show s.policy = {} from sound.unset rfl] at current ceiling
    rw [← show s.logger.defaults = Log.Logger.defaultDirectives spec from sound.defaults]
    exact ⟨current, ceiling⟩
  · rintro (refused | before)
    · exact unchanged refused
    · cases accepted : (r.make disk s).1.isOk with
      | false => exact unchanged accepted
      | true =>
        obtain ⟨current, ceiling⟩ := reread accepted
        obtain ⟨earlier, rfl⟩ := Option.isSome_iff_exists.mp before
        have followed := sound.followed earlier rfl
        have filter : s.logger.current = (s.logger.setLevel s.policy.logLevel).current :=
          congrArg (·.logger.current) followed
        have loudest : s.logger.ceiling = (s.logger.setLevel s.policy.logLevel).ceiling :=
          congrArg (·.logger.ceiling) followed
        exact ⟨current.trans filter.symm, ceiling.trans loudest.symm⟩

end Session

namespace UnnamedLevel

def request : Request := .call { replayUnflushed := some false }

def installed : Session :=
  { logger := Log.Logger.install "trial_warnings=warn" (some "debug") }

def once : Session := (request.make (fun _ => .writable) installed).2
def twice : Session := (request.make (fun _ => .writable) once).2

end UnnamedLevel

open UnnamedLevel in
theorem second_update_keeps_the_filter :
    twice.logger.current = once.logger.current ∧ twice.logger.ceiling = once.logger.ceiling := by
  have fresh : installed.Fresh "trial_warnings=warn" (some "debug") := ⟨rfl, rfl⟩
  have configured : Session.Configured installed (some fun _ => .writable) once :=
    .accepted request .start (by decide +kernel)
  exact (Session.first_update_resets_the_filter fresh configured request
    (fun _ => .writable) rfl).2 (.inr rfl)

/-- The filter of the environment does not outlast an update that names no level. -/
theorem first_update_drops_the_environment :
    UnnamedLevel.request.level? = none ∧
      UnnamedLevel.installed.logger.enabled .debug "trial_warnings" = true ∧
      UnnamedLevel.once.logger.enabled .debug "trial_warnings" = false ∧
      UnnamedLevel.installed.logger.ceiling = .upTo .debug ∧
      UnnamedLevel.once.logger.ceiling = .upTo .warn := by
  decide +kernel

end WarningCapture
