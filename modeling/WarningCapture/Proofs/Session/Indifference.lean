import WarningCapture.Proofs.Session.Remapping

/-! Indifference to what holds the modules. A session in which no source moves goes the same way
whether a dictionary or another mapping holds the loaded modules: every flush returns the same
records and leaves the same ones pending. -/
namespace WarningCapture

/-- The step on its own account keeps to the directories and the targets, and leaves all modules in
place. -/
def Step.Steady (objects : HostObjects) (scope : Scope) : Step → Prop
  | .setModule name (some m) => m.Stays objects scope name
  | .changeDirectory cwd => scope.directories cwd
  | .flush _ (some (.ok names)) | .origins names _ => ∀ name ∈ names, scope.targets name
  | .functionLines name => scope.targets name
  | _ => True

namespace Session
variable {objects : HostObjects} {scope : Scope} {s t : Session}

namespace SameButHolder

/-- The targets claim the same of what is asked; they only show where their paths were found. -/
theorem origins (alike : SameButHolder objects scope s t) {targets : List String}
    (named : ∀ name ∈ targets, scope.targets name) (queries : List (String × Nat)) :
    EndAlike Outcome.unplaced (SameButHolder objects scope)
      (Outcome.of id (s.origins objects targets queries))
      (Outcome.of id (t.origins objects targets queries)) := by
  unfold Session.origins
  rcases alike.resolve named with ⟨err, here, there⟩ | ⟨r, q, here, there, sameClaims⟩
  · simp only [here, there]
    exact ((alike.raise err).of id).ends _
  · simp only [here, there, sameClaims.targetClaims, sameClaims.targetNotices, sameClaims.cache]
    exact ⟨rfl, (alike.noteResolution sameClaims).noteAll _⟩

theorem setModules (alike : SameButHolder objects scope s t)
    (change : Table (Option Module) → Table (Option Module))
    (stay : Module.AllStay objects scope (change s.modules.entries)) :
    SameButHolder objects scope (s.setModules (change s.modules.entries))
      (t.setModules (change t.modules.entries)) := by
  have settled : ({ s.modules with entries := change s.modules.entries } : Modules).Settled
      objects scope := ⟨alike.settled.dict, stay⟩
  have kept := alike.withModules settled
  unfold Session.setModules
  rw [alike.modules]
  exact kept

theorem giveCache (alike : SameButHolder objects scope s t) (name : String) :
    SameButHolder objects scope (s.giveCache name) (t.giveCache name) := by
  have entries : t.modules.entries = s.modules.entries := by rw [alike.modules]; rfl
  unfold Session.giveCache
  rw [entries]
  rcases found : Table.get? name s.modules.entries with _ | _ | m
  · exact alike
  · exact alike
  · have stays := (alike.settled.stay.get? found).withCache .present
    have stay : Module.AllStay objects scope
        (Table.put name (some (m.withCache .present)) s.modules.entries) :=
      alike.settled.stay.put fun inner same => Option.some.inj same ▸ stays
    have kept := alike.setModules (Table.put name (some (m.withCache .present))) stay
    rw [entries] at kept
    exact kept

theorem changeDirectory (alike : SameButHolder objects scope s t) {cwd : String}
    (inside : scope.directories cwd) :
    SameButHolder objects scope { s with cwd } { t with cwd } where
  settled := alike.settled
  inside := inside
  same := by rw [alike.same]; rfl
  past := alike.past

theorem close (alike : SameButHolder objects scope s t) (step : String) {o o' : Outcome}
    (same : o.unplaced = o'.unplaced) :
    SameButHolder objects scope (s.close step o) (t.close step o') where
  settled := alike.settled
  inside := alike.inside
  same := by rw [alike.same]; rfl
  past := by
    obtain ⟨past, rfl⟩ : ∃ past, t = s.elsewhere s.modules.asMapping s.cwd past := ⟨_, alike.same⟩
    simp only [Session.close, Session.add, List.map_cons, Event.unplaced, Entry.unplaced, same,
      alike.past]
    rfl

theorem performPlain {react react' : Reaction} (scene : Scene)
    (alike : SameButHolder scene.objects scope s t)
    (calls : react.Agree (SameButHolder scene.objects scope) react') {step : Step}
    (steady : step.Steady scene.objects scope) :
    EndAlike Outcome.unplaced (SameButHolder scene.objects scope) (s.performPlain scene react step)
      (t.performPlain scene react' step) := by
  cases step with
  | run | collect => exact ⟨rfl, alike⟩
  | flush buffer targets =>
    have named : ∀ names, targets = some (.ok names) → ∀ name ∈ names, scope.targets name := by
      rintro names rfl
      exact steady
    exact ((alike.flush buffer named).of _).ends _
  | functionLines target => exact ((alike.functionLines steady).of _).ends _
  | origins targets queries => exact alike.origins steady queries
  | modules =>
    have shown : s.moduleStates = t.moduleStates := by
      rw [moduleStates, moduleStates, alike.modules]
      rfl
    exact ⟨congrArg (fun shown => Outcome.returned (.modules shown)) shown, alike⟩
  | setModule name m? =>
    have stay : Module.AllStay scene.objects scope (Table.put name m? s.modules.entries) :=
      alike.settled.stay.put fun m same => by
        subst same
        exact steady
    exact ⟨rfl, alike.setModules _ stay⟩
  | deleteModule name => exact ⟨rfl, alike.setModules _ alike.settled.stay.erase⟩
  | giveCache name => exact ⟨rfl, alike.giveCache name⟩
  | changeDirectory cwd => exact ⟨rfl, alike.changeDirectory steady⟩
  | configure update =>
    exact (((Placeless.configure scene.disk update).agree alike).of _).ends _
  | configureFrom env =>
    exact (((Placeless.configureFrom scene.disk env).agree alike).of _).ends _
  | policy =>
    have policies : s.policy = t.policy := alike.read _ fun _ _ _ _ => rfl
    exact ⟨congrArg (fun p => Outcome.unplaced (.returned (.policy p))) policies, alike⟩
  | logState queries =>
    have loggers : s.logger = t.logger := alike.read _ fun _ _ _ _ => rfl
    simp only [Session.performPlain, ← loggers]
    exact ⟨rfl, alike⟩
  | _ =>
    have likeness := sameButHolder_likeness scene.objects scope
    exact (likeness.performOrdinary alike rfl (fun _ => rfl) calls rfl).ends _

end SameButHolder
end Session

/-- The same step, and a steady one. -/
def Step.SameSteady (objects : HostObjects) (scope : Scope) (step step' : Step) : Prop :=
  step.Steady objects scope ∧ step' = step

section
variable {objects : HostObjects} {scope : Scope}

mutual

theorem Step.corresponds_self (step : Step) (steady : step.Throughout (Step.Steady objects scope)) :
    step.Corresponds (Step.SameSteady objects scope) step := by
  cases step with
  | run _ _ body | collect _ _ body => exact ⟨_, rfl, allCorrespond_self body steady.2⟩
  | _ => exact ⟨steady.here, rfl⟩

theorem allCorrespond_self (steps : List Step)
    (steady : AllThroughout (Step.Steady objects scope) steps) :
    AllCorrespond (Step.SameSteady objects scope) steps steps := by
  cases steps with
  | nil => rfl
  | cons step rest =>
    exact ⟨_, _, rfl, step.corresponds_self steady.1, allCorrespond_self rest steady.2⟩

end
end

/-- Where listeners are steady, the scene is played alike, whatever holds the modules. -/
theorem Scene.parallel_self (scene : Scene) {scope : Scope}
    (quiet : scene.Throughout (Step.Steady scene.objects scope)) :
    scene.Parallel (Step.SameSteady scene.objects scope) Outcome.unplaced
      (Session.SameButHolder scene.objects scope) scene where
  likeness := Session.sameButHolder_likeness scene.objects scope
  close alike step _ _ same := alike.close step same
  related same plain := by
    obtain ⟨_, rfl⟩ := same
    exact ⟨plain, rfl⟩
  plain same _ calls _ _ alike := by
    obtain ⟨steady, rfl⟩ := same
    exact Session.SameButHolder.performPlain scene alike calls steady
  listener name := ⟨rfl, rfl, rfl, allCorrespond_self _ (quiet name)⟩
  totalLimit := rfl

namespace Session
variable {objects : HostObjects} {scope : Scope}

/-- At its start a session differs only in what holds the modules. -/
theorem start_sameButHolder {modules : Modules} (settled : modules.Settled objects scope)
    {cwd : String} (inside : scope.directories cwd) (scene : Scene) (policy : Policy.Update)
    (filters : List Filter) (buffers : Table Buffer) :
    SameButHolder objects scope (start scene policy filters modules buffers cwd)
      (start scene policy filters modules.asMapping buffers cwd) := by
  have before : SameButHolder objects scope (fresh scene filters modules buffers cwd)
      (fresh scene filters modules.asMapping buffers cwd) :=
    ⟨settled, inside, rfl, rfl⟩
  have configured := ((Placeless.configure scene.disk policy).agree before).after
  exact {
    settled := configured.settled
    inside := configured.inside
    same := by
      rw [start, configured.same]
      rfl
    past := rfl }

end Session

/-- The finished step without where the paths of targets were found. -/
def Stretch.unplaced (stretch : Stretch) : Stretch := ⟨stretch.entry.unplaced, stretch.events⟩

theorem Stretch.split_unplaced (seen events : List Event) :
    (split seen events).map unplaced = split seen (events.map Event.unplaced) := by
  induction events generalizing seen with
  | nil => rfl
  | cons e rest ih => cases e <;> simp [split, ih, Event.unplaced, unplaced]

/-- The events say the same about buffers without where paths were found. -/
theorem Event.held_unplaced {buffer : String} {before : List Record} (events : List Event) :
    held buffer before (events.map unplaced) = held buffer before events := by
  induction events with
  | nil => rfl
  | cons e rest ih =>
    have puts : e.unplaced.puts? buffer = e.puts? buffer := by cases e <;> rfl
    have takes : e.unplaced.takes buffer = e.takes buffer := by cases e <;> rfl
    rw [List.map_cons, held, held, ih, puts, takes]

namespace Session
variable {objects : HostObjects} {scope : Scope} {s t u v : Session}

theorem SameButHolder.pendingIn (alike : SameButHolder objects scope s t) (buffer : String) :
    s.pendingIn buffer = t.pendingIn buffer :=
  congrArg Buffer.records (alike.buffer buffer)

theorem SameButHolder.traces (alike : SameButHolder objects scope s t) :
    (Stretch.ofEvents s.events).map Stretch.unplaced =
      (Stretch.ofEvents t.events).map Stretch.unplaced := by
  simp only [Stretch.ofEvents, Stretch.split_unplaced, events, List.map_reverse, alike.past]

/-- Sessions that are the same but for what holds the modules hold the same at moments at which the
same has happened in them. -/
theorem SameButHolder.held (alike : SameButHolder objects scope s t)
    {W : Facility → Facility → Prop} (new : s.history = []) (new' : t.history = [])
    (now : Moment W s u) (now' : Moment W t v)
    (past : u.history.map Event.unplaced = v.history.map Event.unplaced) (buffer : String) :
    u.pendingIn buffer = v.pendingIn buffer := by
  rw [now.held new, now'.held new', alike.pendingIn, ← Event.held_unplaced u.history, past,
    Event.held_unplaced]

/-- What holds the modules makes no difference. Two runs of a session, of which the one has them in
a dictionary and the other in another mapping, come to the same with every step, as long as no
module is loaded that lies elsewhere than the functions of it that targets lead to were compiled. So
flushes return the same, in the end the same is pending, and so it is at moments with the same past.
Only where the paths of targets are asked for, it shows. -/
theorem holder_of_modules_is_indifferent {scene : Scene} {steps : List Step}
    {entries : Table (Option Module)} {cwd : String}
    (stay : Module.AllStay scene.objects scope entries) (inside : scope.directories cwd)
    (steady : AllThroughout (Step.Steady scene.objects scope) steps)
    (quiet : scene.Throughout (Step.Steady scene.objects scope)) (policy : Policy.Update)
    (filters : List Filter) (buffers : Table Buffer) :
    let s := start scene policy filters { store := .dict, entries } buffers cwd
    let t := start scene policy filters { store := .mapping, entries } buffers cwd
    (scene.trace steps s).map Stretch.unplaced = (scene.trace steps t).map Stretch.unplaced ∧
      (∀ buffer, (scene.play steps s).pendingIn buffer = (scene.play steps t).pendingIn buffer) ∧
      ∀ u v, Moment Facility.Anything s u → Moment Facility.Anything t v →
        u.history.map Event.unplaced = v.history.map Event.unplaced →
        ∀ buffer, u.pendingIn buffer = v.pendingIn buffer := by
  intro s t
  have settled : ({ store := .dict, entries } : Modules).Settled scene.objects scope := ⟨rfl, stay⟩
  have alike : SameButHolder scene.objects scope s t :=
    start_sameButHolder settled inside scene policy filters buffers
  have played := (scene.parallel_self quiet).play (allCorrespond_self steps steady) alike
  exact ⟨played.traces, played.pendingIn, fun _ _ now now' => alike.held rfl rfl now now'⟩

end Session

namespace Holders

/-- A function of the module `m`, compiled from the given file. -/
def objects (compiled : String) : HostObjects where
  entries :=
    [("f", ⟨.function { module := some "m", code := some "code" }, .plainFunction⟩)]
  codes := [("code", .compiled (.mk compiled [some 3] []))]

/-- A module that lies in the given file, and only shows that itself. -/
def lying (file : String) : Module := .mk none (some file) .absent [] none

def record : Record := ⟨"text", .warning, "/new.py", 3⟩

def flushing : List Step := [.pushRecord "b" record, .flush "b" (some (.ok ["f"])), .pending "b"]

/-- The module `n` is loaded from another directory before the flush. -/
def moving : List Step :=
  [.changeDirectory "/tmp", .setModule "n" (some (lying "n.py")),
    .origins ["f"] [("/new.py", 3)]] ++ flushing

/-- The trace of steps while the given store holds the module `m`, which lies at `/new.py`. -/
def trace (compiled : String) (steps : List Step) (store : ModuleStore) : List Stretch :=
  let scene : Scene := { objects := objects compiled }
  let modules : Modules := { store, entries := [("m", some (lying "/new.py"))] }
  scene.trace steps (Session.start scene {} [] modules [("b", {})] "/")

/-- The records that the steps return. -/
def returned (trace : List Stretch) : List (List Record) :=
  trace.filterMap fun stretch =>
    match stretch.entry.outcome with
    | .returned (.records records) => some records
    | _ => none

def scope : Scope where
  directories cwd := cwd = "/" ∨ cwd = "/tmp"
  targets name := name = "f"

/-- The function was compiled from the compiled file of its module. -/
theorem lying_stays : (lying "/new.py").Stays (objects "/new.pyc") scope "m" := by
  constructor
  · intro cwd live code inside told defined
    obtain ⟨_, _, _, _, _, _, _, found⟩ := defined
    obtain ⟨_, rfl⟩ : _ ∧ Code.compiled (.mk "/new.pyc" [some 3] []) = code := by
      simpa [objects, Table.get?] using found
    have normal : Path.normalise? cwd "/new.pyc" = some "/new.pyc" := by
      rcases inside with rfl | rfl <;> decide +kernel
    have lives : (lying "/new.py").sourcePath? cwd = some "/new.py" := by
      rcases inside with rfl | rfl <;> decide +kernel
    obtain rfl := Option.some.inj (lives.symm.trans told)
    exact ⟨"/new.pyc", "/new.pyc", rfl, normal, .inr ⟨"/new", .inr ⟨by decide, by decide⟩⟩⟩
  · intro entry member
    cases member

/-- No function is of the module `n`. -/
theorem lying_apart : (lying "n.py").Stays (objects "/new.pyc") scope "n" := by
  constructor
  · intro cwd live code inside told defined
    obtain ⟨target, fn, _, rfl, linked, owned, _⟩ := defined
    obtain rfl := List.mem_singleton.mp linked
    exact absurd owned (by decide)
  · intro entry member
    cases member

end Holders

open Holders in
/-- A session in which all modules stay in place, though it is continued in another directory and
with another module. A dictionary or not, the record is returned by the flush. -/
theorem settled_source_is_flushed_alike :
    (trace "/new.pyc" moving .dict).map Stretch.unplaced =
        (trace "/new.pyc" moving .mapping).map Stretch.unplaced ∧
      returned (trace "/new.pyc" moving .dict) = [[record], []] := by
  let scene : Scene := { objects := objects "/new.pyc" }
  have stay : Module.AllStay scene.objects scope [("m", some (lying "/new.py"))] := by
    intro entry member m same
    obtain rfl := List.mem_singleton.mp member
    obtain rfl := Option.some.inj same
    exact lying_stays
  have named : ∀ name ∈ ["f"], scope.targets name := fun _ => List.mem_singleton.mp
  have steady : AllThroughout (Step.Steady scene.objects scope) moving :=
    ⟨.inr rfl, lying_apart, named, trivial, named, trivial, trivial⟩
  have quiet : scene.Throughout (Step.Steady scene.objects scope) := fun _ => trivial
  have inside : scope.directories "/" := .inl rfl
  have agree := Session.holder_of_modules_is_indifferent stay inside steady quiet {} [] [("b", {})]
  exact ⟨agree.1, by decide +kernel⟩

open Holders in
/-- The module of the function has moved since it was compiled. Only where a dictionary holds the
modules, the flush returns the record of a warning from the place where it lies now. -/
theorem moved_source_shows_the_holder :
    returned (trace "/old.py" flushing .dict) = [[record], []] ∧
      returned (trace "/old.py" flushing .mapping) = [[], [record]] := by
  decide +kernel

end WarningCapture
