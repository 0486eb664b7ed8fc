import Mathlib.Data.List.Forall2
import WarningCapture.Proofs.Session.Agreeing
import WarningCapture.Proofs.Session.Contents
import WarningCapture.Proofs.Session.Proceeding

/-! Logging is inert. Sessions whose policies and policy updates differ only in what they say of the
log come to the same, step by step, but for the lines they write, what exceptions show as they are
printed for these, and what is asked of the logger. -/
namespace WarningCapture

namespace Session
variable {s t : Session}

theorem play_sameButLog (scene : Scene) (steps : List Step) (alike : s.SameButLog t) :
    (scene.play steps s).SameButLog (scene.unlogged.play (allUnlogged steps) t) :=
  scene.parallel_unlogged.play (allCorrespond_unlogged steps) alike

theorem start_sameButLog {scene scene' : Scene} {policy policy' : Policy.Update}
    (scenes : scene.unlogged = scene'.unlogged) (same : policy.unlogged = policy'.unlogged)
    (filters : List Filter) (modules : Modules) (buffers : Table Buffer) (cwd : String) :
    (start scene policy filters modules buffers cwd).SameButLog
      (start scene' policy' filters modules buffers cwd) := by
  have voice : scene.unlogged.voice = scene'.unlogged.voice := congrArg Scene.voice scenes
  change scene.voice = scene'.voice at voice
  have before : (fresh scene filters modules buffers cwd).SameButLog
      (fresh scene' filters modules buffers cwd) := by
    unfold fresh
    rw [voice]
    exact .refl _
  have configured := before.configure same scene.disk scene'.disk
  exact configured.after.act (fun x => { x with history := [] }) fun _ => rfl

end Session

namespace Stretch

/-- Erasing the log from events erases it from the stretches that they are cut into. -/
theorem split_unlogged (voiceless : Bool) (events seen : List Event) :
    (split seen events).map (unlogged voiceless) =
      split (seen.filterMap (Event.unlogged? voiceless))
        (events.filterMap (Event.unlogged? voiceless)) := by
  induction events generalizing seen with
  | nil => rfl
  | cons e rest ih =>
    cases e with
    | finished entry =>
      simp only [split, List.map_cons, ih, List.filterMap_cons, Event.unlogged?, unlogged,
        List.filterMap_reverse, List.filterMap_nil]
    | uttered =>
      cases voiceless <;> simp [split, ih, Event.unlogged?]
    | _ => simp only [split, ih, List.filterMap_cons, Event.unlogged?]

/-- The two stretches differ at most in the lines written, in what exceptions show as they are
printed for these, and in what a finished step shows of the policy for the log and of the logger. If
exceptions are voiceless, all that is shown is the same. -/
structure Same (voiceless : Prop) (a b : Stretch) : Prop where
  step : a.entry.step = b.entry.step
  outcome : a.entry.outcome.unlogged = b.entry.outcome.unlogged
  depth : a.entry.depth = b.entry.depth
  hook : a.entry.hook = b.entry.hook
  filters : a.entry.filters = b.entry.filters
  buffers : a.entry.buffers = b.entry.buffers
  /-- The same warnings are passed to the ambient and the custom hook. -/
  displayed : a.events.filterMap Event.displayed? = b.events.filterMap Event.displayed?
  /-- The hooks show the same in all, if exceptions do not call them. -/
  shown : voiceless → a.events.filterMap Event.showing? = b.events.filterMap Event.showing?
  observed : a.events.filterMap Event.hearing? = b.events.filterMap Event.hearing?
  metrics : Event.metrics a.events = Event.metrics b.events
  events : a.events.filterMap (Event.unlogged? false) = b.events.filterMap (Event.unlogged? false)

/-- A view of the events that shows nothing of the log is the same of the events without it. -/
theorem view_unlogged {α : Type} {voiceless : Bool} {view : Event → Option α}
    (blind : ∀ e, (Event.unlogged? voiceless e).bind view = view e) (events : List Event) :
    (events.filterMap (Event.unlogged? voiceless)).filterMap view = events.filterMap view := by
  rw [List.filterMap_filterMap]
  exact List.filterMap_congr fun e _ => blind e

theorem same_of_unlogged {voiceless : Prop} [Decidable voiceless] {a b : Stretch}
    (same : a.unlogged (decide voiceless) = b.unlogged (decide voiceless)) :
    a.Same voiceless b := by
  have entries : a.entry.unlogged = b.entry.unlogged := congrArg entry same
  have told : a.events.filterMap (Event.unlogged? (decide voiceless)) =
      b.events.filterMap (Event.unlogged? (decide voiceless)) := congrArg events same
  have views : ∀ {α : Type} {view : Event → Option α},
      (∀ e, (Event.unlogged? (decide voiceless) e).bind view = view e) →
      a.events.filterMap view = b.events.filterMap view := fun blind => by
    rw [← view_unlogged blind a.events, ← view_unlogged blind b.events, told]
  have unheard : ∀ {α : Type} {view : Event → Option α} (showing : Showing),
      view (.uttered showing) = none →
      (Event.unlogged? (decide voiceless) (.uttered showing)).bind view =
        view (.uttered showing) := fun showing nothing => by
    rw [Event.unlogged?]
    split
    · rfl
    · exact nothing.symm
  exact {
    step := (congrArg Entry.step entries :)
    outcome := (congrArg Entry.outcome entries :)
    depth := (congrArg Entry.depth entries :)
    hook := (congrArg Entry.hook entries :)
    filters := (congrArg Entry.filters entries :)
    buffers := (congrArg Entry.buffers entries :)
    displayed := views fun e => by cases e <;> first | rfl | exact unheard _ rfl
    shown quiet := views fun e => by
      cases e <;> simp [quiet, Event.unlogged?, Event.showing?] <;> rfl
    observed := views fun e => by cases e <;> first | rfl | exact unheard _ rfl
    metrics := views fun e => by cases e <;> first | rfl | exact unheard _ rfl
    events := views fun e => by
      cases e with
      | uttered showing => exact unheard showing rfl
      | finished entry => exact congrArg (fun e => some (Event.finished e)) entry.unlogged_unlogged
      | _ => rfl }

theorem ofEvents_same {voiceless : Prop} [Decidable voiceless] {events events' : List Event}
    (same : events.filterMap (Event.unlogged? (decide voiceless)) =
      events'.filterMap (Event.unlogged? (decide voiceless))) :
    List.Forall₂ (Same voiceless) (ofEvents events) (ofEvents events') := by
  have cut : (ofEvents events).map (unlogged (decide voiceless)) =
      (ofEvents events').map (unlogged (decide voiceless)) := by
    unfold ofEvents
    rw [split_unlogged, split_unlogged, same]
  have erased : List.Forall₂ (· = ·) ((ofEvents events).map (unlogged (decide voiceless)))
      ((ofEvents events').map (unlogged (decide voiceless))) := by
    rw [cut]
    exact List.forall₂_refl _
  exact (List.forall₂_map_right_iff.mp (List.forall₂_map_left_iff.mp erased)).imp
    fun _ _ => same_of_unlogged

end Stretch

namespace Session
variable {scene scene' : Scene} {steps steps' : List Step} {s t : Session}

theorem plays_sameButLog (scenes : scene.unlogged = scene'.unlogged)
    (same : allUnlogged steps = allUnlogged steps') (alike : s.SameButLog t) :
    (scene.play steps s).SameButLog (scene'.play steps' t) := by
  have left := play_sameButLog scene steps alike
  rw [scenes, same] at left
  exact left.trans (play_sameButLog scene' steps' (.refl t)).symm

theorem SameButLog.traces (alike : s.SameButLog t) :
    List.Forall₂ (Stretch.Same s.Voiceless) (Stretch.ofEvents s.events)
      (Stretch.ofEvents t.events) := by
  classical
  have voiceless : s.Voiceless = t.Voiceless := alike.read Voiceless fun _ => rfl
  apply Stretch.ofEvents_same
  simp only [events, List.filterMap_reverse]
  have told : s.unlogged.history.reverse = t.unlogged.history.reverse :=
    congrArg (fun x => x.history.reverse) alike
  simpa only [unlogged, voiceless] using told

/-- Nothing that is done changes what exceptions show as they are printed. -/
theorem Deed.voice {Tags : Option String → Prop} (deed : Deed Tags s t) : t.voice = s.voice := by
  cases deed with
  | note _ n => exact (s.note_sameButLog n).read (fun x => x.voice) fun _ => rfl
  | report _ err => exact (s.report_sameButLog err).read (fun x => x.voice) fun _ => rfl
  | applyPolicy _ disk p =>
    exact (applyPolicy_sameButLog disk s p).read (fun x => x.voice) fun _ => rfl
  | dismiss => exact (note_sameButLog _ _).read (fun x => x.voice) fun _ => rfl
  | _ => rfl

theorem Proceeds.voice {Tags : Option String → Prop} (proceeds : Proceeds Tags s t) :
    t.voice = s.voice := by
  induction proceeds with
  | deed deed => exact deed.voice
  | trans _ _ first second => exact second.trans first
  | run _ inside => exact inside
  | call _ _ _ _ inside => exact inside

theorem play_voice (scene : Scene) (steps : List Step) (s : Session) :
    (scene.play steps s).voice = s.voice :=
  (play_proceeds scene (fun _ => allThroughout_of_forall Step.tagsWithin_anything _) steps
    (allThroughout_of_forall Step.tagsWithin_anything _) s).voice

theorem start_voice (scene : Scene) (policy : Policy.Update) (filters : List Filter)
    (modules : Modules) (buffers : Table Buffer) (cwd : String) :
    (start scene policy filters modules buffers cwd).voice = scene.voice := by
  let before := fresh scene filters modules buffers cwd
  have configured : Proceeds (fun _ => True) before (before.configure scene.disk policy).2 :=
    configure_proceeds scene.disk before policy
  exact configured.voice

/-- Logging is inert. Two runs of a session whose policies and policy updates differ only in the log
level, the log file and the description of errors come to the same with every step, but for the
lines they write, for what exceptions show as they are printed for these, for these fields of the
policy and for what is asked of the logger. If exceptions are voiceless, all that is shown is the
same. The sessions that the runs end in are the same but for the log, and buffers hold the same at
moments with the same past. -/
theorem logging_is_inert {policy policy' : Policy.Update}
    (scenes : scene.unlogged = scene'.unlogged) (policies : policy.unlogged = policy'.unlogged)
    (same : allUnlogged steps = allUnlogged steps') (filters : List Filter) (modules : Modules)
    (buffers : Table Buffer) (cwd : String) :
    let s := start scene policy filters modules buffers cwd
    let t := start scene' policy' filters modules buffers cwd
    List.Forall₂ (Stretch.Same scene.Voiceless) (scene.trace steps s) (scene'.trace steps' t) ∧
      (scene.play steps s).SameButLog (scene'.play steps' t) ∧
      ∀ u v, Moment Facility.Anything s u → Moment Facility.Anything t v →
        u.history.filterMap (Event.unlogged? false) =
          v.history.filterMap (Event.unlogged? false) →
        ∀ buffer, u.pendingIn buffer = v.pendingIn buffer := by
  intro s t
  have alike : s.SameButLog t := start_sameButLog scenes policies filters modules buffers cwd
  have played := plays_sameButLog scenes same alike
  have voice : (scene.play steps s).voice = scene.voice :=
    (play_voice scene steps s).trans (start_voice scene policy filters modules buffers cwd)
  have voiceless : (scene.play steps s).Voiceless = scene.Voiceless := by
    rw [Session.Voiceless, voice, Scene.Voiceless]
  exact ⟨voiceless ▸ played.traces, played, fun _ _ now now' => alike.held rfl rfl now now'⟩

end Session

namespace Loudness

def disk (path : String) : Log.Opening :=
  if path = "/dev/full" then .full "No space left on device (os error 28)"
  else .refused "No such file or directory (os error 2)"

/-- A scene with a listener that updates the policy before it warns. -/
def scene (update : Policy.Update) : Scene where
  listeners := [("listener",
    { steps := [.configure update, .warn "again" .warning "g.py" 4] })]
  disk := disk

def steps (inside outside : Policy.Update) : List Step :=
  [ .observe "observer" "listener", .push "guard" "observer", .configure outside,
    .run "buffer" {} [.configure inside, .warn "first" .warning "f.py" 3] (.returns .null),
    .finish "buffer", .validate ["nothing"], .policy ]

def loudScene : Scene := scene { logLevel := some "loud" }
def quietScene : Scene := scene {}

def loudSteps : List Step :=
  steps { logFile := some "/dev/full" } { logFile := some "/nonexistent", jsonErrors := some true }

def quietSteps : List Step := steps {} {}

def loud : List Stretch :=
  loudScene.trace loudSteps
    (Session.start loudScene { logLevel := some "trace" } [] {} [("buffer", {})] "/")

def quiet : List Stretch :=
  quietScene.trace quietSteps
    (Session.start quietScene { logLevel := some "off" } [] {} [("buffer", {})] "/")

/-- The lines that are written in the course of a trace. -/
def lines (trace : List Stretch) : List (Log.Line × Log.Outlet) :=
  trace.flatMap fun stretch => stretch.events.filterMap Event.line?

end Loudness

open Loudness in
/-- With a full disk, trailers and complaints about the log in the one run and silence in the other,
the steps of a test and of a listener come to the same. -/
theorem loud_and_quiet_runs_agree :
    List.Forall₂ (Stretch.Same loudScene.Voiceless) loud quiet ∧ loudScene.Voiceless ∧
      loud.length = 11 ∧ (lines loud).length = 11 ∧ lines quiet = [] := by
  have scenes : loudScene.unlogged = quietScene.unlogged := rfl
  have policies : ({ logLevel := some "trace" } : Policy.Update).unlogged =
      ({ logLevel := some "off" } : Policy.Update).unlogged := rfl
  have same : allUnlogged loudSteps = allUnlogged quietSteps := rfl
  have agree := Session.logging_is_inert scenes policies same [] {} [("buffer", {})] "/"
  exact ⟨agree.1, fun _ => rfl, by decide +kernel⟩

namespace Loudness

/-- The outcome of asking for the state of the logger under a policy. -/
def logState (policy : Policy.Update) : List Outcome :=
  (({} : Scene).trace [.logState []] (Session.start {} policy [] {} [] "/")).map (·.entry.outcome)

/-- A scene with exceptions that warn whenever they are printed for the log. -/
def outspoken : Scene where
  voice f := [⟨.ambient, f.className ++ " is printed", .warning, .prints "f.py", .int 1⟩]

/-- What hooks show under a policy at the end of a test, with a filter that turns the warning into
an exception. -/
def shownAtEnd (policy : Policy.Update) : List String :=
  let s := Session.start outspoken policy [⟨.error, .warning⟩] {} [("buffer", {})] "/"
  let trace := outspoken.trace
    [.pushRecord "buffer" ⟨"message", .warning, "f.py", 1⟩, .finish "buffer"] s
  trace.flatMap fun stretch => (stretch.events.filterMap Event.showing?).map (·.message)

end Loudness

open Loudness in
/-- What is asked of the logger itself follows the log level, and so does what an exception shows
that warns as it is printed: it is printed only if the line that quotes it is written. -/
theorem log_level_is_noticed :
    ({ logLevel := some "debug" } : Policy.Update).unlogged = ({} : Policy.Update).unlogged ∧
      logState { logLevel := some "debug" } ≠ logState {} ∧
      shownAtEnd { logLevel := some "debug" } = ["Warning is printed"] ∧ shownAtEnd {} = [] := by
  have louder : logState { logLevel := some "debug" } =
      [.returned (.logState (.upTo .debug) [])] := rfl
  have quieter : logState {} = [.returned (.logState (.upTo .warn) [])] := rfl
  refine ⟨rfl, ?_, by decide +kernel, by decide +kernel⟩
  rw [louder, quieter]
  intro same
  cases same

end WarningCapture
