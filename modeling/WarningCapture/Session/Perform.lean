import WarningCapture.Session.Boundary
import WarningCapture.Session.Configure
import WarningCapture.Session.Drain
import WarningCapture.Session.Guards
import WarningCapture.Session.Host

/-!
Performing the steps of a session. The steps inside a capture are performed while its sink is
installed, and those of a listener while it is called. Listeners may call one another through the
warnings they emit, but each performs its steps in a limited number of calls only, so a bound on
their nesting that no session reaches can be told beforehand.
-/

namespace WarningCapture

namespace Ending

def echo (arguments : Arguments) : Value :=
  .dict [("args", .list arguments.positional), ("kwargs", .dict arguments.named)]

def conclude (arguments : Arguments) : Ending → Except Fault Value
  | returns v => .ok v
  | echoes => .ok (echo arguments)
  | raises f => .error f
  | notCallable typeName => .error (.notCallable typeName)

/-- Whether there are steps to be done at all. -/
def entered : Ending → Bool
  | notCallable _ => false
  | _ => true

end Ending

namespace Outcome

def of {α : Type} (result : α → Result) : Attempt α → Outcome × Session
  | (.ok a, s) => (.returned (result a), s)
  | (.error f, s) => (.failed f, s)

/-- The outcome of a step that has nothing to return. -/
def quiet : Attempt Unit → Outcome × Session
  | (.ok (), s) => (.silent, s)
  | (.error f, s) => (.failed f, s)

end Outcome

namespace Session

/-- Performs a step that holds no others; a capture is left alone here. -/
def performPlain (scene : Scene) (react : Reaction) (step : Step) (s : Session) :
    Outcome × Session :=
  match step with
  | .run .. | .collect .. => (.silent, s)
  | .warn message category file line =>
      Outcome.of (fun _ => .nothing) (s.emit react message category file line)
  | .showWith message category file line =>
      Outcome.of (fun _ => .nothing) (s.showWarning react message category file line)
  | .callObserver name message category file line =>
      Outcome.of (fun _ => .nothing)
        (s.callObserver react (s.observer name) message category file line)
  | .observe name listener =>
      if (scene.listener listener).callable then
        (.silent, s.nameObserver name (.listener listener))
      else (.failed (.raised "TypeError" "collector must be callable"), s)
  | .observeInto name buffer => (.silent, s.nameObserver name (.buffer buffer))
  | .push guard name => Outcome.quiet (s.pushGuard guard (s.observer name))
  | .release guard elsewhere => Outcome.of .truth (s.releaseGuard guard elsewhere)
  | .drop guard =>
      let (live, s) := s.dropGuard guard
      (.returned (.truth live), s)
  | .flush buffer targets => Outcome.of .records (s.flush scene.objects buffer targets)
  | .finish buffer => Outcome.of .faults (s.finish react buffer)
  | .pending buffer => (.returned (.records (s.buffer buffer).records), s)
  | .describe buffer =>
      let b := s.buffer buffer
      (.returned (.description b.describe b.testId), s)
  | .pushRecord buffer record =>
      let s := s.place buffer record
      (.returned (.truth (s.buffer buffer).records.isEmpty), s)
  | .functionLines target => Outcome.of .lines (s.functionLines scene.objects target)
  | .validate targets =>
      match scene.objects.validate s.types targets with
      | .ok () => (.returned .nothing, s)
      | .error err => Outcome.quiet (s.raise err)
  | .origins targets queries => Outcome.of id (s.origins scene.objects targets queries)
  | .scrub => Outcome.of .report s.scrubResult
  | .modules => (.returned (.modules s.moduleStates), s)
  | .setModule name m => (.silent, s.setModules (Table.put name m s.modules.entries))
  | .deleteModule name => (.silent, s.setModules (Table.erase name s.modules.entries))
  | .giveCache name => (.silent, s.giveCache name)
  | .changeDirectory cwd => (.silent, { s with cwd })
  | .replaceHook => Outcome.quiet (s.change (s.sinks.facility.setHook .custom))
  | .setFilters filters => Outcome.quiet (s.change (s.sinks.facility.replaceFilters filters))
  | .configure update => Outcome.of (fun _ => .nothing) (s.configure scene.disk update)
  | .configureFrom env => Outcome.of (fun _ => .nothing) (s.configureFrom scene.disk env)
  | .policy => (.returned (.policy s.policy), s)
  | .log notice => (.silent, s.note notice)
  | .logState queries =>
      (.returned (.logState s.logger.ceiling
        (queries.map fun (level, target) => s.logger.enabled level target)), s)
  | .setTestId testId =>
      (.returned (.testId s.logger.testId), { s with logger := { s.logger with testId } })
  | .fail err => Outcome.quiet (s.raise err)
  | .boundary label operation => Outcome.of .text (s.contain label operation)
  | .damage d => (.silent, s.damage d)
  | .heal => (.silent, s.heal)

end Session

section
variable (scene : Scene) (react : Reaction)

mutual

def Step.perform : Step → Session → Outcome × Session
  | .run buffer arguments body ending, s =>
      Outcome.of .value (s.run buffer
        (fun arguments s =>
          (ending.conclude arguments, if ending.entered then performAll body s else s))
        arguments)
  | .collect listener arguments body ending, s =>
      Outcome.of .value (s.collect scene listener
        (fun arguments s =>
          (ending.conclude arguments, if ending.entered then performAll body s else s))
        arguments)
  | step, s => s.performPlain scene react step

/-- Performs steps one after another, whatever becomes of each. -/
def performAll : List Step → Session → Session
  | [], s => s
  | step :: rest, s =>
      let (outcome, s) := step.perform s
      performAll rest (s.close step.name outcome)

end
end

namespace Listener

/-- What a call of a listener does, with a way to perform its steps. -/
def respond (scene : Scene) (performSteps : List Step → Session → Session) : Reaction :=
  fun name _ s =>
    let listener := scene.listener name
    let count := (Table.get? name s.calls).getD 0
    let s := { s with calls := Table.put name (count + 1) s.calls }
    (listener.raises.elim (.ok ()) .error,
      if count < listener.limit then performSteps listener.steps s else s)

end Listener

namespace Scene

/-- What listeners do when they are called, with steps nested at most so deep. -/
def reaction (scene : Scene) : Nat → Reaction
  | 0 => Listener.respond scene fun _ s => s
  | depth + 1 => Listener.respond scene (performAll scene (scene.reaction depth))

/-- Performs the steps of a session. Every call of a listener that performs steps uses up one of
its limited number, so calls are never nested deeper than all limits together. -/
def play (scene : Scene) (steps : List Step) (s : Session) : Session :=
  performAll scene (scene.reaction scene.totalLimit) steps s

end Scene
end WarningCapture
