import WarningCapture.Log.Notice
import WarningCapture.Host.Fault

/-!
Walks over a registry that may change while it is walked. A pass visits the keys of a snapshot that
no pass has visited before; setters may enter further keys, which a later pass visits. The walk ends
when a snapshot shows nothing new, when its passes are used up, or when the keys cannot be listed.
-/

namespace WarningCapture

/-- What a visit to one key came to. -/
inductive VisitOutcome where
  /-- The key is gone; a lookup that failed for another reason is reported. -/
  | absent (problem : Option Fault)
  /-- The entry holds no module. -/
  | vacant
  | reset
  | refused (reason : String)

/-- A registry in a state: the keys of the moment, and a visit that resets the entry of a key. -/
structure Registry (σ κ : Type) where
  keys : σ → Except Fault (List κ) × σ
  visit : κ → σ → VisitOutcome × σ

inductive WalkEnding where
  | complete
  /-- The passes were used up with this many keys unvisited. -/
  | limited (left : Nat)
  | unlisted (f : Fault)

/-- What a walk did: the visits in order, the number of passes, and how it ended. -/
structure Walk (κ : Type) where
  visits : List (κ × VisitOutcome)
  passes : Nat
  ending : WalkEnding

structure ScrubReport where
  visited : Nat
  reset : Nat
  /-- Keys that were gone or held no module. -/
  skipped : Nat
  failed : Nat
  passes : Nat
  deriving DecidableEq, Repr

namespace Registry
variable {σ κ : Type} [DecidableEq κ]

def unseen (seen : List κ) : List κ → List κ
  | [] => []
  | k :: rest => if k ∈ seen then unseen seen rest else k :: unseen (k :: seen) rest

omit [DecidableEq κ] in
def visitAll (r : Registry σ κ) : List κ → σ → List (κ × VisitOutcome) × σ
  | [], s => ([], s)
  | k :: rest, s =>
      let (outcome, s) := r.visit k s
      let (outcomes, s) := r.visitAll rest s
      ((k, outcome) :: outcomes, s)

/-- Walks on with so many passes left and some keys seen. -/
def walkFrom (r : Registry σ κ) : Nat → List κ → σ → Walk κ × σ
  | room, seen, s =>
      match r.keys s with
      | (.error f, s) => (⟨[], 0, .unlisted f⟩, s)
      | (.ok snapshot, s) =>
          match unseen seen snapshot, room with
          | [], _ => (⟨[], 0, .complete⟩, s)
          | pending, 0 => (⟨[], 0, .limited pending.length⟩, s)
          | pending, room + 1 =>
              let (visits, s) := r.visitAll pending s
              let (rest, s) := r.walkFrom room (seen ++ pending) s
              (⟨visits ++ rest.visits, rest.passes + 1, rest.ending⟩, s)

/-- A walk of at most so many passes, and of at least one where there is a key. -/
def walk (r : Registry σ κ) (maxPasses : Nat) (s : σ) : Walk κ × σ :=
  r.walkFrom (max 1 maxPasses) [] s

end Registry

namespace VisitOutcome

def isReset : VisitOutcome → Bool
  | reset => true
  | _ => false

def isSkipped : VisitOutcome → Bool
  | absent _ | vacant => true
  | _ => false

def isRefused : VisitOutcome → Bool
  | refused _ => true
  | _ => false

def notice? : VisitOutcome → Option Log.Notice
  | absent (some problem) =>
      some (Log.Component.registry.quote .debug "registry lookup failed: " problem)
  | refused reason =>
      some (Log.Component.registry.say .debug ("could not reset __warningregistry__: " ++ reason))
  | _ => none

end VisitOutcome

namespace Walk
variable {κ : Type}

def report (w : Walk κ) : ScrubReport where
  visited := w.visits.length
  reset := w.visits.countP (·.2.isReset)
  skipped := w.visits.countP (·.2.isSkipped)
  failed := w.visits.countP (·.2.isRefused)
  passes := w.passes

def limitNotice (maxPasses left : Nat) : Log.Notice :=
  Log.Component.registry.say .warn
    ("registry still growing after " ++ toString (max 1 maxPasses) ++ " passes; " ++
      toString left ++ " entries left unscrubbed")

/-- What a walk of at most so many passes has to say, in order. -/
def notices (w : Walk κ) (maxPasses : Nat) : List Log.Notice :=
  w.visits.filterMap (·.2.notice?) ++
    match w.ending with
    | .limited left => [limitNotice maxPasses left]
    | _ => []

/-- The report of a walk, unless its keys could not be listed. -/
def result (w : Walk κ) : Except Fault ScrubReport :=
  match w.ending with
  | .unlisted f => .error f
  | _ => .ok w.report

end Walk

def ScrubReport.notice (r : ScrubReport) : Log.Notice :=
  Log.Component.registry.say .debug
    ("scrubbed " ++ toString r.visited ++ " entries (" ++ toString r.reset ++ " reset, " ++
      toString r.skipped ++ " skipped, " ++ toString r.failed ++ " failed) in " ++
      toString r.passes ++ " passes")

def scanFailed (f : Fault) : CaptureError :=
  (environmentError .registryScanFailed "cannot enumerate module registry keys").withContext
    "error" f.render

end WarningCapture
