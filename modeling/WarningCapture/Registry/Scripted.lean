import WarningCapture.Registry.Walk
import WarningCapture.Table

/-!
Registries of scripted entries, for exercising walks: each key has a behaviour that says how its
lookup and its reset go. The same entries can be reached directly, with keys compared by name, or
through a mapping of the host, with keys compared by identity and failures quoted by class.
-/

namespace WarningCapture.Scripted

inductive Behaviour where
  | plain
  /-- An entry without a module. -/
  | vacant
  /-- A reset enters another such entry, under the key with a prime. -/
  | endless
  /-- A lookup may fail; a reset removes keys, enters entries, and may then refuse. -/
  | scripted (lookup : Option Fault) (remove : List String) (spawn : List (String × Behaviour))
      (refusal : Option String)

inductive Access where
  | direct
  | mapping
  deriving DecidableEq, Repr

structure Rules where
  access : Access
  /-- The listing of keys, counted from one, that fails. -/
  failAt : Option Nat := none
  /-- Every listing of the mapping fails so. -/
  unlistable : Option Fault := none
  /-- A listing shows the keys twice over. -/
  doubled : Bool := false
  /-- Every listing of the mapping makes new key objects. -/
  fresh : Bool := false

structure State where
  entries : Table Behaviour
  listings : Nat := 0
  /-- Key objects made so far. -/
  made : Nat := 0
  looked : List String := []
  resets : List String := []

/-- A key object: its name, and which of the objects of that name it is. -/
structure Key where
  name : String
  number : Nat
  deriving DecidableEq, Repr

namespace Rules

def listingFault? (rules : Rules) (listings : Nat) : Option Fault :=
  match rules.access, rules.unlistable with
  | .mapping, some f => some f
  | _, _ =>
      if rules.failAt = some (listings + 1) then some (.raised "ValueError" "keys broke") else none

def keys (rules : Rules) (s : State) : Except Fault (List Key) × State :=
  match rules.listingFault? s.listings with
  | some f => (.error f, { s with listings := s.listings + 1 })
  | none =>
      let names := Table.names s.entries
      let names := if rules.doubled then names ++ names else names
      let fresh := rules.fresh && rules.access = .mapping
      let keys :=
        if fresh then names.zipIdx.map fun (name, i) => ⟨name, s.made + i + 1⟩
        else names.map fun name => ⟨name, 0⟩
      let made := if fresh then s.made + names.length else s.made
      (.ok keys, { s with listings := s.listings + 1, made })

/-- A failed lookup as the walk sees it: a missing key is never a problem. -/
def lookupProblem (rules : Rules) (f : Fault) : Option Fault :=
  if rules.access = .mapping ∧ f.className ≠ "KeyError" then some f else none

def refusalText (rules : Rules) (text : String) : String :=
  match rules.access with
  | .direct => text
  | .mapping => "AttributeError: " ++ text

def resetEntry (rules : Rules) (name : String) (s : State) : Behaviour → VisitOutcome × State
  | .vacant => (.vacant, s)
  | .plain => (.reset, { s with resets := s.resets ++ [name] })
  | .endless =>
      (.reset, { s with
        resets := s.resets ++ [name]
        entries := Table.put (name ++ "'") .endless s.entries })
  | .scripted _ remove spawn refusal =>
      let kept := remove.foldl (fun acc key => Table.erase key acc) s.entries
      let s := { s with resets := s.resets ++ [name], entries := Table.putAll spawn kept }
      match refusal with
      | some text => (.refused (rules.refusalText text), s)
      | none => (.reset, s)

def visit (rules : Rules) (key : Key) (s : State) : VisitOutcome × State :=
  let s : State := { s with looked := s.looked ++ [key.name] }
  match Table.get? key.name s.entries with
  | none => (.absent none, s)
  | some (.scripted (some f) _ _ _) => (.absent (rules.lookupProblem f), s)
  | some behaviour => rules.resetEntry key.name s behaviour

def registry (rules : Rules) : Registry State Key where
  keys := rules.keys
  visit := rules.visit

end Rules
end WarningCapture.Scripted
