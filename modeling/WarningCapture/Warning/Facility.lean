import WarningCapture.Warning.Filter

/-!
The host's warning facility: the hook that shows a warning, the filters, and the functions that
change them. Any of these may be missing, replaced or broken by the code under test. `emit` decides
what becomes of a warning; calling the hook is left to whoever emits it.
-/

namespace WarningCapture

inductive Collector where
  | buffer (name : String)
  | listener (name : String)
  deriving DecidableEq, Repr

/-- An observer: it stands in for the hook while a capture is active. -/
structure Observer where
  id : Nat
  collector : Collector
  deriving DecidableEq, Repr

inductive Hook where
  | ambient
  | custom
  | observer (o : Observer)
  deriving DecidableEq, Repr

inductive FilterBinding where
  | list
  /-- A tuple of filters, which cannot be copied or written. -/
  | tuple (items : List Filter)
  | missing
  deriving DecidableEq, Repr

inductive FunctionState where
  | intact
  | missing
  | broken
  deriving DecidableEq, Repr

structure Facility where
  /-- The hook; none if its name is missing. -/
  hook : Option Hook := some .ambient
  filterList : List Filter := []
  binding : FilterBinding := .list
  /-- The filters were last consulted as a tuple, which a missing name falls back on. -/
  consultedTuple : Bool := false
  /-- Warnings shown by a `once` filter since the filters last changed. -/
  shownOnce : List (String × Category) := []
  /-- The function that is told when the filters changed. -/
  filtersMutated : FunctionState := .intact
  /-- The function that emits a warning at a given place. -/
  warnExplicit : FunctionState := .intact
  simpleFilterBroken : Bool := false
  hookReadOnly : Bool := false
  deriving DecidableEq, Repr

namespace Facility

def brokenFunction (name : String) : Fault := .raised "ValueError" (name ++ " broke")

def missing (name : String) : Fault := .missingAttribute "warnings" name

def filters? (f : Facility) : Option (List Filter) :=
  match f.binding with
  | .list => some f.filterList
  | .tuple items => some items
  | .missing => none

def getHook (f : Facility) : Except Fault Hook :=
  match f.hook with
  | some hook => .ok hook
  | none => .error (missing "showwarning")

def setHook (f : Facility) (hook : Hook) : Except Fault Unit × Facility :=
  if f.hookReadOnly then (.error (.raised "AttributeError" "showwarning is read-only"), f)
  else (.ok (), { f with hook := some hook })

/-- A copy of the filters, which only the list gives. -/
def copyFilters (f : Facility) : Except Fault (List Filter) :=
  match f.binding with
  | .list => .ok f.filterList
  | .tuple _ => .error (.raised "AttributeError" "'tuple' object has no attribute 'copy'")
  | .missing => .error (missing "filters")

def assignFilters (f : Facility) (filters : List Filter) : Except Fault Unit × Facility :=
  match f.binding with
  | .list => (.ok (), { f with filterList := filters })
  | .tuple _ =>
      (.error (.raised "TypeError" "'tuple' object does not support item assignment"), f)
  | .missing => (.error (missing "filters"), f)

/-- Replaces the contents of the list and has the facility know of it. -/
def replaceFilters (f : Facility) (filters : List Filter) : Except Fault Unit × Facility :=
  match f.assignFilters filters with
  | (.ok (), f) => (.ok (), { f with shownOnce := [] })
  | (.error fault, f) => (.error fault, f)

/-- Tells the facility that the filters changed, if the function for it is there and works. -/
def noteMutation (f : Facility) : Facility :=
  match f.filtersMutated with
  | .intact => { f with shownOnce := [] }
  | _ => f

/-- Puts the filter that shows every warning in front. The list is changed before the function that
should be told of it can fail. -/
def showAll (f : Facility) : Except Fault Unit × Facility :=
  if f.simpleFilterBroken then (.error (brokenFunction "simplefilter"), f)
  else
    match f.binding with
    | .tuple _ =>
        (.error (.raised "AttributeError" "'tuple' object has no attribute 'remove'"), f)
    | .missing => (.error (.raised "NameError" "name 'filters' is not defined"), f)
    | .list =>
        let changed := { f with filterList := Filter.showAll.prioritise f.filterList }
        match f.filtersMutated with
        | .intact => (.ok (), changed.noteMutation)
        | .missing =>
            (.error (.raised "NameError" "name '_filters_mutated' is not defined"), changed)
        | .broken => (.error (brokenFunction "_filters_mutated"), changed)

/-- A line number as the emitting function takes it: a 32-bit integer. -/
def checkLine (line : Int) : Except Fault Unit :=
  if !fitsWord line then
    .error (.raised "OverflowError" "Python int too large to convert to C long")
  else if 0x80000000 ≤ line then
    .error (.raised "OverflowError" "signed integer is greater than maximum")
  else if line < -0x80000000 then
    .error (.raised "OverflowError" "signed integer is less than minimum")
  else .ok ()

inductive Emission where
  | fails (f : Fault)
  | suppressed
  /-- The warning goes to the hook; without one the facility prints it itself. -/
  | shown (hook : Option Hook)

/-- The filters that a warning is held against. -/
def consult (f : Facility) : Except Fault (List Filter) × Facility :=
  let notAList : Fault := .raised "ValueError" "_warnings.filters must be a list"
  match f.binding with
  | .list => (.ok f.filterList, { f with consultedTuple := false })
  | .tuple _ => (.error notAList, { f with consultedTuple := true })
  | .missing => (if f.consultedTuple then .error notAList else .ok f.filterList, f)

/-- Decides a warning that is well formed: the first filter that covers its category acts. -/
def decideWarning (f : Facility) (message : String) (category : Category) : Emission × Facility :=
  match f.consult with
  | (.error fault, f) => (.fails fault, f)
  | (.ok filters, f) =>
      match Filter.actionFor category filters with
      | .error => (.fails (.raised category.label message), f)
      | .ignore => (.suppressed, f)
      | .once =>
          if f.shownOnce.contains (message, category) then (.suppressed, f)
          else (.shown f.hook, { f with shownOnce := (message, category) :: f.shownOnce })
      | .always | .default | .module => (.shown f.hook, f)

/-- Emits a warning: its line is checked, then it is constructed, then the filters decide. -/
def emit (f : Facility) (message : String) (category : Category) (line : Int) :
    Emission × Facility :=
  match checkLine line with
  | .error fault => (.fails fault, f)
  | .ok () =>
      match category.construct message with
      | .error fault => (.fails fault, f)
      | .ok () => f.decideWarning message category

end Facility

inductive Damage where
  | missingHook
  | missingFilters
  | missingMutated
  | missingWarnExplicit
  | brokenSimpleFilter
  | brokenMutated
  | brokenWarnExplicit
  | filtersTuple
  | readOnlyHook
  deriving DecidableEq, Repr

namespace Facility

def damage (f : Facility) : Damage → Facility
  | .missingHook => { f with hook := none }
  | .missingFilters => { f with binding := .missing }
  | .missingMutated => { f with filtersMutated := .missing }
  | .missingWarnExplicit => { f with warnExplicit := .missing }
  | .brokenSimpleFilter => { f with simpleFilterBroken := true }
  | .brokenMutated => { f with filtersMutated := .broken }
  | .brokenWarnExplicit => { f with warnExplicit := .broken }
  | .filtersTuple => { f with binding := .tuple (f.filters?.getD f.filterList) }
  | .readOnlyHook => { f with hookReadOnly := true }

/-- Undoes all damage: the list is in place again with the contents it has, and the hook is the
ambient one. -/
def heal (f : Facility) : Facility :=
  { hook := some .ambient
    filterList := f.filterList
    consultedTuple := f.consultedTuple
    shownOnce := f.shownOnce }

end Facility
end WarningCapture
