import WarningCapture.Registry.Walk
import WarningCapture.Source.Modules

/-!
The table of loaded modules as a registry: a visit clears the module's cache of shown warnings.
-/

namespace WarningCapture.Modules

/-- Resets the cache of a module under a name: the module first makes its entries in the table, then
refuses or loses its cache. A module that entered another one under its own name is out of the table
by the time its cache goes. -/
def resetCache (ms : Modules) (name : String) (m : Module) : VisitOutcome × Modules :=
  let grown : Modules := { ms with entries := Table.putAll m.spawn ms.entries }
  match m.refusal with
  | some text => (.refused ("AttributeError: " ++ text), grown)
  | none =>
      if (Table.names m.spawn).contains name then (.reset, grown)
      else
        let cleared := Table.put name (some (m.withCache .cleared)) grown.entries
        (.reset, { grown with entries := cleared })

def visit (name : String) (ms : Modules) : VisitOutcome × Modules :=
  match Table.get? name ms.entries with
  | none => (.absent none, ms)
  | some none => (.vacant, ms)
  | some (some m) => ms.resetCache name m

def registry : Registry Modules String where
  keys := listNames
  visit := visit

def unavailable : CaptureError :=
  (environmentError .registryScanFailed "sys.modules is unavailable").withContext
    "error" missingFault.render

end WarningCapture.Modules
