import WarningCapture.Host.Fault
import WarningCapture.Source.Path
import WarningCapture.Table

/-!
The table of loaded modules, ordered by when a name was first entered. A module tells where its
source lies, and carries the cache of warnings already shown from it.
-/

namespace WarningCapture

/-- A module's cache of shown warnings. -/
inductive ShownCache where
  /-- The module has none. -/
  | absent
  | present
  /-- The cache was reset to nothing. -/
  | cleared
  deriving DecidableEq, Repr

/-- A loaded module: where its loader and the module itself say the source lies, as far as that is
a text; its cache; and what resetting the cache does first: the entries it makes in the table
(`none` is an entry without a module), and whether it then refuses. -/
inductive Module where
  | mk (origin file : Option String) (cache : ShownCache)
      (spawn : List (String × Option Module)) (refusal : Option String)

namespace Module

def origin : Module → Option String
  | mk origin _ _ _ _ => origin

def file : Module → Option String
  | mk _ file _ _ _ => file

def cache : Module → ShownCache
  | mk _ _ cache _ _ => cache

def spawn : Module → List (String × Option Module)
  | mk _ _ _ spawn _ => spawn

def refusal : Module → Option String
  | mk _ _ _ _ refusal => refusal

def withCache (cache : ShownCache) : Module → Module
  | mk origin file _ spawn refusal => mk origin file cache spawn refusal

/-- A location that names a file: the marks of built-in and frozen modules do not. -/
def usablePath (cwd : String) (location : Option String) : Option String :=
  location.bind fun text =>
    if text = "built-in" ∨ text = "frozen" then none else Path.normalise? cwd text

/-- The file of the module's source: the loader's word first, the module's own second. -/
def sourcePath? (cwd : String) (m : Module) : Option String :=
  (usablePath cwd m.origin).or (usablePath cwd m.file)

end Module

/-- What holds the table: an ordinary dictionary, some other mapping, or nothing. -/
inductive ModuleStore where
  | dict
  | mapping
  /-- A mapping whose names can be listed so many times more; every later listing fails. -/
  | failing (listings : Nat) (f : Fault)
  | missing
  deriving DecidableEq, Repr

structure Modules where
  store : ModuleStore := .dict
  entries : Table (Option Module) := []

namespace Modules

/-- The source of a loaded module, known only while an ordinary dictionary holds the table. -/
def livePath? (ms : Modules) (cwd name : String) : Option String :=
  match ms.store, ms.entries.get? name with
  | .dict, some (some m) => m.sourcePath? cwd
  | _, _ => none

/-- Lists the names of the moment, if the table still lists them. -/
def listNames (ms : Modules) : Except Fault (List String) × Modules :=
  match ms.store with
  | .failing 0 f => (.error f, ms)
  | .failing (listings + 1) f =>
      (.ok (Table.names ms.entries), { ms with store := .failing listings f })
  | _ => (.ok (Table.names ms.entries), ms)

def missingFault : Fault := .missingAttribute "sys" "modules"

end Modules
end WarningCapture
