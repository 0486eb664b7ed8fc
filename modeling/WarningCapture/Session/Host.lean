import WarningCapture.Session.State

/-!
What the code under test and its environment do to the host: they load and unload modules, change
the facility, and break and mend it.
-/

namespace WarningCapture.Session

def moduleStates (s : Session) : List (String × Option ShownCache) :=
  s.modules.entries.map fun (name, m) => (name, m.map Module.cache)

def setModules (s : Session) (entries : Table (Option Module)) : Session :=
  { s with modules := { s.modules with entries } }

def giveCache (s : Session) (name : String) : Session :=
  match Table.get? name s.modules.entries with
  | some (some m) => s.setModules (Table.put name (some (m.withCache .present)) s.modules.entries)
  | _ => s

def damage (s : Session) : HostDamage → Session
  | .facility d => s.withFacility (s.sinks.facility.damage d)
  | .functionType => { s with types := { s.types with function := false } }
  | .methodType => { s with types := { s.types with method := false } }

/-- Undoes all damage to the facility and the types of callables; the sinks stay as they are. -/
def heal (s : Session) : Session := { s.withFacility s.sinks.facility.heal with types := {} }

/-- Sets the facility from an attempt to change it. -/
def change (s : Session) (attempt : Except Fault Unit × Facility) : Attempt Unit :=
  (attempt.1, s.withFacility attempt.2)

end WarningCapture.Session
