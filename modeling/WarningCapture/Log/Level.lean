import WarningCapture.Text.Blank
import WarningCapture.Text.Case

/-!
Log levels and the thresholds that admit them. A threshold admits the levels up to its own, `off`
admits none, and its written name is read in any letter case.
-/

namespace WarningCapture.Log

/-- Levels of a log line, from the gravest to the most detailed. -/
inductive Level where
  | error
  | warn
  | info
  | debug
  | trace
  deriving DecidableEq, Repr

namespace Level

def rank : Level → Nat
  | error => 1
  | warn => 2
  | info => 3
  | debug => 4
  | trace => 5

def name : Level → String
  | error => "ERROR"
  | warn => "WARN"
  | info => "INFO"
  | debug => "DEBUG"
  | trace => "TRACE"

def all : List Level := [error, warn, info, debug, trace]

end Level

inductive Threshold where
  | off
  | upTo (level : Level)
  deriving DecidableEq, Repr

namespace Threshold

def rank : Threshold → Nat
  | off => 0
  | upTo level => level.rank

def name : Threshold → String
  | off => "OFF"
  | upTo level => level.name

def all : List Threshold := off :: Level.all.map upTo

def admits (t : Threshold) (level : Level) : Bool := decide (level.rank ≤ t.rank)

def louder (a b : Threshold) : Threshold := if a.rank < b.rank then b else a

def parse (text : String) : Option Threshold :=
  all.find? fun t => Text.lower t.name == Text.lower text

theorem mem_all (t : Threshold) : t ∈ all := by
  cases t with
  | off => decide
  | upTo level => cases level <;> decide

theorem admits_louder (a b : Threshold) (level : Level) :
    (a.louder b).admits level = (a.admits level || b.admits level) := by
  unfold louder admits
  split <;> simp only [← Bool.decide_or, decide_eq_decide] <;> omega

end Threshold
end WarningCapture.Log
