import WarningCapture.Warning.Record

/-!
Buffers: the records captured for one test, in the order of capture, with the id of the test and the
number of its runs in progress.
-/

namespace WarningCapture

structure Buffer where
  records : List Record := []
  testId : Option String := none
  running : Nat := 0
  deriving DecidableEq, Repr

namespace Buffer

def push (b : Buffer) (r : Record) : Buffer := { b with records := b.records ++ [r] }

def size (b : Buffer) : Nat := b.records.length

def isActive (b : Buffer) : Bool := decide (0 < b.running)

def enter (b : Buffer) : Buffer := { b with running := b.running + 1 }

def leave (b : Buffer) : Buffer := { b with running := b.running - 1 }

def describe (b : Buffer) : String :=
  "TestWarnings(test_id=" ++ Text.quotedOption b.testId ++ ", pending=" ++ toString b.size ++ ")"

end Buffer
end WarningCapture
