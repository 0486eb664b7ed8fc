/-!
Plain values of the host program. They pass through a capture unread, except that a warning's
message and file are printed and its line is read as an integer.
-/

namespace WarningCapture

/-- A value of the host; integers have any size, reals 64 bits. -/
inductive Value where
  | null
  | bool (b : Bool)
  | int (n : Int)
  | real (x : Float)
  | text (s : String)
  | list (items : List Value)
  | dict (pairs : List (String × Value))
  deriving Repr

namespace Value

def typeName : Value → String
  | null => "NoneType"
  | bool _ => "bool"
  | int _ => "int"
  | real _ => "float"
  | text _ => "str"
  | list _ => "list"
  | dict _ => "dict"

/-- The integer that a value stands for, truth values included. -/
def asInt? : Value → Option Int
  | bool b => some (if b then 1 else 0)
  | int n => some n
  | _ => none

end Value

def fitsWord (n : Int) : Bool :=
  decide (-0x8000000000000000 ≤ n) && decide (n < 0x8000000000000000)

/-- A line number as tables report it: an integer in the range of 32-bit naturals, else no line. -/
def Value.asLine? (v : Value) : Option Nat :=
  match v.asInt? with
  | some n => if 0 ≤ n ∧ n < 0x100000000 then some n.toNat else none
  | none => none

end WarningCapture
