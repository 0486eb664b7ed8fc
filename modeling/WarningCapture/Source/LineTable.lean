import WarningCapture.Host.Fault
import WarningCapture.Source.LineSet

/-!
Line tables of compiled bodies. A table reports lines in any order, some entries without a line,
and has the tables of the bodies nested in it; either half may be unreadable. The line set of a
table is the union of all that it and the tables nested in it report, down to a fixed depth.
-/

namespace WarningCapture

/-- A table: a failure got over while reading it, the reported lines, and the nested tables. -/
inductive LineTable where
  | node (setback : Option Fault) (lines : Except CaptureError (List (Option Nat)))
      (nested : Except CaptureError (List LineTable))

namespace LineTable

/-- Tables nested deeper than this are ignored. -/
def maxNesting : Nat := 64

/-- One thing met while a table is read. -/
inductive Reading where
  | setback (f : Fault)
  | line (n : Nat)
  | failure (err : CaptureError)

/-- What the entries of one table give. -/
def ownReadings (setback : Option Fault) (lines : Except CaptureError (List (Option Nat))) :
    List Reading :=
  (setback.map Reading.setback).toList ++
    match lines with
    | .ok entries => (entries.filterMap id).map .line
    | .error err => [.failure err]

mutual

/-- All that is met in depth-first order, a table's own lines before its nested tables, with so
many levels of nesting left. -/
def readings : Nat → LineTable → List Reading
  | 0, .node setback lines _ => ownReadings setback lines
  | levels + 1, .node setback lines nested =>
      ownReadings setback lines ++ nestedReadings levels nested

def nestedReadings : Nat → Except CaptureError (List LineTable) → List Reading
  | levels, .ok tables => allReadings levels tables
  | _, .error err => [.failure err]

def allReadings : Nat → List LineTable → List Reading
  | _, [] => []
  | levels, table :: rest => readings levels table ++ allReadings levels rest

end

/-- The lines met before the first failure, or that failure. -/
def linesOf : List Reading → Except CaptureError (List Nat)
  | [] => .ok []
  | .setback _ :: rest => linesOf rest
  | .line n :: rest => (linesOf rest).map (n :: ·)
  | .failure err :: _ => .error err

/-- The failures got over before the first that is not. -/
def setbacksOf : List Reading → List Fault
  | [] => []
  | .setback f :: rest => f :: setbacksOf rest
  | .line _ :: rest => setbacksOf rest
  | .failure _ :: _ => []

def collect (table : LineTable) : Except CaptureError LineSet :=
  (linesOf (readings maxNesting table)).map LineSet.ofLines

def setbacks (table : LineTable) : List Fault := setbacksOf (readings maxNesting table)

end LineTable
end WarningCapture
