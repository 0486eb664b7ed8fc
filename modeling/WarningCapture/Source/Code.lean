import WarningCapture.Host.Fault
import WarningCapture.Source.LineTable

/-!
Code objects and the line tables they stand for. A genuine code object reports its lines without
fail; a stand-in may lack the reader of its entries, or fail anywhere while it is read, and then the
starts of its lines are tried instead.
-/

namespace WarningCapture

/-- A genuine code object: its file, the lines of its entries, and the code nested in it. -/
inductive CompiledCode where
  | mk (filename : String) (lines : List (Option Int)) (nested : List CompiledCode)

namespace CompiledCode

def filename : CompiledCode → String
  | mk filename _ _ => filename

/-- A jump from one line to another as code objects store it: a sign, and a magnitude of which 31
bits are kept. -/
def storedJump (jump : Int) : Int :=
  let magnitude : Int := (jump.natAbs % 0x80000000 : Nat)
  if jump < 0 then -magnitude else magnitude

/-- The lines that the entries report, given the line meant and the line reached so far. They are
the lines meant, unless a jump was too long to be stored. -/
def reportedLines : Int → Int → List (Option Int) → List (Option Int)
  | _, _, [] => []
  | meant, reached, none :: rest => none :: reportedLines meant reached rest
  | meant, reached, some line :: rest =>
      let reached := Int.bmod (reached + storedJump (line - meant)) 0x100000000
      some reached :: reportedLines line reached rest

def firstLine : Int := 1

def entryLine (entry : Option Int) : Option Nat := entry.bind fun n => (Value.int n).asLine?

mutual

def table : CompiledCode → LineTable
  | mk _ lines nested =>
      .node none (.ok ((reportedLines firstLine firstLine lines).map entryLine))
        (.ok (tables nested))

def tables : List CompiledCode → List LineTable
  | [] => []
  | code :: rest => code.table :: tables rest

end

end CompiledCode

/-- What reading a sequence of line entries gives: the values in it, or the first failure. -/
abbrev Listing := Except Fault (List Value)

/-- The constants of a stand-in: missing, not iterable, or code objects and other values, the
latter as `none`, which can be gone through again and again or only once. -/
inductive Constants where
  | absent
  | notIterable (f : Fault)
  | items (constants : List (Option CompiledCode))
  | onceOnly (constants : List (Option CompiledCode))

structure StandInCode where
  filename : Option String := none
  /-- The entries with a line each; none if the object has no reader of entries. -/
  entries : Option Listing := none
  /-- The lines that start somewhere in the code. -/
  starts : Listing
  constants : Constants := .absent

namespace StandInCode

/-- The failure to read the entries, which is got over. -/
def setback (code : StandInCode) : Option Fault :=
  match code.entries with
  | some (.error f) => some f
  | _ => none

/-- The readable entries, else the starts. -/
def listing (code : StandInCode) : Listing :=
  match code.entries with
  | some (.ok values) => .ok values
  | _ => code.starts

def lines (code : StandInCode) : Except CaptureError (List (Option Nat)) :=
  match code.listing with
  | .ok values => .ok (values.map Value.asLine?)
  | .error f =>
      .error ((environmentError .lineTableUnavailable "failed to read line table").withContext
        "error" f.render)

/-- Only genuine code objects count among the constants. -/
def nested (code : StandInCode) : Except CaptureError (List LineTable) :=
  match code.constants with
  | .absent => .ok []
  | .notIterable f =>
      .error ((environmentError .lineTableUnavailable "co_consts is not iterable").withContext
        "error" f.render)
  | .items constants | .onceOnly constants =>
      .ok (CompiledCode.tables (constants.filterMap id))

/-- What is left of a stand-in once its constants have been gone through. -/
def spent (code : StandInCode) : StandInCode :=
  match code.constants with
  | .onceOnly _ => { code with constants := .items [] }
  | _ => code

def table (code : StandInCode) : LineTable := .node code.setback code.lines code.nested

end StandInCode

inductive Code where
  | compiled (code : CompiledCode)
  | standIn (code : StandInCode)

namespace Code

def filename? : Code → Option String
  | compiled code => some code.filename
  | standIn code => code.filename

def table : Code → LineTable
  | compiled code => code.table
  | standIn code => code.table

def spent : Code → Code
  | compiled code => compiled code
  | standIn code => standIn code.spent

end Code
end WarningCapture
