import WarningCapture.Text.Quoted
import WarningCapture.Warning.Category

/-!
Records: what a capture keeps of one warning. A record reads like a dictionary of four fields.
-/

namespace WarningCapture

structure Record where
  message : String
  category : Category
  filename : String
  line : Nat
  deriving DecidableEq, Repr

inductive FieldValue where
  | text (s : String)
  | category (c : Category)
  | line (n : Nat)
  deriving DecidableEq, Repr

/-- Line numbers of records are 32-bit naturals; others go to the nearer bound. -/
def clampLine (n : Int) : Nat := min n.toNat 0xffffffff

namespace Record

/-- Converts what a warning hook is given: the message, then the file, then the line. -/
def ofShown (message : Printable) (category : Category) (file : Printable) (line : Value) :
    Except Fault Record := do
  let message ← message.text
  let filename ← file.text
  let line ← line.toWord
  return { message, category, filename, line := clampLine line }

def keys : List String := ["message", "category", "filename", "lineno"]

def field? (r : Record) : String → Option FieldValue
  | "message" => some (.text r.message)
  | "category" => some (.category r.category)
  | "filename" => some (.text r.filename)
  | "lineno" => some (.line r.line)
  | _ => none

def get (r : Record) (key : String) : Except Fault FieldValue :=
  match r.field? key with
  | some value => .ok value
  | none => .error (.raised "KeyError" key)

def toDict (r : Record) : List (String × FieldValue) :=
  keys.filterMap fun key => (r.field? key).map (key, ·)

/-- What it takes to emit the warning again: the fields by name. -/
def emissionArguments (r : Record) : List (String × FieldValue) := r.toDict

def describe (r : Record) : String :=
  "WarningRecord(message=" ++ Text.quoted r.message ++
    ", category=" ++ r.category.name?.getD "<unknown>" ++
    ", filename=" ++ Text.quoted r.filename ++
    ", lineno=" ++ toString r.line ++ ")"

end Record
end WarningCapture
