import WarningCapture.Text.Grapheme

/-!
Quoted text. A text is put between double quotes, with a quote or backslash escaped by a backslash,
short forms for the common controls, and code points for whatever cannot be read alone.
-/

namespace WarningCapture.Text

/-- The digits of a number in lower-case hexadecimal, unpadded. -/
def hexDigits (n : Nat) : List Char := Nat.toDigits 16 n

/-- A character as its code point, `\u` and braces around the hexadecimal digits. -/
def codePoint (c : Char) : List Char := ['\\', 'u', '\x7b'] ++ hexDigits c.toNat ++ ['\x7d']

/-- One character as it stands inside quotes. -/
def escape (c : Char) : List Char :=
  if c = '"' || c = '\\' then ['\\', c]
  else if c = '\t' then ['\\', 't']
  else if c = '\n' then ['\\', 'n']
  else if c = '\r' then ['\\', 'r']
  else if c = '\x00' then ['\\', '0']
  else if standsAlone c then [c]
  else codePoint c

def quotedChars (cs : List Char) : List Char := '"' :: cs.flatMap escape ++ ['"']

def quoted (s : String) : String := String.ofList (quotedChars s.toList)

/-- An optional text: the word `None`, or the quoted text as the payload of `Some`. -/
def quotedOption : Option String → String
  | none => "None"
  | some s => "Some(" ++ quoted s ++ ")"

end WarningCapture.Text
