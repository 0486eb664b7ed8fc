import WarningCapture.Host.Decimal
import WarningCapture.Host.Value
import WarningCapture.Text.Glyph

/-!
Printed values. At the top a text prints as itself; inside a list or dictionary it is a literal
between single quotes, or double quotes when it holds a single quote and no double one. Reals are
written with the fewest digits that read back to them.
-/

namespace WarningCapture.Value

/-- Digits in base 16, padded with zeros to a width. -/
private def paddedHex (width n : Nat) : List Char :=
  let digits := Nat.toDigits 16 n
  List.replicate (width - digits.length) '0' ++ digits

/-- One character of a literal; only those with a glyph in Unicode 14.0 stand for themselves. -/
private def literalChar (quote c : Char) : List Char :=
  if c = quote || c = '\\' then ['\\', c]
  else if c = '\t' then ['\\', 't']
  else if c = '\n' then ['\\', 'n']
  else if c = '\r' then ['\\', 'r']
  else if Text.hadGlyph c then [c]
  else if c.toNat < 0x100 then ['\\', 'x'] ++ paddedHex 2 c.toNat
  else if c.toNat < 0x10000 then ['\\', 'u'] ++ paddedHex 4 c.toNat
  else ['\\', 'U'] ++ paddedHex 8 c.toNat

def literalText (s : String) : String :=
  let cs := s.toList
  let quote := if cs.contains '\'' && !cs.contains '"' then '"' else '\''
  String.ofList (quote :: cs.flatMap (literalChar quote) ++ [quote])

/-- The digits of a decimal, of which the first `point` stand before the point. -/
private def positional (digits : List Char) (point : Int) : List Char :=
  let whole := point.toNat
  if point ≤ 0 then ['0', '.'] ++ List.replicate (-point).toNat '0' ++ digits
  else
    let fraction := digits.drop whole
    digits.take whole ++ List.replicate (whole - digits.length) '0' ++ ['.'] ++
      (if fraction.isEmpty then ['0'] else fraction)

/-- One digit before the point, and a signed exponent of two digits or more. -/
private def scientific (digits : List Char) (exponent : Int) : List Char :=
  let fraction := digits.drop 1
  let places := Nat.toDigits 10 exponent.natAbs
  digits.take 1 ++ (if fraction.isEmpty then [] else '.' :: fraction) ++ ['e'] ++
    (if exponent < 0 then ['-'] else ['+']) ++ List.replicate (2 - places.length) '0' ++ places

/-- A decimal is positional for exponents of its first digit from -4 to 15, and then keeps at least
one digit after the point. -/
def decimalText (d : Decimal) : String :=
  let digits := Nat.toDigits 10 d.digits
  let point : Int := digits.length + d.exponent
  String.ofList <|
    if d.digits = 0 then ['0', '.', '0']
    else if -4 < point ∧ point ≤ 16 then positional digits point
    else scientific digits (point - 1)

/-- A real by the fewest digits that read back to it; a zero keeps its sign. -/
def realText (x : Float) : String :=
  let sign := if 0x8000000000000000 ≤ x.toBits.toNat then "-" else ""
  if x.isNaN then "nan"
  else if x.isInf then sign ++ "inf"
  else sign ++ decimalText (Magnitude.ofFloat x).shortest

mutual

/-- A value inside a list or dictionary. -/
def literal : Value → String
  | null => "None"
  | bool b => if b then "True" else "False"
  | int n => toString n
  | real x => realText x
  | text s => literalText s
  | list items => "[" ++ String.intercalate ", " (literals items) ++ "]"
  | dict pairs => "\x7b" ++ String.intercalate ", " (literalPairs pairs) ++ "\x7d"

def literals : List Value → List String
  | [] => []
  | v :: rest => v.literal :: literals rest

def literalPairs : List (String × Value) → List String
  | [] => []
  | (k, v) :: rest => (literalText k ++ ": " ++ v.literal) :: literalPairs rest

end

def printed : Value → String
  | text s => s
  | v => v.literal

end WarningCapture.Value
