import WarningCapture.Log.Level

/-!
Log filters. A specification is a comma-separated list of parts: a bare threshold sets the
fallback, `target=threshold` overrides it for a target and everything below it. Of the overrides
that cover a target the one with the longest name decides, and of equally long ones the last.
-/

namespace WarningCapture.Log

structure Directives where
  fallback : Threshold
  overrides : List (String × Threshold) := []
  deriving DecidableEq, Repr

/-- The pieces of a text between the occurrences of a character. -/
def pieces (sep : Char) : List Char → List (List Char)
  | [] => [[]]
  | c :: rest =>
      match pieces sep rest with
      | [] => [[c]]
      | head :: tail => if c = sep then [] :: head :: tail else (c :: head) :: tail

inductive Part where
  | bare (threshold : Threshold)
  | override (target : String) (threshold : Threshold)
  deriving DecidableEq, Repr

namespace Part

/-- Reads a trimmed, non-empty part; the first equals sign divides it. -/
def parse (part : List Char) : Option Part :=
  if part.contains '=' then
    let target := Text.trim (String.ofList (part.takeWhile (· ≠ '=')))
    let level := Text.trim (String.ofList ((part.dropWhile (· ≠ '=')).drop 1))
    (Threshold.parse level).map (override target)
  else (Threshold.parse (String.ofList part)).map bare

end Part

/-- A target equal to the name, or below it on a `::` boundary. -/
def covers (name target : List Char) : Bool :=
  name == target || (name ++ [':', ':']).isPrefixOf target

namespace Directives

/-- The trimmed, non-empty parts of a specification. -/
def parts (spec : String) : List (List Char) :=
  ((pieces ',' spec.toList).map Text.trimChars).filter fun part => !part.isEmpty

def add (d : Directives) : Part → Directives
  | .bare threshold => { d with fallback := threshold }
  | .override target threshold => { d with overrides := d.overrides ++ [(target, threshold)] }

/-- Reads a specification over a given fallback; one malformed part refuses it all. -/
def parse (spec : String) (fallback : Threshold) : Option Directives :=
  ((parts spec).mapM Part.parse).map fun ps => ps.foldl add { fallback }

/-- Of two overrides the longer named, and the later of equals. -/
def moreSpecific (best : Option (String × Threshold)) (next : String × Threshold) :
    Option (String × Threshold) :=
  match best with
  | none => some next
  | some b => if next.1.length < b.1.length then some b else some next

def threshold (d : Directives) (target : String) : Threshold :=
  let covering := d.overrides.filter fun entry => covers entry.1.toList target.toList
  match covering.foldl moreSpecific none with
  | some entry => entry.2
  | none => d.fallback

def allows (d : Directives) (target : String) (level : Level) : Bool :=
  (d.threshold target).admits level

def loudest (d : Directives) : Threshold :=
  d.overrides.foldl (fun acc entry => acc.louder entry.2) d.fallback

end Directives
end WarningCapture.Log
