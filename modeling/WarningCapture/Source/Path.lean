/-!
Source paths. `normalise?` makes a path absolute and resolves its dots by name alone; `posix?` only
drops what does not matter; `equivalent` lets a cached `.pyc` stand in for its `.py`.
-/

namespace WarningCapture.Path

/-- The segments of a path: what stands between slashes, empty and `.` segments dropped. -/
def segments (path : List Char) : List (List Char) :=
  (go path).filter fun segment => !(segment.isEmpty || segment == ['.'])
where
  go : List Char → List (List Char)
    | [] => [[]]
    | c :: rest =>
        if c = '/' then [] :: go rest
        else match go rest with
          | [] => [[c]]
          | head :: tail => (c :: head) :: tail

/-- One segment on a stack of segments, innermost first: `..` takes the top off, if there is one. -/
def resolveSegment (stack : List (List Char)) (segment : List Char) : List (List Char) :=
  if segment = ['.', '.'] then stack.drop 1 else segment :: stack

/-- The segments that are left once each `..` has taken back the segment before it. -/
def resolve (parts : List (List Char)) : List (List Char) := (parts.foldl resolveSegment []).reverse

def join (parts : List (List Char)) : List Char := ['/'].intercalate parts

def isAbsolute (path : List Char) : Bool := path.head? == some '/'

def absoluteSegments (cwd path : List Char) : List (List Char) :=
  if isAbsolute path then segments path else segments cwd ++ segments path

/-- The absolute path without dots; the empty path names nothing. -/
def normalise? (cwd path : String) : Option String :=
  if path.isEmpty then none
  else some (String.ofList ('/' :: join (resolve (absoluteSegments cwd.toList path.toList))))

/-- The path with single slashes and no `.` segments; none if nothing is left of it. -/
def posix? (path : String) : Option String :=
  let cs := path.toList
  if isAbsolute cs then some (String.ofList ('/' :: join (segments cs)))
  else if (segments cs).isEmpty then none
  else some (String.ofList (join (segments cs)))

/-- What stands before a suffix. -/
def stripSuffix? (suffix text : List Char) : Option (List Char) :=
  if suffix.isSuffixOf text then some (text.take (text.length - suffix.length)) else none

/-- Two texts that name the same source file, a compiled file standing for its source. -/
def equivalent (a b : String) : Bool :=
  a == b || agree ".pyc" a ".py" b || agree ".py" a ".pyc" b
where
  agree (suffixA a suffixB b : String) : Bool :=
    match stripSuffix? suffixA.toList a.toList, stripSuffix? suffixB.toList b.toList with
    | some stem, some other => stem == other
    | _, _ => false

end WarningCapture.Path
