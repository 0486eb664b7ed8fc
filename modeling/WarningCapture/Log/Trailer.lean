import WarningCapture.Error.Basic

/-!
Trailers: the structured description of a raised error, for programs that read the error stream. The
context of a trailer is ordered by key, and keeps the last value of a repeated one.
-/

namespace WarningCapture.Log

structure Trailer where
  code : ErrorCode
  kind : ErrorKind
  /-- The bare message, without code and context. -/
  message : String
  context : List (String × String)
  testId : Option String
  deriving DecidableEq, Repr

namespace Trailer

def writePair (key value : String) : List (String × String) → List (String × String)
  | [] => [(key, value)]
  | (k, v) :: rest =>
      if key < k then (key, value) :: (k, v) :: rest
      else if key = k then (key, value) :: rest
      else (k, v) :: writePair key value rest

def orderedContext (pairs : List (String × String)) : List (String × String) :=
  pairs.foldl (fun acc pair => writePair pair.1 pair.2 acc) []

def ofError (err : CaptureError) (testId : Option String) : Trailer where
  code := err.code
  kind := err.kind
  message := err.message
  context := orderedContext err.context
  testId := testId

end Trailer
end WarningCapture.Log
