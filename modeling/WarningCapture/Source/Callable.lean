import WarningCapture.Log.Notice
import WarningCapture.Source.Code
import WarningCapture.Table

/-!
The objects that may be named as filter targets. Functions and bound methods are targets; a bound
method leads to the function under it, and a function may lead on to one that it wraps.
-/

namespace WarningCapture

/-- A function: the name of its module where that is a text, the name of its code object if it has
one, and the object that it says it wraps. -/
structure FunctionBody where
  module : Option String := none
  code : Option String := none
  wrapped : Option String := none
  deriving DecidableEq

inductive Shape where
  | function (body : FunctionBody)
  /-- A bound method and the name of the object under it, if it has one. -/
  | method (func : Option String)
  | other

/-- How an object describes itself. -/
inductive Description where
  | text (s : String)
  | unprintable
  /-- The form of plain functions, with the address left open. -/
  | plainFunction
  /-- The form of bound methods, with the name of the function under it. -/
  | boundMethod

structure HostObject where
  shape : Shape
  description : Description

/-- The objects of the host by name, and the code objects, which functions may share, by names of
their own. -/
structure HostObjects where
  entries : Table HostObject := []
  codes : Table Code := []

namespace HostObjects

def shape (objects : HostObjects) (name : String) : Shape :=
  match Table.get? name objects.entries with
  | some object => object.shape
  | none => .other

/-- The name that a bound method shows for what is under it, looked for through so many methods. -/
def methodName (objects : HostObjects) : Nat → String → String
  | 0, _ => "?"
  | hops + 1, name =>
      match Table.get? name objects.entries with
      | some ⟨.function _, .plainFunction⟩ => name
      | some ⟨.method (some inner), .boundMethod⟩ => objects.methodName hops inner
      | _ => "?"

def describe (objects : HostObjects) (name : String) : String :=
  match Table.get? name objects.entries with
  | some ⟨_, .text s⟩ => s
  | some ⟨_, .plainFunction⟩ => "<function " ++ name ++ " at 0x?>"
  | some ⟨.method (some inner), .boundMethod⟩ =>
      "<bound method " ++ objects.methodName objects.entries.length inner ++ " of self>"
  | _ => "<unrepresentable object>"

/-- Functions and bound methods are targets. -/
def isTarget (objects : HostObjects) (name : String) : Bool :=
  match objects.shape name with
  | .other => false
  | _ => true

def function? (objects : HostObjects) (name : String) : Option (String × FunctionBody) :=
  match objects.shape name with
  | .function body => some (name, body)
  | _ => none

/-- The plain function of a target: itself, or for a bound method the function under it. -/
def plainFunction? (objects : HostObjects) (name : String) : Option (String × FunctionBody) :=
  match objects.shape name with
  | .method (some inner) => objects.function? inner
  | _ => objects.function? name

/-- The target that a function leads on to. -/
def next? (objects : HostObjects) (body : FunctionBody) : Option String :=
  body.wrapped.filter objects.isTarget

/-- Chains of wrapped functions are followed this far. -/
def maxChain : Nat := 32

/-- The first plain functions on the way from a target through what they wrap. -/
def chainFrom (objects : HostObjects) : Nat → String → List (String × FunctionBody)
  | 0, _ => []
  | room + 1, name =>
      match objects.plainFunction? name with
      | none => []
      | some (fn, body) =>
          (fn, body) ::
            match objects.next? body with
            | none => []
            | some next => objects.chainFrom room next

def chain (objects : HostObjects) (target : String) : List (String × FunctionBody) :=
  objects.chainFrom maxChain target

end HostObjects

/-- The host's types of functions and bound methods, by which targets are told apart. -/
structure CallableTypes where
  function : Bool := true
  method : Bool := true
  deriving DecidableEq, Repr

namespace CallableTypes

def fault? (types : CallableTypes) : Option Fault :=
  if !types.function then some (.missingAttribute "types" "FunctionType")
  else if !types.method then some (.missingAttribute "types" "MethodType")
  else none

end CallableTypes

def notATarget (index : Nat) (description : String) : CaptureError :=
  ((usageError .invalidFilterTarget (description ++ " is not a function or method")).withContext
    "index" (toString index)).withContext "repr" description

/-- Refuses the first name in a list that is no target; the list starts at the given place. -/
def HostObjects.validateFrom (objects : HostObjects) :
    Nat → List String → Except CaptureError Unit
  | _, [] => .ok ()
  | index, name :: rest =>
      if objects.isTarget name then objects.validateFrom (index + 1) rest
      else .error (notATarget index (objects.describe name))

/-- Checks every target before any of them is looked into. -/
def HostObjects.validate (objects : HostObjects) (types : CallableTypes) (targets : List String) :
    Except CaptureError Unit :=
  match types.fault? with
  | some f =>
      .error ((usageError .invalidFilterTarget "cannot classify filter targets").withContext
        "error" f.render)
  | none => objects.validateFrom 0 targets

end WarningCapture
