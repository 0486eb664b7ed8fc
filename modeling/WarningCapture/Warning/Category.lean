import WarningCapture.Host.Fault

/-!
Warning categories: the root class, classes below it, and foreign objects that stand where a class
belongs. Categories are told apart by identity, which here is equality of their descriptions.
-/

namespace WarningCapture

inductive Category where
  | warning
  /-- A class under a parent; its constructor may refuse every text with an exception of the given
  class, whose text is the given one followed by the warning's. -/
  | subclass (name : String) (parent : Category) (refusal : Option (String × String))
  /-- An object that is no class, known by a label, of a type of the host. -/
  | foreign (label typeName : String)
  deriving DecidableEq, Repr

namespace Category

/-- The name of a class; foreign objects have none that is a text. -/
def name? : Category → Option String
  | warning => some "Warning"
  | subclass name _ _ => some name
  | foreign _ _ => none

def label : Category → String
  | warning => "Warning"
  | subclass name _ _ => name
  | foreign label _ => label

/-- A class is below itself and its ancestors. -/
def isBelow (ancestor : Category) : Category → Bool
  | warning => decide (ancestor = warning)
  | subclass name parent refusal =>
      decide (ancestor = subclass name parent refusal) || isBelow ancestor parent
  | foreign _ _ => false

def construct (text : String) : Category → Except Fault Unit
  | warning => .ok ()
  | subclass _ _ none => .ok ()
  | subclass _ _ (some (className, lead)) => .error (.raised className (lead ++ text))
  | foreign _ typeName => .error (.notCallable typeName)

end Category
end WarningCapture
