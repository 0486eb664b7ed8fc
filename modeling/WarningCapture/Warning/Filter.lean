import WarningCapture.Warning.Category

/-!
Warning filters. The first filter whose category is the warning's or an ancestor of it decides what
becomes of the warning.
-/

namespace WarningCapture

inductive Action where
  | error
  | ignore
  | always
  | default
  | module
  | once
  deriving DecidableEq, Repr

namespace Action

def name : Action → String
  | error => "error"
  | ignore => "ignore"
  | always => "always"
  | default => "default"
  | module => "module"
  | once => "once"

def all : List Action := [error, ignore, always, default, module, once]

def parse (text : String) : Option Action := all.find? fun action => action.name == text

end Action

structure Filter where
  action : Action
  category : Category
  deriving DecidableEq, Repr

namespace Filter

def showAll : Filter := ⟨.always, .warning⟩

/-- Puts a filter in front, with an equal one further back taken out. -/
def prioritise (f : Filter) (filters : List Filter) : List Filter := f :: filters.erase f

/-- The action of the first filter that covers a category; a warning that none covers is shown. -/
def actionFor (category : Category) (filters : List Filter) : Action :=
  match filters.find? fun f => Category.isBelow f.category category with
  | some f => f.action
  | none => .default

end Filter
end WarningCapture
