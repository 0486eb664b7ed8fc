import WarningCapture.Source.Callable
import WarningCapture.Source.Modules

/-!
Origins of filter targets. Every function on a target's chain has an origin: the file its source
lies in and the lines it spans. A warning belongs to a target if it names the file and a line of one
of the origins. Line sets are remembered per code object while a list of targets is resolved.
-/

namespace WarningCapture

inductive PathSource where
  | liveModule
  | compiled
  deriving DecidableEq, Repr

def PathSource.name : PathSource → String
  | .liveModule => "LiveModule"
  | .compiled => "Compiled"

/-- The file of a function, with the file it was compiled from where the two disagree. -/
structure SourcePath where
  path : String
  source : PathSource
  stale : Option String := none
  deriving DecidableEq, Repr

namespace SourcePath

/-- The path of the live module wins over the compiled one. -/
def choose (live compiled : Option String) : Option SourcePath :=
  match live with
  | some path =>
      some { path, source := .liveModule, stale := compiled.filter (!Path.equivalent path ·) }
  | none => compiled.map fun path => { path, source := .compiled }

end SourcePath

/-- Where sources are looked for: the loaded modules and the current directory; and the code objects
that have been read before. -/
structure Surroundings where
  modules : Modules
  cwd : String
  read : List String := []

namespace Surroundings

def livePath? (here : Surroundings) (body : FunctionBody) : Option String :=
  body.module.bind fun name => here.modules.livePath? here.cwd name

def compiledPath? (here : Surroundings) (code : Code) : Option String :=
  code.filename?.bind fun name => Path.normalise? here.cwd name

/-- A function's code object and its name, as it is found at the moment. -/
def codeOf? (here : Surroundings) (codes : Table Code) (body : FunctionBody) :
    Option (String × Code) :=
  body.code.bind fun name =>
    (Table.get? name codes).map fun code =>
      (name, if here.read.contains name then code.spent else code)

def sourcePath? (here : Surroundings) (body : FunctionBody) (code : Code) : Option SourcePath :=
  SourcePath.choose (here.livePath? body) (here.compiledPath? code)

end Surroundings

structure Origin where
  source : SourcePath
  lines : LineSet
  deriving DecidableEq

namespace Origin

def claims (o : Origin) (file : String) (line : Nat) : Bool :=
  o.lines.contains line && Path.equivalent o.source.path file

/-- The complaint about a warning that names the compiled file of a function whose module lives
elsewhere now. -/
def staleNotice? (o : Origin) (file : String) (line : Nat) : Option Log.Notice :=
  if o.lines.contains line && !Path.equivalent o.source.path file &&
      (o.source.stale.any fun stale => Path.equivalent stale file) then
    some (Log.Component.targets.say .warn
      ("warning at " ++ file ++ ":" ++ toString line ++
        " names the compiled path of a function whose module now lives at " ++ o.source.path ++
        "; not matching")
      (some .originMismatch))
  else none

/-- The complaints made while a warning is held against the origins one by one, up to the first
that claims it. -/
def notices (file : String) (line : Nat) : List Origin → List Log.Notice
  | [] => []
  | o :: rest =>
      if o.claims file line then [] else (o.staleNotice? file line).toList ++ notices file line rest

end Origin

abbrev LineCache := Table LineSet

def setbackNotice (f : Fault) : Log.Notice :=
  Log.Component.lineTables.quote .debug
    "co_lines() failed, falling back to dis.findlinestarts: " f

/-- The line set of a code object, remembered if it could be collected, with what is said of the
failures got over on reading the table. -/
def LineCache.lines (cache : LineCache) (name : String) (code : Code) :
    Except CaptureError LineSet × List Log.Notice × LineCache :=
  match Table.get? name cache with
  | some set => (.ok set, [], cache)
  | none =>
      let notices := code.table.setbacks.map setbackNotice
      match code.table.collect with
      | .ok set => (.ok set, notices, Table.put name set cache)
      | .error err => (.error err, notices, cache)

namespace Surroundings

/-- The origin of one function. Without code, without a path or without lines it has none. -/
def originOf (here : Surroundings) (codes : Table Code) (body : FunctionBody) (cache : LineCache) :
    Option Origin × List Log.Notice × LineCache :=
  match here.codeOf? codes body with
  | none => (none, [], cache)
  | some (name, code) =>
      match here.sourcePath? body code with
      | none => (none, [], cache)
      | some source =>
          match cache.lines name code with
          | (.ok lines, notices, cache) =>
              (if lines.isEmpty then none else some { source, lines }, notices, cache)
          | (.error err, notices, cache) =>
              (none, notices ++ [Log.Component.targets.say .debug err.render err.code], cache)

def originsOf (here : Surroundings) (codes : Table Code) :
    List (String × FunctionBody) → LineCache → List Origin × List Log.Notice × LineCache
  | [], cache => ([], [], cache)
  | (_, body) :: rest, cache =>
      let (origin, notices, cache) := here.originOf codes body cache
      let (origins, more, cache) := here.originsOf codes rest cache
      (origin.toList ++ origins, notices ++ more, cache)

def resolveOne (here : Surroundings) (objects : HostObjects) (target : String)
    (cache : LineCache) : List Origin × List Log.Notice × LineCache :=
  let (origins, notices, cache) := here.originsOf objects.codes (objects.chain target) cache
  let orphan :=
    if origins.isEmpty then
      [Log.Component.targets.say .debug
        ("no source origin for " ++ objects.describe target ++ "; it will match no warnings")
        (some .lineTableUnavailable)]
    else []
  (origins, notices ++ orphan, cache)

def resolveAll (here : Surroundings) (objects : HostObjects) :
    List String → LineCache → List (List Origin) × List Log.Notice × LineCache
  | [], cache => ([], [], cache)
  | target :: rest, cache =>
      let (origins, notices, cache) := here.resolveOne objects target cache
      let (others, more, cache) := here.resolveAll objects rest cache
      (origins :: others, notices ++ more, cache)

end Surroundings

/-- Targets resolved together: the origins of each, what was remarked, and the remembered sets. -/
structure Resolution where
  targets : List (List Origin)
  notices : List Log.Notice
  cache : LineCache

namespace Resolution

def ofTargets (here : Surroundings) (objects : HostObjects) (types : CallableTypes)
    (targets : List String) : Except CaptureError Resolution :=
  match objects.validate types targets with
  | .error err => .error err
  | .ok () =>
      let (origins, notices, cache) := here.resolveAll objects targets []
      .ok { targets := origins, notices, cache }

/-- The code objects that were read to the end. -/
def read (r : Resolution) : List String := Table.names r.cache

def origins (r : Resolution) : List Origin := r.targets.flatten

def claims (r : Resolution) (file : String) (line : Nat) : Bool :=
  r.origins.any (·.claims file line)

def lines (r : Resolution) : List Nat :=
  (LineSet.ofLines (r.origins.flatMap fun o => o.lines.toList)).toList

end Resolution
end WarningCapture
