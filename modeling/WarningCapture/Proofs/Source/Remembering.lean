import WarningCapture.Proofs.Error.Renderings
import WarningCapture.Proofs.Source.Rereading
import WarningCapture.Proofs.Source.Unwrapping

/-! What is remembered while targets are resolved together. The functions that are come across, one
after the other, ask for the lines of their code objects. After each of them the cache holds every
code object that was asked for and could be read, once, with the lines that it would show again; a
code object that could not be read is asked for anew each time. -/
namespace WarningCapture

/-- A function asks for the lines of a code object if it has that code and a file is known. -/
def Surroundings.AsksFor (here : Surroundings) (codes : Table Code) (body : FunctionBody)
    (name : String) (code : Code) : Prop :=
  here.codeOf? codes body = some (name, code) ∧ (here.sourcePath? body code).isSome

/-- A cache that has been through the given functions. -/
structure LineCache.Remembers (here : Surroundings) (codes : Table Code)
    (asked : List FunctionBody) (cache : LineCache) : Prop where
  /-- No code object is entered twice. -/
  once : (Table.names cache).Nodup
  /-- What is entered are the lines of the code objects that were asked for and could be read. -/
  holds : ∀ name set, Table.get? name cache = some set ↔
    ∃ body ∈ asked, ∃ code, here.AsksFor codes body name code ∧ code.table.collect = .ok set

variable {here : Surroundings} {codes : Table Code} {objects : HostObjects}
  {asked : List FunctionBody} {body : FunctionBody} {cache : LineCache} {name : String}
  {code : Code} {set : LineSet}

namespace Surroundings

theorem AsksFor.shared {other : FunctionBody} {code' : Code}
    (asks : here.AsksFor codes body name code) (again : here.AsksFor codes other name code') :
    code' = code :=
  codeOf?_shared asks.1 again.1

/-- A function asks for one code object at most. -/
theorem AsksFor.unique {name' : String} {code' : Code} (asks : here.AsksFor codes body name code)
    (again : here.AsksFor codes body name' code') : name' = name ∧ code' = code := by
  have same := again.1.symm.trans asks.1
  rwa [Option.some.injEq, Prod.mk.injEq] at same

end Surroundings

namespace LineCache

theorem remembers_nothing : Remembers here codes [] [] where
  once := List.nodup_nil
  holds _ _ := by simp [Table.get?]

/-- A function changes nothing if what it asks for is remembered, or cannot be read, or if it asks
for nothing. -/
theorem Remembers.same (remembers : cache.Remembers here codes asked)
    (known : ∀ name code set, here.AsksFor codes body name code → code.table.collect = .ok set →
      Table.get? name cache = some set) : cache.Remembers here codes (asked ++ [body]) where
  once := remembers.once
  holds name set := by
    constructor
    · intro found
      obtain ⟨other, member, asks⟩ := (remembers.holds name set).mp found
      exact ⟨other, List.mem_append_left _ member, asks⟩
    · rintro ⟨other, member, code, asks, collected⟩
      rcases List.mem_append.mp member with before | last
      · exact (remembers.holds name set).mpr ⟨other, before, code, asks, collected⟩
      · rw [List.mem_singleton.mp last] at asks
        exact known name code set asks collected

/-- What is read is entered. -/
theorem Remembers.put (remembers : cache.Remembers here codes asked)
    (asks : here.AsksFor codes body name code) (collected : code.table.collect = .ok set) :
    Remembers here codes (asked ++ [body]) (Table.put name set cache) where
  once := Table.nodup_put remembers.once name set
  holds other set' := by
    rw [Table.get?_put]
    split
    · rename_i same
      subst same
      constructor
      · rintro ⟨⟩
        exact ⟨body, List.mem_append_right _ (List.mem_singleton_self body), code, asks, collected⟩
      · rintro ⟨_, _, code', again, collected'⟩
        rw [asks.shared again, collected] at collected'
        exact congrArg some (Except.ok.inj collected')
    · rename_i different
      rw [remembers.holds]
      constructor
      · rintro ⟨earlier, member, asked⟩
        exact ⟨earlier, List.mem_append_left _ member, asked⟩
      · rintro ⟨earlier, member, code', again, collected'⟩
        rcases List.mem_append.mp member with before | last
        · exact ⟨earlier, before, code', again, collected'⟩
        · rw [List.mem_singleton.mp last] at again
          exact absurd (asks.unique again).1.symm different

/-- Asking for the lines of a code object: they are there, or are entered now, or cannot be read. -/
theorem Remembers.lines (remembers : cache.Remembers here codes asked)
    (asks : here.AsksFor codes body name code) :
    (cache.lines name code).2.2.Remembers here codes (asked ++ [body]) := by
  have asksOnly (name' : String) (code' : Code) (again : here.AsksFor codes body name' code') :
      name' = name ∧ code' = code := asks.unique again
  unfold LineCache.lines
  split
  · rename_i set hit
    -- what was entered for another function that shares the code is what would be read now
    obtain ⟨_, _, code', earlier, collected⟩ := (remembers.holds name set).mp hit
    rw [asks.shared earlier] at collected
    refine remembers.same fun name' code' set' again collected' => ?_
    obtain ⟨rfl, rfl⟩ := asksOnly name' code' again
    rw [hit, Except.ok.inj (collected.symm.trans collected')]
  · cases collected : code.table.collect with
    | ok set => exact remembers.put asks collected
    | error err =>
      refine remembers.same fun name' code' set' again collected' => ?_
      obtain ⟨rfl, rfl⟩ := asksOnly name' code' again
      rw [collected] at collected'
      cases collected'

end LineCache

namespace Surroundings

/-- One function more. -/
theorem originOf_remembers (remembers : cache.Remembers here codes asked) (body : FunctionBody) :
    (here.originOf codes body cache).2.2.Remembers here codes (asked ++ [body]) := by
  unfold originOf
  cases found : here.codeOf? codes body with
  | none =>
    refine remembers.same fun name code set asks => ?_
    cases found.symm.trans asks.1
  | some entry =>
    obtain ⟨name, code⟩ := entry
    cases sourced : here.sourcePath? body code with
    | none =>
      simp only [sourced]
      refine remembers.same fun name' code' set asks => ?_
      obtain ⟨again, known⟩ := asks
      obtain ⟨rfl, rfl⟩ := Prod.mk.inj (Option.some.inj (found.symm.trans again))
      rw [sourced] at known
      cases known
    | some source =>
      have asks : here.AsksFor codes body name code := ⟨found, by simp [sourced]⟩
      have kept := remembers.lines asks
      simp only [sourced]
      generalize cache.lines name code = reading at kept
      rcases reading with ⟨_ | lines, notices, later⟩
      · exact kept
      · exact kept

theorem originsOf_remembers (remembers : cache.Remembers here codes asked)
    (chain : List (String × FunctionBody)) :
    (here.originsOf codes chain cache).2.2.Remembers here codes (asked ++ chain.map Prod.snd) := by
  induction chain generalizing asked cache with
  | nil => simpa [originsOf] using remembers
  | cons entry rest ih =>
    have further := ih (originOf_remembers remembers entry.2)
    rwa [List.append_assoc] at further

theorem resolveAll_remembers (remembers : cache.Remembers here objects.codes asked)
    (targets : List String) :
    (here.resolveAll objects targets cache).2.2.Remembers here objects.codes
      (asked ++ (targets.flatMap objects.chain).map Prod.snd) := by
  induction targets generalizing asked cache with
  | nil => simpa [resolveAll] using remembers
  | cons target rest ih =>
    have further := ih (originsOf_remembers remembers (objects.chain target))
    rwa [List.append_assoc, ← List.map_append, ← List.flatMap_cons] at further

end Surroundings

/-- What a resolution remembers has been through every function on the chains of the targets. -/
theorem Resolution.ofTargets_remembers {types : CallableTypes} {targets : List String}
    {r : Resolution} (resolved : ofTargets here objects types targets = .ok r) :
    r.cache.Remembers here objects.codes ((targets.flatMap objects.chain).map Prod.snd) := by
  unfold ofTargets at resolved
  split at resolved
  · cases resolved
  · cases resolved
    exact Surroundings.resolveAll_remembers LineCache.remembers_nothing targets

/-- Targets that are resolved together, whatever code their functions share, repeat or fail to show,
have for each of them the origins that its functions have each with nothing remembered. In the end
every code object that one of the functions asked for is remembered once if it could be read, with
the lines read, and not at all otherwise; nothing else is remembered. -/
theorem shared_cache_is_transparent (here : Surroundings) (objects : HostObjects)
    {types : CallableTypes} {targets : List String} (intact : types.fault? = none)
    (valid : ∀ name ∈ targets, objects.shape name ≠ .other) :
    ∃ r, Resolution.ofTargets here objects types targets = .ok r ∧
      r.targets = (targets.map fun target => (objects.chain target).filterMap fun fn =>
        (here.originOf objects.codes fn.2 []).1) ∧
      (Table.names r.cache).Nodup ∧
      (∀ name set, Table.get? name r.cache = some set ↔
        ∃ target ∈ targets, ∃ fn ∈ objects.chain target, ∃ code,
          here.AsksFor objects.codes fn.2 name code ∧ code.table.collect = .ok set) ∧
      ∀ target ∈ targets, ∀ fn ∈ objects.chain target, ∀ name code,
        here.AsksFor objects.codes fn.2 name code →
          Table.get? name r.cache = code.table.collect.toOption := by
  obtain ⟨r, resolved⟩ := Resolution.ofTargets_ok here intact valid
  have remembers := Resolution.ofTargets_remembers resolved
  have entered (name : String) (set : LineSet) : Table.get? name r.cache = some set ↔
      ∃ target ∈ targets, ∃ fn ∈ objects.chain target, ∃ code,
        here.AsksFor objects.codes fn.2 name code ∧ code.table.collect = .ok set := by
    rw [remembers.holds]
    simp only [List.mem_map, List.mem_flatMap]
    constructor
    · rintro ⟨_, ⟨fn, ⟨target, named, member⟩, rfl⟩, asks⟩
      exact ⟨target, named, fn, member, asks⟩
    · rintro ⟨target, named, fn, member, asks⟩
      exact ⟨fn.2, ⟨fn, ⟨target, named, member⟩, rfl⟩, asks⟩
  refine ⟨r, resolved, Resolution.ofTargets_targets resolved, remembers.once, entered, ?_⟩
  intro target named fn member name code asks
  ext set
  rw [entered, LineTable.toOption_collect_eq_some]
  constructor
  · rintro ⟨_, _, other, _, code', again, collected⟩
    rwa [asks.shared again] at collected
  · intro collected
    exact ⟨target, named, fn, member, code, asks, collected⟩

/-- Code that does not show where its lines start. -/
def tornCode : Code :=
  .standIn { filename := some "/b.py", starts := .error (.missingAttribute "dis" "x") }

/-- A function and a method that share their code, one function wrapping the other; a function whose
code cannot be read; and one that no file is known for. -/
def collective : HostObjects where
  entries :=
    [("plain", ⟨.function { code := some "shared", wrapped := some "broken" }, .plainFunction⟩),
      ("bound", ⟨.method (some "twin"), .boundMethod⟩),
      ("twin", ⟨.function { code := some "shared", wrapped := some "plain" }, .plainFunction⟩),
      ("broken", ⟨.function { code := some "torn" }, .plainFunction⟩),
      ("nowhere", ⟨.function { code := some "adrift" }, .plainFunction⟩)]
  codes :=
    [("shared", .compiled (.mk "/a.py" [some 3, some 4] [])),
      ("torn", tornCode),
      ("adrift", .standIn { starts := .ok [.int 7] })]

/-- All of them, and the method again. -/
def everyone : List String := ["bound", "broken", "nowhere", "bound"]

/-- No modules are loaded. -/
def outskirts : Surroundings := { modules := {}, cwd := "/" }

/-- Of three code objects one is shared, one is torn and one has no known file; only the first is
remembered, although the torn one is asked for again and again. -/
theorem collective_remembers_shared_code :
    ({} : CallableTypes).fault? = none ∧
    (∀ name ∈ everyone, collective.shape name ≠ .other) ∧
    ∃ r, Resolution.ofTargets outskirts collective {} everyone = .ok r ∧
      r.targets.map List.length = [2, 0, 0, 2] ∧
      (Table.get? "shared" r.cache).isSome ∧ Table.get? "torn" r.cache = none ∧
      Table.get? "adrift" r.cache = none := by
  have intact : ({} : CallableTypes).fault? = none := rfl
  have valid : ∀ name ∈ everyone, collective.shape name ≠ .other := by
    simp [everyone, collective, HostObjects.shape, Table.get?]
  obtain ⟨r, resolved, origins, once, entered, each⟩ :=
    shared_cache_is_transparent outskirts collective intact valid
  refine ⟨intact, valid, r, resolved, ?_, ?_, ?_, ?_⟩
  · rw [origins]
    decide +kernel
  · rw [each "bound" (by decide) ("twin", { code := some "shared", wrapped := some "plain" })
      (by decide +kernel) "shared" (.compiled (.mk "/a.py" [some 3, some 4] []))
      ⟨rfl, by decide +kernel⟩]
    decide +kernel
  · rw [each "broken" (by decide) ("broken", { code := some "torn" }) (by decide +kernel) "torn"
      tornCode ⟨rfl, by decide +kernel⟩]
    rfl
  · have unasked : ∀ target ∈ everyone, ∀ fn ∈ collective.chain target,
        fn.2.code = some "adrift" →
          ((outskirts.codeOf? collective.codes fn.2).bind fun found =>
            outskirts.sourcePath? fn.2 found.2) = none := by
      decide +kernel
    refine Option.eq_none_iff_forall_ne_some.mpr fun set hit => ?_
    obtain ⟨target, named, fn, member, code, ⟨found, sourced⟩, -⟩ := (entered "adrift" set).mp hit
    have without := unasked target named fn member (Surroundings.codeOf?_code found)
    rw [found, Option.bind_some] at without
    rw [without] at sourced
    cases sourced

end WarningCapture
