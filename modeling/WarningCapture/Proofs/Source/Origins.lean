import WarningCapture.Session.Targets

/-! The origins of functions. Line sets are remembered while targets are resolved together, but a
function has the origin that it would have alone, whatever was resolved before it. -/
namespace WarningCapture

namespace Surroundings

/-- The origin of a function, as it is found where nothing is remembered. -/
def origin? (here : Surroundings) (codes : Table Code) (body : FunctionBody) : Option Origin := do
  let (_, code) ← here.codeOf? codes body
  let source ← here.sourcePath? body code
  let lines ← code.table.collect.toOption
  if lines.isEmpty then none else some { source, lines }

end Surroundings

/-- What is remembered is what the code objects would show again. -/
def LineCache.Faithful (here : Surroundings) (codes : Table Code) (cache : LineCache) : Prop :=
  ∀ name set body code, Table.get? name cache = some set →
    here.codeOf? codes body = some (name, code) → code.table.collect = .ok set

variable {here : Surroundings} {codes : Table Code} {objects : HostObjects} {body : FunctionBody}
  {cache : LineCache} {name : String} {code : Code}

namespace Surroundings

theorem codeOf?_code (found : here.codeOf? codes body = some (name, code)) :
    body.code = some name := by
  simp only [codeOf?, Option.bind_eq_some_iff, Option.map_eq_some_iff, Prod.mk.injEq] at found
  obtain ⟨_, known, _, _, rfl, _⟩ := found
  exact known

/-- A code object is found alike by all functions that share it. -/
theorem codeOf?_shared {other : FunctionBody} {code' : Code}
    (found : here.codeOf? codes body = some (name, code))
    (again : here.codeOf? codes other = some (name, code')) : code' = code := by
  simp only [codeOf?, Option.bind_eq_some_iff, Option.map_eq_some_iff, Prod.mk.injEq] at found again
  obtain ⟨_, _, first, known, rfl, rfl⟩ := found
  obtain ⟨_, _, second, same, rfl, rfl⟩ := again
  rw [Option.some.inj (same.symm.trans known)]

end Surroundings

namespace LineCache

theorem faithful_empty : Faithful here codes [] := fun _ _ _ _ found => nomatch found

theorem Faithful.put (faithful : cache.Faithful here codes) {set : LineSet}
    (found : here.codeOf? codes body = some (name, code))
    (collected : code.table.collect = .ok set) :
    Faithful here codes (Table.put name set cache) := by
  intro other set' body' code' remembered again
  by_cases same : name = other
  · subst same
    rw [Table.get?_put_self, Option.some.injEq] at remembered
    rw [Surroundings.codeOf?_shared found again, ← remembered, collected]
  · rw [Table.get?_put_of_ne same] at remembered
    exact faithful other set' body' code' remembered again

/-- Remembered or read, the lines are those of the code object. -/
theorem Faithful.lines (faithful : cache.Faithful here codes)
    (found : here.codeOf? codes body = some (name, code)) :
    (cache.lines name code).1 = code.table.collect ∧
      (cache.lines name code).2.2.Faithful here codes := by
  unfold LineCache.lines
  split
  · rename_i set remembered
    exact ⟨(faithful name set body code remembered found).symm, faithful⟩
  · cases collected : code.table.collect with
    | ok set => exact ⟨rfl, faithful.put found collected⟩
    | error err => exact ⟨rfl, faithful⟩

end LineCache

namespace Surroundings

theorem originOf_eq (faithful : cache.Faithful here codes) (body : FunctionBody) :
    (here.originOf codes body cache).1 = here.origin? codes body ∧
      (here.originOf codes body cache).2.2.Faithful here codes := by
  unfold originOf origin?
  cases found : here.codeOf? codes body with
  | none => exact ⟨rfl, faithful⟩
  | some entry =>
    obtain ⟨name, code⟩ := entry
    cases sourced : here.sourcePath? body code with
    | none => simp [sourced, faithful]
    | some source =>
      obtain ⟨lines, kept⟩ := faithful.lines found
      simp only [sourced, Option.bind_eq_bind, Option.bind_some]
      rw [← lines]
      generalize cache.lines name code = reading at kept
      rcases reading with ⟨_ | set, notices, later⟩
      · exact ⟨rfl, kept⟩
      · exact ⟨rfl, kept⟩

theorem originsOf_eq (faithful : cache.Faithful here codes)
    (chain : List (String × FunctionBody)) :
    (here.originsOf codes chain cache).1 = chain.filterMap (here.origin? codes ·.2) ∧
      (here.originsOf codes chain cache).2.2.Faithful here codes := by
  induction chain generalizing cache with
  | nil => exact ⟨rfl, faithful⟩
  | cons entry rest ih =>
    obtain ⟨same, kept⟩ := originOf_eq faithful entry.2
    obtain ⟨others, stays⟩ := ih kept
    refine ⟨?_, stays⟩
    simp only [originsOf, others, same]
    cases found : here.origin? codes entry.2 <;> simp [found]

theorem resolveAll_eq (faithful : cache.Faithful here objects.codes) (targets : List String) :
    (here.resolveAll objects targets cache).1 = targets.map fun target =>
      (objects.chain target).filterMap (here.origin? objects.codes ·.2) := by
  induction targets generalizing cache with
  | nil => rfl
  | cons target rest ih =>
    obtain ⟨same, kept⟩ := originsOf_eq faithful (objects.chain target)
    simp only [resolveAll, resolveOne, List.map_cons]
    rw [same, ih kept]

end Surroundings

/-- Targets that are resolved together have the origins that their functions have each alone. -/
theorem Resolution.ofTargets_origins {types : CallableTypes} {targets : List String}
    {r : Resolution} (resolved : ofTargets here objects types targets = .ok r) :
    r.origins = (targets.flatMap objects.chain).filterMap (here.origin? objects.codes ·.2) := by
  unfold ofTargets at resolved
  split at resolved
  · cases resolved
  · cases resolved
    rw [origins, Surroundings.resolveAll_eq LineCache.faithful_empty, ← List.flatMap_def]
    exact (List.filterMap_flatMap ..).symm

end WarningCapture
