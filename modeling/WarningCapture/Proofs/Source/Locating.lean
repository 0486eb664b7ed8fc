import WarningCapture.Proofs.Source.Origins
import WarningCapture.Proofs.Source.Sameness

/-! Where functions live, and which warnings belong to them. The path of a function is that of the
module loaded under its module's name, and the one it was compiled from only where no such module
tells a path. -/
namespace WarningCapture

/-- A text that may be the path of a source; the marks of built-in and frozen modules are none. -/
def Module.usable (text : String) : Bool :=
  text ≠ "" && text ≠ "built-in" && text ≠ "frozen"

/-- The first usable text of what the loader says and what the module itself says. -/
def Module.location? (m : Module) : Option String :=
  (m.origin.toList ++ m.file.toList).find? usable

namespace Surroundings

/-- The path of a function's source as the module tells it that is loaded under the function's
module name. -/
def live? (here : Surroundings) (body : FunctionBody) : Option String := do
  let name ← body.module
  let m ← (Table.get? name here.modules.entries).join
  let location ← m.location?
  Path.normalise? here.cwd location

/-- The path that a function's code was compiled from. -/
def compiled? (here : Surroundings) (codes : Table Code) (body : FunctionBody) : Option String := do
  let (_, code) ← here.codeOf? codes body
  here.compiledPath? code

/-- The lines that a function spans, if it has code and its lines can be collected. -/
def lineSet? (here : Surroundings) (codes : Table Code) (body : FunctionBody) : Option LineSet := do
  let (_, code) ← here.codeOf? codes body
  code.table.collect.toOption

end Surroundings

variable {here : Surroundings} {codes : Table Code} {objects : HostObjects} {body : FunctionBody}

theorem LineSet.isEmpty_eq_false {lines : LineSet} {line : Nat} (member : line ∈ lines.toList) :
    lines.isEmpty = false := by
  cases empty : lines.isEmpty with
  | false => rfl
  | true => simp [List.isEmpty_iff.mp empty] at member

namespace Path

theorem normalise?_isSome (cwd : String) {path : String} (nonempty : path ≠ "") :
    (normalise? cwd path).isSome = true := by
  simp [normalise?, nonempty]

end Path

namespace Module

theorem usablePath_eq (cwd : String) (location : Option String) :
    usablePath cwd location = (location.filter usable).bind (Path.normalise? cwd) := by
  cases location with
  | none => rfl
  | some text =>
    by_cases marked : text = "built-in" ∨ text = "frozen"
    · have useless : usable text = false := by
        rcases marked with rfl | rfl <;> simp [usable]
      simp [usablePath, Option.filter, marked, useless]
    · obtain ⟨named, thawed⟩ := not_or.mp marked
      by_cases empty : text = ""
      · simp [usablePath, Option.filter, Path.normalise?, empty, usable]
      · simp [usablePath, Option.filter, usable, named, thawed, empty]

/-- What the module itself says counts only where the loader says nothing usable. -/
theorem sourcePath?_eq (cwd : String) (m : Module) :
    m.sourcePath? cwd = m.location?.bind (Path.normalise? cwd) := by
  have found (location : Option String) :
      location.toList.find? usable = location.filter usable := by
    cases location with
    | none => rfl
    | some text => cases fit : usable text <;> simp [fit, Option.filter]
  rw [sourcePath?, location?, List.find?_append, found, found, usablePath_eq, usablePath_eq]
  cases told : m.origin.filter usable with
  | none => rfl
  | some text =>
    have nonempty : text ≠ "" := by
      have fit := (Option.filter_eq_some_iff.mp told).2
      simp only [usable, ne_eq, decide_not, Bool.and_eq_true, Bool.not_eq_true',
        decide_eq_false_iff_not] at fit
      exact fit.1.1
    obtain ⟨path, normal⟩ := Option.isSome_iff_exists.mp (Path.normalise?_isSome cwd nonempty)
    simp [normal]

end Module

/-- The record names the source at a path, by its own path or by that of the compiled file. -/
def Record.Names (cwd : String) (record : Record) (path : String) : Prop :=
  ∃ file, Path.normalise? cwd record.filename = some file ∧ Path.equivalent path file = true

/-- Paths that one record names are paths of one source. -/
theorem Record.Names.same {cwd path other : String} {record : Record}
    (named : record.Names cwd path) (again : record.Names cwd other) :
    Path.equivalent path other = true := by
  obtain ⟨file, normal, first⟩ := named
  obtain ⟨_, unchanged, second⟩ := again
  rw [← Option.some.inj (normal.symm.trans unchanged)] at second
  exact Path.equivalent_trans first (Path.equivalent_symm second)

namespace Surroundings

/-- The record belongs to the function. -/
def Matches (here : Surroundings) (codes : Table Code) (body : FunctionBody) (record : Record) :
    Prop :=
  ∃ o file, here.origin? codes body = some o ∧
    Path.normalise? here.cwd record.filename = some file ∧ o.claims file record.line = true

theorem livePath?_eq (dict : here.modules.store = .dict) (body : FunctionBody) :
    here.livePath? body = here.live? body := by
  unfold livePath? live? Modules.livePath?
  cases body.module with
  | none => rfl
  | some name =>
    simp only [dict, Option.bind_eq_bind, Option.bind_some]
    rcases here.modules.entries.get? name with _ | _ | m
    · rfl
    · rfl
    · exact Module.sourcePath?_eq here.cwd m

/-- The origin of a function whose lines are known hangs on its two paths alone. -/
theorem origin?_spanned (dict : here.modules.store = .dict) {lines : LineSet} {line : Nat}
    (spanned : here.lineSet? codes body = some lines) (member : line ∈ lines.toList) :
    here.origin? codes body =
      (SourcePath.choose (here.live? body) (here.compiled? codes body)).map
        ({ source := ·, lines }) := by
  have filled := LineSet.isEmpty_eq_false member
  unfold lineSet? at spanned
  unfold origin? compiled? sourcePath?
  cases found : here.codeOf? codes body with
  | none => simp [found] at spanned
  | some entry =>
    obtain ⟨name, code⟩ := entry
    simp only [found, Option.bind_eq_bind, Option.bind_some] at spanned ⊢
    rw [livePath?_eq dict]
    cases SourcePath.choose (here.live? body) (here.compiledPath? code) with
    | none => rfl
    | some source => simp [spanned, filled]

theorem matches_iff (dict : here.modules.store = .dict) {lines : LineSet} {record : Record}
    (spanned : here.lineSet? codes body = some lines) (member : record.line ∈ lines.toList) :
    here.Matches codes body record ↔
      ∃ source, SourcePath.choose (here.live? body) (here.compiled? codes body) = some source ∧
        record.Names here.cwd source.path := by
  have within : lines.contains record.line = true := List.contains_iff_mem.mpr member
  simp only [Matches, origin?_spanned dict spanned member, Option.map_eq_some_iff, Record.Names,
    Origin.claims, Bool.and_eq_true]
  constructor
  · rintro ⟨_, file, ⟨source, chosen, rfl⟩, normal, _, same⟩
    exact ⟨source, chosen, file, normal, same⟩
  · rintro ⟨source, chosen, file, normal, same⟩
    exact ⟨_, file, ⟨source, chosen, rfl⟩, normal, within, same⟩

theorem Matches.lines {record : Record} (matched : here.Matches codes body record) :
    ∃ lines, here.lineSet? codes body = some lines ∧ record.line ∈ lines.toList := by
  obtain ⟨o, _, found, _, claimed⟩ := matched
  unfold origin? at found
  unfold lineSet?
  simp only [Option.bind_eq_bind, Option.bind_eq_some_iff] at found ⊢
  obtain ⟨entry, code, _, _, lines, collected, made⟩ := found
  split at made
  · cases made
  · cases made
    rw [Origin.claims, Bool.and_eq_true] at claimed
    exact ⟨lines, ⟨entry, code, collected⟩, List.contains_iff_mem.mp claimed.1⟩

/-- A function without a path has no origin, whatever its lines. -/
theorem not_matches_of_pathless (dict : here.modules.store = .dict) (record : Record)
    (gone : here.live? body = none) (bare : here.compiled? codes body = none) :
    ¬ here.Matches codes body record := by
  rintro ⟨o, _, found, -⟩
  unfold origin? at found
  unfold compiled? at bare
  cases code : here.codeOf? codes body with
  | none => simp [code] at found
  | some entry =>
    simp only [code, Option.bind_eq_bind, Option.bind_some] at found bare
    rw [sourcePath?, livePath?_eq dict, gone, bare] at found
    cases found

end Surroundings

/-- A notice that a warning names the path of an earlier source. -/
structure Log.Notice.OfMismatch (n : Log.Notice) : Prop where
  level : n.level = .warn
  target : n.target = Log.Component.targets.target
  code : n.code = some .originMismatch

namespace Origin

theorem staleNotice?_ofMismatch {o : Origin} {file : String} {line : Nat} {n : Log.Notice}
    (said : o.staleNotice? file line = some n) : n.OfMismatch := by
  unfold staleNotice? at said
  split at said
  · cases said
    exact ⟨rfl, rfl, rfl⟩
  · cases said

/-- Origins that do not claim a warning let it pass on to the others. -/
theorem notices_append {file : String} {line : Nat} {before after : List Origin}
    (unclaimed : ∀ o ∈ before, o.claims file line = false) :
    notices file line (before ++ after) =
      notices file line before ++ notices file line after := by
  induction before with
  | nil => rfl
  | cons o rest ih =>
    have passed := ih fun other member => unclaimed other (List.mem_cons_of_mem o member)
    simp [notices, unclaimed o List.mem_cons_self, passed]

theorem notices_cons {o : Origin} {file : String} {line : Nat} {rest : List Origin}
    {n : Log.Notice} (said : o.staleNotice? file line = some n)
    (unclaimed : o.claims file line = false) :
    notices file line (o :: rest) = n :: notices file line rest := by
  simp [notices, said, unclaimed]

end Origin

/-- What decides on a record that names a line of a function, and what is said, among the origins
resolved together with it, of a record that names the compiled path of a source that has moved. -/
structure Surroundings.Decides (here : Surroundings) (codes : Table Code) (body : FunctionBody)
    (r : Resolution) (record : Record) : Prop where
  live : ∀ path, here.live? body = some path →
    (here.Matches codes body record ↔ record.Names here.cwd path)
  compiled : here.live? body = none → ∀ path, here.compiled? codes body = some path →
    (here.Matches codes body record ↔ record.Names here.cwd path)
  complaint : ∀ path old, here.live? body = some path → here.compiled? codes body = some old →
    Path.equivalent path old = false → record.Names here.cwd old →
    ∃ o file n, here.origin? codes body = some o ∧
      Path.normalise? here.cwd record.filename = some file ∧ n.OfMismatch ∧
      ∀ before after, r.origins = before ++ o :: after →
        (∀ other ∈ before, other.claims file record.line = false) →
        r.recordNotices here.cwd record =
          Origin.notices file record.line before ++ n :: Origin.notices file record.line after

theorem Surroundings.decides (dict : here.modules.store = .dict) {lines : LineSet}
    {record : Record} (spanned : here.lineSet? codes body = some lines)
    (member : record.line ∈ lines.toList) (r : Resolution) :
    here.Decides codes body r record := by
  have rule := matches_iff dict spanned member
  refine ⟨fun path told => ?_, fun untold path known => ?_, ?_⟩
  · simpa [told, SourcePath.choose] using rule
  · simpa [untold, known, SourcePath.choose] using rule
  · rintro path old told known apart ⟨file, normal, stale⟩
    have unnamed : Path.equivalent path file = false := by
      rw [← Bool.not_eq_true]
      intro same
      have named : record.Names here.cwd path := ⟨file, normal, same⟩
      rw [named.same ⟨file, normal, stale⟩] at apart
      cases apart
    have within : lines.contains record.line = true := List.contains_iff_mem.mpr member
    have found := origin?_spanned dict spanned member
    simp only [told, known, SourcePath.choose, Option.filter, apart, Bool.not_false, if_true,
      Option.map_some] at found
    obtain ⟨n, said⟩ : ∃ n, Origin.staleNotice? ⟨⟨path, .liveModule, some old⟩, lines⟩ file
        record.line = some n := by
      simp [Origin.staleNotice?, within, unnamed, stale]
    refine ⟨_, file, n, found, normal, Origin.staleNotice?_ofMismatch said,
      fun before after origins passed => ?_⟩
    have unclaimed : Origin.claims ⟨⟨path, .liveModule, some old⟩, lines⟩ file record.line =
        false := by
      simp only [Origin.claims, within, unnamed, Bool.and_false]
    rw [Resolution.recordNotices, normal, origins]
    exact (Origin.notices_append passed).trans (congrArg _ (Origin.notices_cons said unclaimed))

/-- A record belongs to the targets if it belongs to a function on the chain of one of them, and to
a function only if it names one of its lines. Then the path of the live module decides, and the
compiled path only if no live module tells one. To a function without a path no record belongs, and
none that names a compiled path which is not that of the live module. -/
theorem records_match_the_live_source {types : CallableTypes} {targets : List String}
    {r : Resolution} (dict : here.modules.store = .dict)
    (resolved : Resolution.ofTargets here objects types targets = .ok r) (record : Record) :
    (r.claimsRecord here.cwd record = true ↔
      ∃ function ∈ targets.flatMap objects.chain,
        here.Matches objects.codes function.2 record) ∧
    ∀ body,
      (here.Matches objects.codes body record →
        ∃ lines, here.lineSet? objects.codes body = some lines ∧ record.line ∈ lines.toList) ∧
      (∀ lines, here.lineSet? objects.codes body = some lines → record.line ∈ lines.toList →
        here.Decides objects.codes body r record) ∧
      (here.live? body = none → here.compiled? objects.codes body = none →
        ¬ here.Matches objects.codes body record) ∧
      ∀ path old, here.live? body = some path → here.compiled? objects.codes body = some old →
        Path.equivalent path old = false → record.Names here.cwd old →
        ¬ here.Matches objects.codes body record := by
  refine ⟨?_, fun body => ⟨fun matched => matched.lines,
    fun lines spanned member => Surroundings.decides dict spanned member r,
    Surroundings.not_matches_of_pathless dict record, ?_⟩⟩
  · unfold Resolution.claimsRecord Surroundings.Matches
    cases normal : Path.normalise? here.cwd record.filename with
    | none => simp
    | some file =>
      simp only [Resolution.claims, Resolution.ofTargets_origins resolved, List.any_eq_true,
        List.mem_filterMap, Option.some.injEq]
      constructor
      · rintro ⟨o, ⟨function, member, found⟩, claimed⟩
        exact ⟨function, member, o, file, found, rfl, claimed⟩
      · rintro ⟨function, member, o, _, found, rfl, claimed⟩
        exact ⟨o, ⟨function, member, found⟩, claimed⟩
  · intro path old told _ apart names matched
    obtain ⟨lines, spanned, member⟩ := matched.lines
    have named := ((Surroundings.decides dict spanned member r).live path told).mp matched
    rw [named.same names] at apart
    cases apart

/-- The module `m` has moved from `/old.py` to `/new.py`; its loader only says that it is frozen. -/
def movedModule : Surroundings where
  modules := { entries := [("m", some (.mk (some "frozen") (some "/new.py") .absent [] none))] }
  cwd := "/"

def movedFunction : FunctionBody := { module := some "m", code := some "code" }

/-- A function that was compiled before its module moved. -/
def movedObjects : HostObjects where
  entries := [("function", ⟨.function movedFunction, .plainFunction⟩)]
  codes := [("code", .compiled (.mk "/old.py" [some 3] []))]

/-- A warning from the compiled file of the old path is on a line of the moved function. It does not
belong to it, and this is complained about. -/
theorem warning_at_the_old_path_is_unclaimed :
    ∃ r, movedModule.modules.store = .dict ∧
      Resolution.ofTargets movedModule movedObjects {} ["function"] = .ok r ∧
      r.claimsRecord "/" ⟨"message", .warning, "/old.pyc", 3⟩ = false ∧
      ∃ n, r.recordNotices "/" ⟨"message", .warning, "/old.pyc", 3⟩ = [n] ∧ n.OfMismatch := by
  have chained : ["function"].flatMap movedObjects.chain = [("function", movedFunction)] := rfl
  have told : movedModule.live? movedFunction = some "/new.py" := by decide +kernel
  have known : movedModule.compiled? movedObjects.codes movedFunction = some "/old.py" := by
    decide +kernel
  have apart : Path.equivalent "/new.py" "/old.py" = false := by decide +kernel
  have names : Record.Names "/" ⟨"message", .warning, "/old.pyc", 3⟩ "/old.py" :=
    ⟨"/old.pyc", by decide +kernel, by decide +kernel⟩
  have spanned : movedModule.lineSet? movedObjects.codes movedFunction =
      some (LineSet.ofLines [3]) := by decide +kernel
  cases resolved : Resolution.ofTargets movedModule movedObjects {} ["function"] with
  | error err =>
    have accepted :
        (Resolution.ofTargets movedModule movedObjects {} ["function"]).isOk = true := by
      decide +kernel
    rw [resolved] at accepted
    cases accepted
  | ok r =>
    obtain ⟨belongs, rule⟩ := records_match_the_live_source rfl resolved
      ⟨"message", .warning, "/old.pyc", 3⟩
    obtain ⟨_, decides, _, never⟩ := rule movedFunction
    have unmatched := never "/new.py" "/old.py" told known apart names
    obtain ⟨o, file, n, found, normal, mismatch, said⟩ :=
      (decides _ spanned (by decide +kernel)).complaint "/new.py" "/old.py" told known apart names
    have alone : r.origins = [] ++ [o] := by
      simp [Resolution.ofTargets_origins resolved, chained, found]
    refine ⟨r, rfl, rfl, ?_, n, said [] [] alone (by simp), mismatch⟩
    rw [← Bool.not_eq_true]
    intro claimed
    obtain ⟨function, member, matched⟩ := belongs.mp claimed
    rw [chained, List.mem_singleton] at member
    subst member
    exact unmatched matched

end WarningCapture
