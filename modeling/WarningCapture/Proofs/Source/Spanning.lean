import WarningCapture.Proofs.Source.Normalising
import WarningCapture.Proofs.Source.Rereading

/-! The lines that targets span. They are the union of the lines of the origins, and every one of
them is claimed together with some file: the path of an origin is normal, so that a record which
names it is held against the path as it stands. -/
namespace WarningCapture

namespace Path
variable {cwd path result : String}

theorem normal_of_normalise? (made : normalise? cwd path = some result) : Normal result := by
  rw [normalise?_eq] at made
  split at made
  · cases made
  · cases made
    exact normal_of_solid (solid_of_mem_stack (located cwd path))

end Path

/-- Lines fit the 32 bits that records keep of them. -/
theorem Value.asLine?_lt {v : Value} {n : Nat} (read : v.asLine? = some n) : n < 0x100000000 := by
  unfold Value.asLine? at read
  split at read
  · split at read
    · cases read
      omega
    · cases read
  · cases read

namespace LineTable

/-- The lines that are met fit 32 bits. -/
def Narrow (rs : List Reading) : Prop := ∀ n, .line n ∈ rs → n < 0x100000000

theorem narrow_append {rs more : List Reading} :
    Narrow (rs ++ more) ↔ Narrow rs ∧ Narrow more := by
  simp only [Narrow, List.mem_append, or_imp, forall_and]

theorem narrow_failure (err : CaptureError) : Narrow [.failure err] := by simp [Narrow]

theorem narrow_own {entries : List (Option Nat)}
    (narrow : ∀ n, some n ∈ entries → n < 0x100000000) (setback : Option Fault) :
    Narrow (ownReadings setback (.ok entries)) := by
  intro n member
  refine narrow n ?_
  simpa [ownReadings] using member

end LineTable

namespace CompiledCode
open LineTable

theorem ownReadings_narrow (entries : List (Option Int)) :
    Narrow (ownReadings none (.ok (entries.map entryLine))) := by
  refine narrow_own (fun n member => ?_) none
  obtain ⟨entry, -, read⟩ := List.mem_map.mp member
  obtain ⟨value, -, line⟩ := Option.bind_eq_some_iff.mp read
  exact Value.asLine?_lt line

mutual

theorem table_narrow (levels : Nat) : (code : CompiledCode) → Narrow (readings levels code.table)
  | mk _ lines nested => by
    cases levels with
    | zero => exact ownReadings_narrow _
    | succ levels => exact narrow_append.mpr ⟨ownReadings_narrow _, tables_narrow levels nested⟩

theorem tables_narrow (levels : Nat) :
    (codes : List CompiledCode) → Narrow (allReadings levels (tables codes))
  | [] => by simp [Narrow, tables, allReadings]
  | code :: rest => narrow_append.mpr ⟨table_narrow levels code, tables_narrow levels rest⟩

end

end CompiledCode

namespace StandInCode
open LineTable

theorem lines_narrow (code : StandInCode) : Narrow (ownReadings code.setback code.lines) := by
  unfold StandInCode.lines
  split
  · refine narrow_own (fun n member => ?_) _
    obtain ⟨value, -, line⟩ := List.mem_map.mp member
    exact Value.asLine?_lt line
  · simp [Narrow, ownReadings]

theorem table_narrow (code : StandInCode) (levels : Nat) :
    Narrow (readings levels code.table) := by
  cases levels with
  | zero => exact code.lines_narrow
  | succ levels =>
    refine narrow_append.mpr ⟨code.lines_narrow, ?_⟩
    unfold StandInCode.nested
    split
    · simp [Narrow, nestedReadings, allReadings]
    · exact narrow_failure _
    all_goals exact CompiledCode.tables_narrow levels _

end StandInCode

/-- The lines of a code object are positive, and fit 32 bits. -/
theorem Code.bounds_of_collect {code : Code} {lines : LineSet} {n : Nat}
    (collected : code.table.collect = .ok lines) (member : n ∈ lines.toList) :
    0 < n ∧ n < 0x100000000 := by
  obtain ⟨-, rfl⟩ := LineTable.collect_eq_ok_iff.mp collected
  obtain ⟨positive, met⟩ := LineSet.mem_ofLines.mp member
  refine ⟨positive, ?_⟩
  have narrow : LineTable.Narrow (LineTable.readings LineTable.maxNesting code.table) := by
    cases code with
    | compiled code => exact code.table_narrow _
    | standIn code => exact code.table_narrow _
  obtain ⟨reading, shown, line⟩ := List.mem_filterMap.mp met
  cases reading with
  | line m =>
    cases line
    exact narrow n shown
  | setback => cases line
  | failure => cases line

namespace Surroundings
variable {here : Surroundings} {codes : Table Code} {body : FunctionBody} {o : Origin}

/-- The path of a source is normal, whether it is the module that tells it or the code. -/
theorem sourcePath?_normal {code : Code} {source : SourcePath}
    (found : here.sourcePath? body code = some source) : Path.Normal source.path := by
  unfold sourcePath? SourcePath.choose at found
  split at found
  · rename_i path live
    cases found
    obtain ⟨name, -, located⟩ := Option.bind_eq_some_iff.mp live
    unfold Modules.livePath? at located
    split at located
    · rw [Module.sourcePath?_eq] at located
      obtain ⟨text, -, made⟩ := Option.bind_eq_some_iff.mp located
      exact Path.normal_of_normalise? made
    · cases located
  · obtain ⟨path, compiled, rfl⟩ := Option.map_eq_some_iff.mp found
    obtain ⟨name, -, made⟩ := Option.bind_eq_some_iff.mp compiled
    exact Path.normal_of_normalise? made

/-- What an origin is made of. -/
theorem origin?_parts (found : here.origin? codes body = some o) :
    ∃ name code, here.codeOf? codes body = some (name, code) ∧
      here.sourcePath? body code = some o.source ∧ code.table.collect = .ok o.lines := by
  simp only [origin?, Option.bind_eq_bind, Option.bind_eq_some_iff,
    LineTable.toOption_collect_eq_some] at found
  obtain ⟨⟨name, code⟩, known, source, sourced, lines, collected, made⟩ := found
  split at made
  · cases made
  · cases made
    exact ⟨name, code, known, sourced, collected⟩

end Surroundings

namespace Resolution
variable {here : Surroundings} {objects : HostObjects} {types : CallableTypes}
  {targets : List String} {r : Resolution} {o : Origin}

theorem exists_origin? (resolved : ofTargets here objects types targets = .ok r)
    (member : o ∈ r.origins) : ∃ body, here.origin? objects.codes body = some o := by
  rw [ofTargets_origins resolved] at member
  obtain ⟨fn, -, found⟩ := List.mem_filterMap.mp member
  exact ⟨fn.2, found⟩

theorem lines_bounds (resolved : ofTargets here objects types targets = .ok r)
    (member : o ∈ r.origins) {n : Nat} (spanned : n ∈ o.lines.toList) :
    0 < n ∧ n < 0x100000000 := by
  obtain ⟨body, found⟩ := exists_origin? resolved member
  obtain ⟨_, code, -, -, collected⟩ := Surroundings.origin?_parts found
  exact code.bounds_of_collect collected spanned

theorem path_normal (resolved : ofTargets here objects types targets = .ok r)
    (member : o ∈ r.origins) : Path.Normal o.source.path := by
  obtain ⟨body, found⟩ := exists_origin? resolved member
  obtain ⟨_, _, -, sourced, -⟩ := Surroundings.origin?_parts found
  exact Surroundings.sourcePath?_normal sourced

/-- The lines are those of the origins, all of them together. -/
theorem mem_lines (resolved : ofTargets here objects types targets = .ok r) {n : Nat} :
    n ∈ r.lines ↔ ∃ o ∈ r.origins, n ∈ o.lines.toList := by
  rw [lines, LineSet.mem_ofLines, List.mem_flatMap]
  constructor
  · rintro ⟨-, spanned⟩
    exact spanned
  · rintro ⟨o, member, spanned⟩
    exact ⟨(lines_bounds resolved member spanned).1, o, member, spanned⟩

theorem lines_of_claimsRecord (resolved : ofTargets here objects types targets = .ok r)
    {cwd : String} {record : Record} (claimed : r.claimsRecord cwd record = true) :
    record.line ∈ r.lines := by
  unfold claimsRecord at claimed
  split at claimed
  · cases claimed
  · obtain ⟨o, member, owned⟩ := List.any_eq_true.mp claimed
    rw [Origin.claims, Bool.and_eq_true] at owned
    exact (mem_lines resolved).mpr ⟨o, member, List.contains_iff_mem.mp owned.1⟩

/-- No targets claim a record without a line. -/
theorem line_pos_of_claimsRecord (resolved : ofTargets here objects types targets = .ok r)
    {cwd : String} {record : Record} (claimed : r.claimsRecord cwd record = true) :
    0 < record.line := by
  obtain ⟨o, member, spanned⟩ := (mem_lines resolved).mp (lines_of_claimsRecord resolved claimed)
  exact (lines_bounds resolved member spanned).1

/-- A record that names the path of an origin is claimed with every line of it, wherever relative
paths are looked up from. -/
theorem claimsRecord_of_origin (resolved : ofTargets here objects types targets = .ok r)
    (member : o ∈ r.origins) {record : Record} (named : record.filename = o.source.path)
    (spanned : record.line ∈ o.lines.toList) (cwd : String) :
    r.claimsRecord cwd record = true := by
  rw [claimsRecord, named, (path_normal resolved member).normalise? cwd]
  refine List.any_eq_true.mpr ⟨o, member, ?_⟩
  rw [Origin.claims, Path.equivalent_refl, Bool.and_true]
  exact List.contains_iff_mem.mpr spanned

end Resolution
end WarningCapture
