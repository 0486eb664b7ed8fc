import WarningCapture.Proofs.Source.Belonging

/-! Code that is read again. Resolving targets reads the code of the functions that they lead to,
and a stand-in may give its constants only once. So a function may own less afterwards, but never
more, and less only if its code was read. -/
namespace WarningCapture

namespace LineTable
variable {levels : Nat} {rs : List Reading} {ns : List Nat} {n : Nat}

namespace Reading

def line? : Reading → Option Nat
  | line n => some n
  | _ => none

end Reading

/-- Nothing that was met is a failure. -/
def Sound (rs : List Reading) : Prop := ∀ err, .failure err ∉ rs

theorem sound_append {more : List Reading} : Sound (rs ++ more) ↔ Sound rs ∧ Sound more := by
  simp only [Sound, List.mem_append, not_or]
  exact forall_and

/-- Where nothing fails, the lines are all those that are met. -/
theorem linesOf_of_sound (sound : Sound rs) : linesOf rs = .ok (rs.filterMap Reading.line?) := by
  induction rs with
  | nil => rfl
  | cons reading rest ih =>
    have later := ih fun err member => sound err (List.mem_cons_of_mem reading member)
    cases reading with
    | setback f => exact later
    | failure err => exact absurd List.mem_cons_self (sound err)
    | line n =>
      rw [linesOf, later]
      rfl

theorem sound_of_linesOf (read : linesOf rs = .ok ns) : Sound rs := by
  induction rs generalizing ns with
  | nil => simp [Sound]
  | cons reading rest ih =>
    intro err member
    cases reading with
    | setback f => exact ih read err (by simpa using member)
    | failure other => cases read
    | line n =>
      cases later : linesOf rest with
      | error other =>
        rw [linesOf, later] at read
        cases read
      | ok others => exact ih later err (by simpa using member)

/-- A table is collected just if nothing in it fails, and then to the lines that are met in it. -/
theorem collect_eq_ok_iff {table : LineTable} {lines : LineSet} :
    table.collect = .ok lines ↔ Sound (readings maxNesting table) ∧
      lines = .ofLines ((readings maxNesting table).filterMap Reading.line?) := by
  rw [collect]
  constructor
  · intro collected
    cases read : linesOf (readings maxNesting table) with
    | error err =>
      rw [read] at collected
      cases collected
    | ok numbers =>
      have sound := sound_of_linesOf read
      rw [linesOf_of_sound sound] at collected
      cases collected
      exact ⟨sound, rfl⟩
  · rintro ⟨sound, rfl⟩
    rw [linesOf_of_sound sound]
    rfl

theorem toOption_collect_eq_some {table : LineTable} {lines : LineSet} :
    table.collect.toOption = some lines ↔ table.collect = .ok lines := by
  cases table.collect <;> simp [Except.toOption]

end LineTable

namespace CompiledCode
open LineTable

theorem ownReadings_sound (lines : List (Option Nat)) : Sound (ownReadings none (.ok lines)) := by
  simp [Sound, ownReadings]

mutual

/-- Genuine code is read without fail, down to whatever depth. -/
theorem table_sound (levels : Nat) : (code : CompiledCode) → Sound (readings levels code.table)
  | mk _ lines nested => by
    cases levels with
    | zero => exact ownReadings_sound _
    | succ levels => exact sound_append.mpr ⟨ownReadings_sound _, tables_sound levels nested⟩

theorem tables_sound (levels : Nat) :
    (codes : List CompiledCode) → Sound (allReadings levels (tables codes))
  | [] => by simp [Sound, tables, allReadings]
  | code :: rest => sound_append.mpr ⟨table_sound levels code, tables_sound levels rest⟩

end

end CompiledCode

namespace Code
open LineTable

/-- The constants of a code object can be gone through only once. -/
def ReadsOnce (code : Code) : Prop :=
  ∃ s constants, code = standIn s ∧ s.constants = .onceOnly constants

theorem spent_eq {code : Code} (again : ¬ code.ReadsOnce) : code.spent = code := by
  cases code with
  | compiled => rfl
  | standIn s =>
    rw [spent, StandInCode.spent]
    split
    · rename_i constants once
      exact absurd ⟨s, constants, rfl, once⟩ again
    · rfl

theorem not_readsOnce_spent (code : Code) : ¬ code.spent.ReadsOnce := by
  rintro ⟨s, constants, same, once⟩
  cases code with
  | compiled => cases same
  | standIn other =>
    cases same
    rw [StandInCode.spent] at once
    split at once
    · cases once
    · rename_i again
      exact again constants once

theorem spent_spent (code : Code) : code.spent.spent = code.spent :=
  spent_eq code.not_readsOnce_spent

theorem spent_filename? (code : Code) : code.spent.filename? = code.filename? := by
  cases code with
  | compiled => rfl
  | standIn s =>
    rw [spent, StandInCode.spent]
    split <;> rfl

end Code

namespace Surroundings
variable {here : Surroundings} {objects : HostObjects} {codes : Table Code}
  {body other : FunctionBody} {record : Record} {names : List String} {name : String} {code : Code}

/-- The same surroundings after more code was read. -/
def afterReading (here : Surroundings) (names : List String) : Surroundings :=
  { here with read := names ++ here.read }

/-- Of code that was read in the meantime, what is left is found. -/
theorem afterReading_codeOf? (here : Surroundings) (names : List String) (codes : Table Code)
    (body : FunctionBody) : (here.afterReading names).codeOf? codes body =
      (here.codeOf? codes body).map fun found =>
        (found.1, if names.contains found.1 then found.2.spent else found.2) := by
  simp only [codeOf?, afterReading]
  cases body.code with
  | none => rfl
  | some name =>
    simp only [Option.bind_some]
    cases Table.get? name codes with
    | none => rfl
    | some code =>
      simp only [Option.map_some, List.contains_append]
      cases names.contains name <;> cases here.read.contains name <;> simp [Code.spent_spent]

theorem sourcePath?_spent (here : Surroundings) (body : FunctionBody) (code : Code) :
    here.sourcePath? body code.spent = here.sourcePath? body code := by
  simp only [sourcePath?, compiledPath?, Code.spent_filename?]

/-- Reading code leaves the paths of functions as they are. -/
theorem afterReading_path? (here : Surroundings) (names : List String) (codes : Table Code)
    (body : FunctionBody) : (here.afterReading names).path? codes body = here.path? codes body := by
  simp only [path?, afterReading_codeOf?]
  cases here.codeOf? codes body with
  | none => rfl
  | some found =>
    obtain ⟨name, code⟩ := found
    have same (c : Code) : (here.afterReading names).sourcePath? body c =
      here.sourcePath? body c := rfl
    simp only [Option.map_some, Option.bind_eq_bind, Option.bind_some, same]
    split
    · rw [sourcePath?_spent]
    · rfl

/-- A function owns what it did, unless its code was read and can be read only once. -/
theorem Owns.afterReading (owns : here.Owns codes body record) (names : List String) :
    (here.afterReading names).Owns codes body record ∨
      ∃ name code, here.codeOf? codes body = some (name, code) ∧ name ∈ names ∧ code.ReadsOnce := by
  by_cases once : ∃ name code,
      here.codeOf? codes body = some (name, code) ∧ name ∈ names ∧ code.ReadsOnce
  · exact .inr once
  · obtain ⟨lines, path, file, spanned, member, sourced, normal, same⟩ := owns
    have found : (here.afterReading names).codeOf? codes body = here.codeOf? codes body := by
      rw [afterReading_codeOf?]
      cases found : here.codeOf? codes body with
      | none => rfl
      | some entry =>
        obtain ⟨name, code⟩ := entry
        simp only [Option.map_some, Option.some.injEq, Prod.mk.injEq, true_and]
        split
        · rename_i read
          exact Code.spent_eq fun reads =>
            once ⟨name, code, found, List.contains_iff_mem.mp read, reads⟩
        · rfl
    refine .inl ⟨lines, path, file, ?_, member, ?_, normal, same⟩
    · rw [lineSet?, found]
      exact spanned
    · rw [afterReading_path?]
      exact sourced

/-- Functions of one module that share their code own the same records. -/
theorem Owns.shared (owns : here.Owns codes body record) (sameCode : body.code = other.code)
    (sameModule : body.module = other.module) : here.Owns codes other record := by
  obtain ⟨lines, path, file, spanned, member, sourced, normal, same⟩ := owns
  refine ⟨lines, path, file, ?_, member, ?_, normal, same⟩
  · rw [← spanned]
    simp only [lineSet?, codeOf?, sameCode]
  · rw [← sourced]
    simp only [path?, codeOf?, sourcePath?, livePath?, sameCode, sameModule]

end Surroundings

namespace Surroundings
variable {here : Surroundings} {objects : HostObjects} {cache : LineCache} {name : String}

end Surroundings

end WarningCapture
