import Mathlib.Data.List.Lex
import WarningCapture.Proofs.Source.Rereading

/-! Line sets of nested tables. The tables nested in a table have places in it, and the places come
in the order in which the tables are read. Down to the depth that is read, a line set holds exactly
the lines reported anywhere, and what fails is the first place at which anything fails; what lies
deeper counts for nothing. -/
namespace WarningCapture

namespace LineSet

/-- The set holds exactly the lines with a property, each once and in order. -/
structure SetOf (s : LineSet) (P : Nat → Prop) : Prop where
  ascending : s.toList.Pairwise (· < ·)
  mem : ∀ n, n ∈ s.toList ↔ P n
  contains : ∀ n, s.contains n = true ↔ P n
  isEmpty : s.isEmpty = true ↔ ∀ n, ¬ P n
  size : ∀ ns : List Nat, ns.Nodup → (∀ n, n ∈ ns ↔ P n) → s.size = ns.length

theorem setOf_of_mem {s : LineSet} {P : Nat → Prop} (mem : ∀ n, n ∈ s.toList ↔ P n) :
    s.SetOf P where
  ascending := s.ascending
  mem := mem
  contains n := List.contains_iff_mem.trans (mem n)
  isEmpty := by simp [isEmpty, List.eq_nil_iff_forall_not_mem, mem]
  size ns nodup members := by
    have distinct : s.toList.Nodup := s.ascending.imp Nat.ne_of_lt
    exact ((List.perm_ext_iff_of_nodup distinct nodup).mpr fun n =>
      (mem n).trans (members n).symm).length_eq

/-- A line set is told by its lines. -/
theorem ext_mem {s t : LineSet} (same : ∀ n, n ∈ s.toList ↔ n ∈ t.toList) : s = t := by
  obtain ⟨left, ascendingLeft⟩ := s
  obtain ⟨right, ascendingRight⟩ := t
  have perm : left.Perm right :=
    (List.perm_ext_iff_of_nodup (ascendingLeft.imp Nat.ne_of_lt)
      (ascendingRight.imp Nat.ne_of_lt)).mpr same
  have equal : left = right :=
    perm.eq_of_pairwise (fun _ _ _ _ below above => absurd (below.trans above) (lt_irrefl _))
      ascendingLeft ascendingRight
  subst equal
  rfl

theorem ofLines_congr {ns ms : List Nat} (same : ∀ n, n ∈ ns ↔ n ∈ ms) : ofLines ns = ofLines ms :=
  ext_mem fun n => by rw [mem_ofLines, mem_ofLines, same]

end LineSet

namespace LineTable

def setback : LineTable → Option Fault
  | node setback _ _ => setback

def lines : LineTable → Except CaptureError (List (Option Nat))
  | node _ lines _ => lines

def nested : LineTable → Except CaptureError (List LineTable)
  | node _ _ nested => nested

/-- The table itself reports the line. -/
def Reports (t : LineTable) (n : Nat) : Prop := ∃ entries, t.lines = .ok entries ∧ some n ∈ entries

/-- The table at a place, which says level by level which of the nested tables to go on with. The
length of the place is the depth of the table. -/
def at? : LineTable → List Nat → Option LineTable
  | t, [] => some t
  | t, i :: place => t.nested.toOption.bind fun tables => tables[i]?.bind (·.at? place)

/-- What fails at a place, with so many levels below it to be read: the lines of the table there, or
its nested tables if there is still a level for them. -/
def failureAt? (levels : Nat) (t : LineTable) (place : List Nat) : Option CaptureError :=
  (t.at? place).bind fun u =>
    if place.length ≤ levels then
      match u.lines, u.nested with
      | .error err, _ => some err
      | .ok _, .error err => if place.length < levels then some err else none
      | .ok _, .ok _ => none
    else none

/-- What is met at a table at that depth: what the table itself has, and that its nested tables cannot
be read, if there is still a level for them. -/
def Meets (levels : Nat) (r : Reading) (depth : Nat) (u : LineTable) : Prop :=
  depth ≤ levels ∧ (r ∈ ownReadings u.setback u.lines ∨
    depth < levels ∧ ∃ err, u.nested = .error err ∧ r = .failure err)

/-- Tables are read in the order of their places, so this is the first failure that is met. -/
def FailsFirst (levels : Nat) (t : LineTable) (err : CaptureError) : Prop :=
  ∃ place, failureAt? levels t place = some err ∧
    ∀ earlier, List.Lex (· < ·) earlier place → failureAt? levels t earlier = none

/-- The same tables, with entries and nested tables in another order at some places. -/
inductive Reordered : LineTable → LineTable → Prop where
  | entries (note : Option Fault) (inner : Except CaptureError (List LineTable)) :
      List.Perm entries entries' →
      Reordered (.node note (.ok entries) inner) (.node note (.ok entries') inner)
  | tables (note : Option Fault) (own : Except CaptureError (List (Option Nat))) :
      List.Perm tables tables' →
      Reordered (.node note own (.ok tables)) (.node note own (.ok tables'))
  | within (note : Option Fault) (own : Except CaptureError (List (Option Nat)))
      (before after : List LineTable) : Reordered t t' →
      Reordered (.node note own (.ok (before ++ t :: after)))
        (.node note own (.ok (before ++ t' :: after)))
  | trans : Reordered t t' → Reordered t' t'' → Reordered t t''

/-- The table without what is nested in it deeper than so many levels. -/
def pruned : Nat → LineTable → LineTable
  | 0, .node setback lines _ => .node setback lines (.ok [])
  | levels + 1, .node setback lines nested =>
      .node setback lines (nested.map fun tables => tables.map (pruned levels))

variable {levels n : Nat} {t u : LineTable} {err : CaptureError} {place : List Nat} {r : Reading}

theorem allReadings_eq (levels : Nat) (tables : List LineTable) :
    allReadings levels tables = tables.flatMap (readings levels) := by
  induction tables with
  | nil => rfl
  | cons table rest ih => rw [allReadings, ih, List.flatMap_cons]

theorem readings_zero (t : LineTable) : readings 0 t = ownReadings t.setback t.lines := by
  cases t
  rfl

theorem readings_unreadable (failed : t.nested = .error err) :
    readings (levels + 1) t = ownReadings t.setback t.lines ++ [.failure err] := by
  cases t
  cases failed
  rfl

theorem readings_nested {tables : List LineTable} (read : t.nested = .ok tables) :
    readings (levels + 1) t =
      ownReadings t.setback t.lines ++ tables.flatMap (readings levels) := by
  cases t
  cases read
  rw [readings, nestedReadings, allReadings_eq]
  rfl

theorem at?_nested {tables : List LineTable} (read : t.nested = .ok tables) (i : Nat)
    (place : List Nat) : t.at? (i :: place) = tables[i]?.bind (·.at? place) := by
  rw [at?, read]
  rfl

/-- A table within a table is the table itself or within one that is nested right in it. -/
theorem exists_place {P : Nat → LineTable → Prop} :
    (∃ place u, t.at? place = some u ∧ P place.length u) ↔
      P 0 t ∨ ∃ tables, t.nested = .ok tables ∧ ∃ child ∈ tables,
        ∃ place u, child.at? place = some u ∧ P (place.length + 1) u := by
  constructor
  · rintro ⟨place, u, found, holds⟩
    cases place with
    | nil =>
      cases found
      exact .inl holds
    | cons i place =>
      cases nested : t.nested with
      | error err =>
        rw [at?, nested] at found
        cases found
      | ok tables =>
        rw [at?_nested nested, Option.bind_eq_some_iff] at found
        obtain ⟨child, here, found⟩ := found
        exact .inr ⟨tables, rfl, child, List.mem_of_getElem? here, place, u, found, holds⟩
  · rintro (holds | ⟨tables, nested, child, member, place, u, found, holds⟩)
    · exact ⟨[], t, rfl, holds⟩
    · obtain ⟨i, here⟩ := List.mem_iff_getElem?.mp member
      refine ⟨i :: place, u, ?_, holds⟩
      rw [at?_nested nested, here, Option.bind_some, found]

/-- Everything that is met is met at some place within reach. -/
theorem mem_readings :
    r ∈ readings levels t ↔ ∃ place u, t.at? place = some u ∧ Meets levels r place.length u := by
  induction levels generalizing t with
  | zero =>
    rw [exists_place (P := Meets 0 r)]
    simp [Meets, readings_zero]
  | succ levels ih =>
    rw [exists_place (P := Meets (levels + 1) r)]
    cases nested : t.nested with
    | error err => simp [Meets, readings_unreadable nested, nested]
    | ok tables =>
      have deeper (depth : Nat) (u : LineTable) :
          Meets (levels + 1) r (depth + 1) u ↔ Meets levels r depth u := by simp [Meets]
      have top : Meets (levels + 1) r 0 t ↔ r ∈ ownReadings t.setback t.lines := by
        simp [Meets, nested]
      simp only [readings_nested nested, List.mem_append, List.mem_flatMap, ih, top, deeper,
        Except.ok.injEq, exists_eq_left']

theorem line_mem_ownReadings {note : Option Fault}
    {own : Except CaptureError (List (Option Nat))} :
    .line n ∈ ownReadings note own ↔ ∃ entries, own = .ok entries ∧ some n ∈ entries := by
  cases own <;> simp [ownReadings]

theorem failure_mem_ownReadings {note : Option Fault}
    {own : Except CaptureError (List (Option Nat))} :
    .failure err ∈ ownReadings note own ↔ own = .error err := by
  cases own <;> simp [ownReadings, eq_comm]

/-- The lines that are met are those reported within reach. -/
theorem mem_lines_readings : n ∈ (readings levels t).filterMap Reading.line? ↔
    ∃ place u, place.length ≤ levels ∧ t.at? place = some u ∧ u.Reports n := by
  have line (r : Reading) : r.line? = some n ↔ r = .line n := by
    cases r <;> simp [Reading.line?]
  simp only [List.mem_filterMap, line, exists_eq_right, mem_readings, Meets, line_mem_ownReadings,
    reduceCtorEq, and_false, exists_false, or_false, Reports, and_left_comm]

/-- Nothing fails just if all that is within reach can be read. -/
theorem sound_readings : Sound (readings levels t) ↔ ∀ place u, t.at? place = some u →
    (place.length ≤ levels → ∃ entries, u.lines = .ok entries) ∧
      (place.length < levels → ∃ tables, u.nested = .ok tables) := by
  have readable {α : Type} (e : Except CaptureError α) : (∃ a, e = .ok a) ↔ ∀ err, e ≠ .error err := by
    cases e <;> simp
  simp only [Sound, mem_readings, Meets, failure_mem_ownReadings, Reading.failure.injEq,
    exists_eq_right', readable]
  constructor
  · intro sound place u found
    exact ⟨fun within err failed => sound err ⟨place, u, found, within, .inl failed⟩,
      fun within err failed => sound err ⟨place, u, found, within.le, .inr ⟨within, failed⟩⟩⟩
  · rintro readable err ⟨place, u, found, within, failed | ⟨deeper, failed⟩⟩
    · exact (readable place u found).1 within err failed
    · exact (readable place u found).2 deeper err failed

def Reading.failure? : Reading → Option CaptureError
  | .failure err => some err
  | _ => none

theorem linesOf_eq_error {rs : List Reading} :
    linesOf rs = .error err ↔ rs.findSome? Reading.failure? = some err := by
  induction rs with
  | nil => simp [linesOf]
  | cons reading rest ih =>
    cases reading with
    | setback f => simpa [linesOf, List.findSome?_cons, Reading.failure?] using ih
    | failure other => simp [linesOf, List.findSome?_cons, Reading.failure?]
    | line n =>
      rw [linesOf, List.findSome?_cons]
      cases later : linesOf rest with
      | error other => simpa [later, Reading.failure?, Except.map] using ih
      | ok ns => simpa [later, Reading.failure?, Except.map] using ih

theorem collect_eq_error : t.collect = .error err ↔
    (readings maxNesting t).findSome? Reading.failure? = some err := by
  rw [← linesOf_eq_error, collect]
  cases linesOf (readings maxNesting t) <;> simp [Except.map]

theorem findSome?_failure?_eq_none {rs : List Reading} :
    rs.findSome? Reading.failure? = none ↔ Sound rs := by
  rw [List.findSome?_eq_none_iff]
  constructor
  · exact fun silent err member => nomatch silent _ member
  · intro sound reading member
    cases reading with
    | failure err => exact absurd member (sound err)
    | setback | line => rfl

theorem findSome?_ownReadings (note : Option Fault)
    (own : Except CaptureError (List (Option Nat))) :
    (ownReadings note own).findSome? Reading.failure? =
      match own with
      | .error err => some err
      | .ok _ => none := by
  cases own with
  | error err => cases note <;> rfl
  | ok entries =>
    refine findSome?_failure?_eq_none.mpr fun err member => ?_
    cases failure_mem_ownReadings.mp member

/-- Of the failures in several tables the first is that of the first table in which any is met. -/
theorem failure?_flatMap (levels : Nat) (tables : List LineTable) :
    (tables.flatMap (readings levels)).findSome? Reading.failure? =
      tables.findSome? fun table => (readings levels table).findSome? Reading.failure? := by
  induction tables with
  | nil => rfl
  | cons table rest ih =>
    rw [List.flatMap_cons, List.findSome?_append, ih, List.findSome?_cons]
    cases (readings levels table).findSome? Reading.failure? <;> rfl

theorem failureAt?_nested {tables : List LineTable} (read : t.nested = .ok tables) (i : Nat)
    (place : List Nat) : failureAt? (levels + 1) t (i :: place) =
      tables[i]?.bind fun child => failureAt? levels child place := by
  simp only [failureAt?, at?_nested read, Option.bind_assoc, List.length_cons,
    Nat.succ_le_succ_iff, Nat.succ_lt_succ_iff]

theorem failureAt?_of_sound (sound : Sound (readings levels t)) (place : List Nat) :
    failureAt? levels t place = none := by
  rw [failureAt?, Option.bind_eq_none_iff]
  intro u found
  obtain ⟨own, inner⟩ := sound_readings.mp sound place u found
  split
  · rename_i within
    obtain ⟨entries, read⟩ := own within
    split
    · rename_i failed
      cases read.symm.trans failed
    · rename_i failed
      rw [if_neg]
      intro deeper
      obtain ⟨tables, nested⟩ := inner deeper
      cases nested.symm.trans failed
    · rfl
  · rfl

theorem readings_own (levels : Nat) (t : LineTable) :
    ownReadings t.setback t.lines <+: readings levels t := by
  cases t
  cases levels with
  | zero => exact List.prefix_rfl
  | succ levels => exact List.prefix_append _ _

theorem FailsFirst.top (failed : failureAt? levels t [] = some err) : FailsFirst levels t err :=
  ⟨[], failed, fun _ before => nomatch before⟩

/-- A failure in a nested table comes first if nothing fails in the tables before it. -/
theorem FailsFirst.nested {entries : List (Option Nat)} {before after : List LineTable}
    {child : LineTable} (own : t.lines = .ok entries)
    (nested : t.nested = .ok (before ++ child :: after))
    (sound : ∀ other ∈ before, Sound (readings levels other))
    (fails : FailsFirst levels child err) : FailsFirst (levels + 1) t err := by
  obtain ⟨place, failed, first⟩ := fails
  refine ⟨before.length :: place, ?_, ?_⟩
  · rw [failureAt?_nested nested, List.getElem?_append_right (Nat.le_refl _), Nat.sub_self]
    exact failed
  · intro earlier precedes
    cases precedes with
    | nil => simp [failureAt?, at?, own, nested]
    | cons precedes =>
      rw [failureAt?_nested nested, List.getElem?_append_right (Nat.le_refl _), Nat.sub_self]
      exact first _ precedes
    | rel precedes =>
      rw [failureAt?_nested nested, List.getElem?_append_left precedes,
        List.getElem?_eq_getElem precedes]
      exact failureAt?_of_sound (sound _ (List.getElem_mem precedes)) _

/-- The failure that is met first is the failure at the first place where anything fails. -/
theorem failsFirst_of_findSome? (met : (readings levels t).findSome? Reading.failure? = some err) :
    FailsFirst levels t err := by
  induction levels generalizing t with
  | zero =>
    rw [readings_zero, findSome?_ownReadings] at met
    cases own : t.lines with
    | error other =>
      rw [own] at met
      cases met
      exact .top (by simp [failureAt?, at?, own])
    | ok entries => simp [own] at met
  | succ levels ih =>
    cases own : t.lines with
    | error other =>
      obtain ⟨rest, opened⟩ := readings_own (levels + 1) t
      rw [← opened, List.findSome?_append, findSome?_ownReadings, own] at met
      cases met
      exact .top (by simp [failureAt?, at?, own])
    | ok entries =>
      cases nested : t.nested with
      | error other =>
        rw [readings_unreadable nested, List.findSome?_append, findSome?_ownReadings, own] at met
        cases met
        exact .top (by simp [failureAt?, at?, own, nested])
      | ok tables =>
        rw [readings_nested nested, List.findSome?_append, findSome?_ownReadings, own,
          Option.none_or, failure?_flatMap, List.findSome?_eq_some_iff] at met
        obtain ⟨before, child, after, rfl, met, silent⟩ := met
        exact .nested own nested
          (fun other member => findSome?_failure?_eq_none.mp (silent other member)) (ih met)

/-- Of two first failures neither can come before the other. -/
theorem FailsFirst.unique {other : CaptureError} (one : FailsFirst levels t err)
    (two : FailsFirst levels t other) : err = other := by
  obtain ⟨place, failed, first⟩ := one
  obtain ⟨place', failed', first'⟩ := two
  rcases trichotomous_of (List.Lex (· < ·)) place place' with before | rfl | after
  · rw [first' place before] at failed
    cases failed
  · exact Option.some.inj (failed.symm.trans failed')
  · rw [first place' after] at failed'
    cases failed'

theorem findSome?_iff_failsFirst :
    (readings levels t).findSome? Reading.failure? = some err ↔ FailsFirst levels t err := by
  constructor
  · exact failsFirst_of_findSome?
  · intro fails
    cases met : (readings levels t).findSome? Reading.failure? with
    | some other => rw [fails.unique (failsFirst_of_findSome? met)]
    | none =>
      obtain ⟨place, failed, -⟩ := fails
      rw [failureAt?_of_sound (findSome?_failure?_eq_none.mp met)] at failed
      cases failed

/-- In another order the same is met. -/
theorem Reordered.readings_perm (reordered : Reordered t u) (levels : Nat) :
    (readings levels t).Perm (readings levels u) := by
  induction reordered generalizing levels with
  | entries note inner perm =>
    have own : (ownReadings note (.ok _)).Perm (ownReadings note (.ok _)) :=
      ((perm.filterMap id).map Reading.line).append_left (note.map Reading.setback).toList
    cases levels with
    | zero => exact own
    | succ levels => exact own.append_right _
  | tables note own perm =>
    cases levels with
    | zero => exact .refl _
    | succ levels =>
      rw [readings_nested rfl, readings_nested rfl]
      exact (perm.flatMap_right _).append_left _
  | within note own before after _ ih =>
    cases levels with
    | zero => exact .refl _
    | succ levels =>
      rw [readings_nested rfl, readings_nested rfl, List.flatMap_append, List.flatMap_append,
        List.flatMap_cons, List.flatMap_cons]
      exact (((ih levels).append_right _).append_left _).append_left _
  | trans _ _ first second => exact (first levels).trans (second levels)

theorem Reordered.symm (reordered : Reordered t u) : Reordered u t := by
  induction reordered with
  | entries note inner perm => exact .entries note inner perm.symm
  | tables note own perm => exact .tables note own perm.symm
  | within note own before after _ ih => exact .within note own before after ih
  | trans _ _ first second => exact .trans second first

theorem Reordered.collect {s : LineSet} (reordered : Reordered t u) (collected : t.collect = .ok s) :
    u.collect = .ok s := by
  obtain ⟨sound, rfl⟩ := collect_eq_ok_iff.mp collected
  have perm := reordered.readings_perm maxNesting
  refine collect_eq_ok_iff.mpr ⟨?_, ?_⟩
  · exact fun err member => sound err (perm.mem_iff.mpr member)
  · exact LineSet.ofLines_congr fun n => (perm.filterMap _).mem_iff

/-- What lies deeper than is read counts for nothing. -/
theorem readings_pruned (levels : Nat) (t : LineTable) :
    readings levels (t.pruned levels) = readings levels t := by
  induction levels generalizing t with
  | zero =>
    cases t
    rfl
  | succ levels ih =>
    obtain ⟨note, own, inner⟩ := t
    cases inner with
    | error err => rfl
    | ok tables =>
      rw [pruned, readings_nested rfl, readings_nested rfl, List.flatMap_map]
      simp only [ih]
      rfl

theorem collect_pruned (t : LineTable) : (t.pruned maxNesting).collect = t.collect := by
  rw [collect, readings_pruned, collect]

end LineTable

/-- The line set of a table, for tables nested in each other to any depth. It can be collected just
if all lines down to depth 64 and all nested tables down to depth 63 can be read; then it holds the
positive lines reported down to depth 64, in whatever order they are reported. Else the failure is
the first in the order of places, where a table comes before what is nested in it, and at one place
the lines before the nested tables. What lies deeper has no part in it. -/
theorem line_set_unites_nested_tables (t : LineTable) :
    ((∃ s, t.collect = .ok s) ↔ ∀ place u, t.at? place = some u →
      (place.length ≤ 64 → ∃ entries, u.lines = .ok entries) ∧
      (place.length ≤ 63 → ∃ tables, u.nested = .ok tables)) ∧
    (∀ s, t.collect = .ok s → s.SetOf fun n =>
      0 < n ∧ ∃ place u, place.length ≤ 64 ∧ t.at? place = some u ∧ u.Reports n) ∧
    (∀ err, t.collect = .error err ↔ t.FailsFirst 64 err) ∧
    (∀ u, t.Reordered u → ∀ s, t.collect = .ok s ↔ u.collect = .ok s) ∧
    ∀ u : LineTable, t.pruned 64 = u.pruned 64 → t.collect = u.collect := by
  refine ⟨?_, ?_, ?_, ?_, ?_⟩
  · have readable : LineTable.Sound (LineTable.readings 64 t) ↔ _ := LineTable.sound_readings
    simp only [Nat.lt_succ_iff] at readable
    rw [← readable]
    simp only [LineTable.collect_eq_ok_iff, exists_and_left, exists_eq, and_true]
    rfl
  · intro s collected
    obtain ⟨-, rfl⟩ := LineTable.collect_eq_ok_iff.mp collected
    exact LineSet.setOf_of_mem fun n =>
      LineSet.mem_ofLines.trans (and_congr_right' LineTable.mem_lines_readings)
  · intro err
    rw [LineTable.collect_eq_error]
    exact LineTable.findSome?_iff_failsFirst
  · exact fun u reordered s => ⟨reordered.collect, reordered.symm.collect⟩
  · intro u same
    have collected := congrArg LineTable.collect same
    rw [← LineTable.collect_pruned t, ← LineTable.collect_pruned u]
    exact collected

namespace LineTable

/-- Tables nested in each other, with a line for each, on a table that they end with. -/
def tower : Nat → LineTable → LineTable
  | 0, ground => ground
  | floors + 1, ground => .node none (.ok [some floors, none]) (.ok [tower floors ground])

def bare : LineTable := .node none (.ok []) (.ok [])

def collapse : CaptureError := environmentError .lineTableUnavailable "failed to read line table"

def broken : LineTable := .node none (.error collapse) (.ok [])

/-- From the top of a tower its ground cannot be seen. -/
theorem tower_pruned (floors : Nat) (ground other : LineTable) :
    (tower (floors + 1) ground).pruned floors = (tower (floors + 1) other).pruned floors := by
  induction floors with
  | zero => rfl
  | succ floors ih =>
    have top (t : LineTable) :
        tower (floors + 2) t = .node none (.ok [some (floors + 1), none]) (.ok [tower (floors + 1) t]) :=
      rfl
    simp only [top, pruned, Except.map, List.map_cons, List.map_nil, ih]

/-- Two towers side by side, and the same the other way round. -/
def terrace : LineTable := .node none (.ok [some 9, none, some 8]) (.ok [tower 3 bare, tower 5 bare])

def mirrored : LineTable :=
  .node none (.ok [some 8, some 9, none]) (.ok [tower 5 bare, tower 3 bare])

theorem terrace_reordered : terrace.Reordered mirrored :=
  .trans (.entries none (.ok [tower 3 bare, tower 5 bare]) (by decide))
    (.tables none (.ok [some 8, some 9, none]) (.swap _ _ _))

end LineTable

/-- Under 65 tables the ground cannot be seen; under 64 it is the first that fails. -/
theorem deep_ground_is_not_read :
    (LineTable.tower 65 .broken).pruned 64 = (LineTable.tower 65 .bare).pruned 64 ∧
    (∃ s, (LineTable.tower 65 .broken).collect = .ok s ∧
      (LineTable.tower 65 .bare).collect = .ok s ∧ s.size = 64 ∧ s.contains 0 = false) ∧
    (LineTable.tower 64 .broken).FailsFirst 64 LineTable.collapse ∧
    LineTable.terrace.Reordered .mirrored ∧
    ∃ s, LineTable.terrace.collect = .ok s ∧ LineTable.mirrored.collect = .ok s ∧
      s.toList = [1, 2, 3, 4, 8, 9] := by
  have alike : (LineTable.tower 65 .broken).pruned 64 = (LineTable.tower 65 .bare).pruned 64 :=
    LineTable.tower_pruned 64 .broken .bare
  have count : (LineTable.tower 65 .broken).collect.toOption.map LineSet.size = some 64 := by
    decide +kernel
  have rows : LineTable.terrace.collect.toOption.map LineSet.toList = some [1, 2, 3, 4, 8, 9] := by
    decide +kernel
  have fallen : (LineTable.tower 64 .broken).collect = .error LineTable.collapse := rfl
  obtain ⟨-, holds, -, -, unseen⟩ := line_set_unites_nested_tables (.tower 65 .broken)
  obtain ⟨-, -, first, -, -⟩ := line_set_unites_nested_tables (.tower 64 .broken)
  obtain ⟨-, -, -, anyOrder, -⟩ := line_set_unites_nested_tables .terrace
  simp only [Option.map_eq_some_iff, LineTable.toOption_collect_eq_some] at count rows
  obtain ⟨s, collected, size⟩ := count
  obtain ⟨lines, read, listed⟩ := rows
  refine ⟨alike, ⟨s, collected, unseen _ alike ▸ collected, size, ?_⟩, (first _).mp fallen,
    LineTable.terrace_reordered, lines, read,
    (anyOrder _ LineTable.terrace_reordered lines).mp read, listed⟩
  rw [← Bool.not_eq_true, (holds s collected).contains]
  exact fun positive => absurd positive.1 (lt_irrefl 0)

end WarningCapture
