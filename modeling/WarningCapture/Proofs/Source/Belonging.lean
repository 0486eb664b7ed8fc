import WarningCapture.Proofs.Source.Locating
import WarningCapture.Proofs.Source.Unwrapping

/-! What belongs to a target. A target leads to plain functions, one for each link of its chain, as
far as chains are followed; a function owns the records that name the path of its source and one of
its lines. Targets resolved together claim exactly what the functions that they lead to own. -/
namespace WarningCapture

namespace HostObjects
variable {objects : HostObjects}

/-- The plain function that so many links lead to from a target: none from the target to the
function that it is, or that is under it, and one more for every function that is wrapped. -/
inductive Leads (objects : HostObjects) : Nat → String → String × FunctionBody → Prop where
  | here : objects.plainFunction? name = some fn → Leads objects 0 name fn
  | next : objects.plainFunction? name = some (link, body) → objects.next? body = some further →
      Leads objects links further fn → Leads objects (links + 1) name fn

theorem leads_zero {name : String} {fn : String × FunctionBody} :
    objects.Leads 0 name fn ↔ objects.plainFunction? name = some fn := by
  constructor
  · rintro ⟨plain⟩
    exact plain
  · exact .here

theorem leads_succ {links : Nat} {name : String} {fn : String × FunctionBody} :
    objects.Leads (links + 1) name fn ↔ ∃ link, objects.plainFunction? name = some link ∧
      ∃ further, objects.next? link.2 = some further ∧ objects.Leads links further fn := by
  constructor
  · rintro (_ | ⟨plain, wrapped, leads⟩)
    exact ⟨_, plain, _, wrapped, leads⟩
  · rintro ⟨⟨link, body⟩, plain, further, wrapped, leads⟩
    exact .next plain wrapped leads

/-- Counted from the target or from the function, the links are the same. -/
theorem leads_iff_unwraps {links : Nat} {name : String} {fn : String × FunctionBody} :
    objects.Leads links name fn ↔ objects.Unwraps name links fn := by
  have place : objects.Leads links name fn ↔
      (objects.chainFrom (links + 1) name)[links]? = some fn := by
    induction links generalizing name with
    | zero => rw [leads_zero, chainFrom_first]
    | succ links ih => simp only [leads_succ, chainFrom_further, Option.bind_eq_some_iff, ih]
  rw [place, chainFrom_getElem?_eq_some]
  exact and_iff_right (Nat.lt_succ_self links)

theorem mem_chainFrom {room : Nat} {name : String} {fn : String × FunctionBody} :
    fn ∈ objects.chainFrom room name ↔ ∃ links < room, objects.Leads links name fn := by
  simp only [List.mem_iff_getElem?, chainFrom_getElem?_eq_some, leads_iff_unwraps]

end HostObjects

namespace Path

/-- Equal paths, or the path of a source and that of its compiled file. -/
def SameSource (a b : String) : Prop :=
  a = b ∨ ∃ stem,
    (a = stem ++ ".pyc" ∧ b = stem ++ ".py") ∨ (a = stem ++ ".py" ∧ b = stem ++ ".pyc")

theorem equivalent_iff_sameSource {a b : String} : equivalent a b = true ↔ SameSource a b := by
  simp only [equivalent, SameSource, Bool.or_eq_true, beq_iff_eq, agree_iff, exists_or, or_assoc]

end Path

namespace LineSet

theorem mem_ofLines {n : Nat} {lines : List Nat} :
    n ∈ (ofLines lines).toList ↔ 0 < n ∧ n ∈ lines := by
  have inserted (s : LineSet) (more : List Nat) :
      n ∈ (more.foldl insert s).toList ↔ n ∈ s.toList ∨ n ∈ more := by
    induction more generalizing s with
    | nil => simp
    | cons first rest ih =>
      rw [List.foldl_cons, ih, mem_insert, List.mem_cons, or_left_comm, or_assoc]
  simp [ofLines, inserted, empty, and_comm]

end LineSet

/-- Line numbers of a table are positive. -/
theorem LineTable.pos_of_collect {table : LineTable} {lines : LineSet} {n : Nat}
    (collected : table.collect = .ok lines) (member : n ∈ lines.toList) : 0 < n := by
  rw [LineTable.collect] at collected
  cases read : linesOf (readings maxNesting table) with
  | error err =>
    rw [read] at collected
    cases collected
  | ok numbers =>
    rw [read] at collected
    cases collected
    exact (LineSet.mem_ofLines.mp member).1

namespace Surroundings
variable {here : Surroundings} {codes : Table Code} {body : FunctionBody} {record : Record}

/-- The path at which the source of a function lies. -/
def path? (here : Surroundings) (codes : Table Code) (body : FunctionBody) : Option String := do
  let (_, code) ← here.codeOf? codes body
  let source ← here.sourcePath? body code
  return source.path

/-- The record is on a line of the function and names the path of its source. -/
def Owns (here : Surroundings) (codes : Table Code) (body : FunctionBody) (record : Record) :
    Prop :=
  ∃ lines path file, here.lineSet? codes body = some lines ∧ record.line ∈ lines.toList ∧
    here.path? codes body = some path ∧ Path.normalise? here.cwd record.filename = some file ∧
    Path.SameSource path file

theorem origin?_claims_iff {file : String} {line : Nat} :
    (∃ o, here.origin? codes body = some o ∧ o.claims file line = true) ↔
      ∃ lines path, here.lineSet? codes body = some lines ∧ line ∈ lines.toList ∧
        here.path? codes body = some path ∧ Path.SameSource path file := by
  unfold origin? lineSet? path?
  cases here.codeOf? codes body with
  | none => simp
  | some entry =>
    obtain ⟨name, code⟩ := entry
    cases sourced : here.sourcePath? body code with
    | none => simp [sourced]
    | some source =>
      cases collected : code.table.collect.toOption with
      | none => simp [collected]
      | some lines =>
        have claims_iff : Origin.claims ⟨source, lines⟩ file line = true ↔
            line ∈ lines.toList ∧ Path.SameSource source.path file := by
          rw [Origin.claims, Bool.and_eq_true, Path.equivalent_iff_sameSource]
          exact and_congr_left' List.contains_iff_mem
        simp only [sourced, collected, Option.bind_eq_bind, Option.bind_some, Option.pure_def,
          Option.some.injEq]
        constructor
        · rintro ⟨o, made, claimed⟩
          split at made
          · cases made
          · cases made
            obtain ⟨member, same⟩ := claims_iff.mp claimed
            exact ⟨lines, source.path, rfl, member, rfl, same⟩
        · rintro ⟨_, _, rfl, member, rfl, same⟩
          exact ⟨_, if_neg (by simp [LineSet.isEmpty_eq_false member]), claims_iff.mpr ⟨member, same⟩⟩

/-- A record belongs to the functions that own it, and to no others. -/
theorem owns_iff_matches : here.Owns codes body record ↔ here.Matches codes body record := by
  constructor
  · rintro ⟨lines, path, file, spanned, member, sourced, normal, same⟩
    obtain ⟨o, found, claimed⟩ :=
      origin?_claims_iff.mpr ⟨lines, path, spanned, member, sourced, same⟩
    exact ⟨o, file, found, normal, claimed⟩
  · rintro ⟨o, file, found, normal, claimed⟩
    obtain ⟨lines, path, spanned, member, sourced, same⟩ :=
      origin?_claims_iff.mp ⟨o, found, claimed⟩
    exact ⟨lines, path, file, spanned, member, sourced, normal, same⟩

theorem Owns.origin (owns : here.Owns codes body record) :
    ∃ o, here.origin? codes body = some o := by
  obtain ⟨o, _, found, _⟩ := owns_iff_matches.mp owns
  exact ⟨o, found⟩

theorem Owns.line_pos (owns : here.Owns codes body record) : 0 < record.line := by
  obtain ⟨lines, _, _, spanned, member, _⟩ := owns
  simp only [lineSet?, Option.bind_eq_bind, Option.bind_eq_some_iff] at spanned
  obtain ⟨⟨_, code⟩, _, known⟩ := spanned
  cases collected : code.table.collect with
  | error err =>
    rw [collected] at known
    cases known
  | ok set =>
    rw [collected] at known
    cases known
    exact LineTable.pos_of_collect collected member

theorem Owns.filename_nonempty (owns : here.Owns codes body record) : record.filename ≠ "" := by
  obtain ⟨_, _, _, _, _, _, normal, _⟩ := owns
  intro empty
  rw [empty] at normal
  cases normal

end Surroundings

/-- Targets resolved together claim the records of the functions that they lead to, as far as
chains are followed. -/
theorem Resolution.claimsRecord_iff {here : Surroundings} {objects : HostObjects}
    {types : CallableTypes} {targets : List String} {r : Resolution}
    (resolved : ofTargets here objects types targets = .ok r) (record : Record) :
    r.claimsRecord here.cwd record = true ↔
      ∃ name ∈ targets, ∃ links < HostObjects.maxChain, ∃ fn, objects.Leads links name fn ∧
        here.Owns objects.codes fn.2 record := by
  simp only [Surroundings.owns_iff_matches, Surroundings.Matches]
  rw [claimsRecord]
  cases normal : Path.normalise? here.cwd record.filename with
  | none => simp
  | some file =>
    simp only [claims, ofTargets_origins resolved, List.any_eq_true, List.mem_filterMap,
      List.mem_flatMap, HostObjects.chain, HostObjects.mem_chainFrom]
    constructor
    · rintro ⟨o, ⟨fn, ⟨name, target, links, within, leads⟩, found⟩, claimed⟩
      exact ⟨name, target, links, within, fn, leads, o, file, found, rfl, claimed⟩
    · rintro ⟨name, target, links, within, fn, leads, o, other, found, again, claimed⟩
      obtain rfl := Option.some.inj again
      exact ⟨o, ⟨fn, ⟨name, target, links, within, leads⟩, found⟩, claimed⟩

end WarningCapture
