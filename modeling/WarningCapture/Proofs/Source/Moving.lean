import Mathlib.Data.List.Forall2
import WarningCapture.Proofs.Source.Rereading

/-! Sources that moved since they were compiled. Where no dictionary holds the loaded modules, the
path that a function was compiled from takes the place of the path of its live module. To functions
whose source has not moved this makes no difference, and to those whose source has it does. -/
namespace WarningCapture

/-- The same modules, held by a mapping that is no dictionary. -/
def Modules.asMapping (ms : Modules) : Modules := { ms with store := .mapping }

def Surroundings.asMapping (here : Surroundings) : Surroundings :=
  { here with modules := here.modules.asMapping }

/-- What is the same of related values is the same of lists of them, one by one. -/
theorem map_eq_of_forall₂ {α β : Type} {R : α → α → Prop} {f : α → β} {as bs : List α}
    (same : ∀ a b, R a b → f a = f b) (related : List.Forall₂ R as bs) : as.map f = bs.map f := by
  have told : List.Forall₂ (· = ·) (as.map f) (bs.map f) :=
    List.forall₂_map_left_iff.mpr (List.forall₂_map_right_iff.mpr (related.imp same))
  rwa [List.forall₂_eq_eq_eq] at told

/-- Two sources that claim the same and have nothing to complain about. -/
structure SourcePath.SameClaims (p q : SourcePath) : Prop where
  path : Path.SameSource p.path q.path
  stale : p.stale = none
  stale' : q.stale = none

namespace Origin

/-- The same lines of the same source, which has not moved. -/
structure SameClaims (o p : Origin) : Prop where
  source : o.source.SameClaims p.source
  lines : o.lines = p.lines

variable {o p : Origin} {os ps : List Origin}

theorem SameClaims.claims (sameClaims : o.SameClaims p) (file : String) (line : Nat) :
    o.claims file line = p.claims file line := by
  have same := Path.equivalent_iff_sameSource.mpr sameClaims.source.path
  have either : Path.equivalent o.source.path file = Path.equivalent p.source.path file := by
    rw [Bool.eq_iff_iff]
    exact ⟨Path.equivalent_trans (Path.equivalent_symm same), Path.equivalent_trans same⟩
  rw [Origin.claims, Origin.claims, sameClaims.lines, either]

theorem any_claims_sameClaims (sameClaims : List.Forall₂ SameClaims os ps) (file : String)
    (line : Nat) : (os.any fun o => o.claims file line) = ps.any fun o => o.claims file line := by
  induction sameClaims with
  | nil => rfl
  | cons first _ ih => rw [List.any_cons, List.any_cons, ih, first.claims]

theorem notices_of_unmoved {file : String} {line : Nat}
    (unmoved : ∀ o ∈ os, o.source.stale = none) : notices file line os = [] := by
  induction os with
  | nil => rfl
  | cons o rest ih =>
    have later := ih fun other member => unmoved other (List.mem_cons_of_mem o member)
    have silent : o.staleNotice? file line = none := by
      simp [staleNotice?, unmoved o List.mem_cons_self]
    simp [notices, silent, later]

theorem notices_sameClaims (sameClaims : List.Forall₂ SameClaims os ps) (file : String)
    (line : Nat) : notices file line os = notices file line ps := by
  have unmoved : (∀ o ∈ os, o.source.stale = none) ∧ ∀ p ∈ ps, p.source.stale = none := by
    induction sameClaims with
    | nil => simp
    | cons first _ ih => simpa [first.source.stale, first.source.stale'] using ih
  rw [notices_of_unmoved unmoved.1, notices_of_unmoved unmoved.2]

end Origin

namespace Surroundings
variable {here : Surroundings} {codes : Table Code} {body : FunctionBody} {name : String}
  {code : Code}

/-- If the module of the function tells a path, it is one of the source that the code of the
function was compiled from. -/
def Unmoved (here : Surroundings) (codes : Table Code) (body : FunctionBody) : Prop :=
  ∀ live name code, here.live? body = some live → here.codeOf? codes body = some (name, code) →
    ∃ compiled, here.compiledPath? code = some compiled ∧ Path.SameSource live compiled

theorem asMapping_livePath? (here : Surroundings) (body : FunctionBody) :
    here.asMapping.livePath? body = none := by
  rw [livePath?]
  cases body.module <;> rfl

/-- Without a dictionary the compiled path is all there is. -/
theorem asMapping_sourcePath? (here : Surroundings) (body : FunctionBody) (code : Code) :
    here.asMapping.sourcePath? body code =
      (here.compiledPath? code).map fun path => { path, source := .compiled } := by
  rw [sourcePath?, asMapping_livePath?]
  rfl

theorem asMapping_path? (found : here.codeOf? codes body = some (name, code)) :
    here.asMapping.path? codes body = here.compiledPath? code := by
  have same : here.asMapping.codeOf? codes body = some (name, code) := found
  rw [path?, same]
  simp only [Option.bind_eq_bind, Option.bind_some, asMapping_sourcePath?]
  cases here.compiledPath? code <;> rfl

theorem path?_eq (dict : here.modules.store = .dict)
    (found : here.codeOf? codes body = some (name, code)) :
    here.path? codes body = (here.live? body).or (here.compiledPath? code) := by
  simp only [path?, found, Option.bind_eq_bind, Option.bind_some, sourcePath?, livePath?_eq dict]
  cases here.live? body with
  | some live => rfl
  | none => cases here.compiledPath? code <;> rfl

theorem sourcePath?_sameClaims (dict : here.modules.store = .dict)
    (unmoved : here.Unmoved codes body) (found : here.codeOf? codes body = some (name, code)) :
    (here.sourcePath? body code = none ∧ here.asMapping.sourcePath? body code = none) ∨
      ∃ p q, here.sourcePath? body code = some p ∧
        here.asMapping.sourcePath? body code = some q ∧ p.SameClaims q := by
  rw [asMapping_sourcePath?, sourcePath?, livePath?_eq dict]
  cases told : here.live? body with
  | some live =>
    obtain ⟨compiled, known, same⟩ := unmoved live name code told found
    have settled : Path.equivalent live compiled = true :=
      Path.equivalent_iff_sameSource.mpr same
    refine .inr ⟨_, _, rfl, by rw [known]; rfl, same, ?_, rfl⟩
    simp [known, settled]
  | none =>
    cases known : here.compiledPath? code with
    | some compiled => exact .inr ⟨_, _, rfl, rfl, .inl rfl, rfl, rfl⟩
    | none => exact .inl ⟨rfl, rfl⟩

/-- The origin of a function that has not moved is found in either case, in the same way. -/
theorem originOf_sameClaims (dict : here.modules.store = .dict) (unmoved : here.Unmoved codes body)
    (cache : LineCache) :
    List.Forall₂ Origin.SameClaims (here.originOf codes body cache).1.toList
        (here.asMapping.originOf codes body cache).1.toList ∧
      (here.originOf codes body cache).2 = (here.asMapping.originOf codes body cache).2 := by
  have same : here.asMapping.codeOf? codes body = here.codeOf? codes body := rfl
  rw [originOf, originOf, same]
  cases found : here.codeOf? codes body with
  | none => exact ⟨.nil, rfl⟩
  | some entry =>
    obtain ⟨name, code⟩ := entry
    rcases sourcePath?_sameClaims dict unmoved found with
      ⟨gone, missing⟩ | ⟨p, q, told, known, sameClaims⟩
    · simp only [gone, missing]
      exact ⟨.nil, trivial⟩
    · simp only [told, known]
      generalize cache.lines name code = reading
      rcases reading with ⟨err | lines, notices, later⟩
      · exact ⟨.nil, rfl⟩
      · cases empty : lines.isEmpty with
        | true => exact ⟨by simp [empty], rfl⟩
        | false => exact ⟨by simpa [empty] using ⟨sameClaims, rfl⟩, rfl⟩

theorem originsOf_sameClaims (dict : here.modules.store = .dict)
    {chain : List (String × FunctionBody)} (unmoved : ∀ fn ∈ chain, here.Unmoved codes fn.2)
    (cache : LineCache) :
    List.Forall₂ Origin.SameClaims (here.originsOf codes chain cache).1
        (here.asMapping.originsOf codes chain cache).1 ∧
      (here.originsOf codes chain cache).2 = (here.asMapping.originsOf codes chain cache).2 := by
  induction chain generalizing cache with
  | nil => exact ⟨.nil, rfl⟩
  | cons first rest ih =>
    obtain ⟨sameClaims, read⟩ := originOf_sameClaims dict (unmoved first List.mem_cons_self) cache
    obtain ⟨others, later⟩ := ih (fun fn member => unmoved fn (List.mem_cons_of_mem first member))
      (here.originOf codes first.2 cache).2.2
    simp only [originsOf, ← read, ← later]
    exact ⟨List.rel_append sameClaims others, trivial⟩

variable {objects : HostObjects} {target : String} {targets : List String}

theorem resolveOne_sameClaims (dict : here.modules.store = .dict)
    (unmoved : ∀ fn ∈ objects.chain target, here.Unmoved objects.codes fn.2) (cache : LineCache) :
    List.Forall₂ Origin.SameClaims (here.resolveOne objects target cache).1
        (here.asMapping.resolveOne objects target cache).1 ∧
      (here.resolveOne objects target cache).2 =
        (here.asMapping.resolveOne objects target cache).2 := by
  obtain ⟨sameClaims, read⟩ := originsOf_sameClaims dict unmoved cache
  have orphaned : (here.originsOf objects.codes (objects.chain target) cache).1.isEmpty =
      (here.asMapping.originsOf objects.codes (objects.chain target) cache).1.isEmpty := by
    rw [Bool.eq_iff_iff, List.isEmpty_iff_length_eq_zero, List.isEmpty_iff_length_eq_zero,
      sameClaims.length_eq]
  simp only [resolveOne, ← read, ← orphaned]
  exact ⟨sameClaims, trivial⟩

theorem resolveAll_sameClaims (dict : here.modules.store = .dict)
    (unmoved : ∀ fn ∈ targets.flatMap objects.chain, here.Unmoved objects.codes fn.2)
    (cache : LineCache) :
    List.Forall₂ (List.Forall₂ Origin.SameClaims) (here.resolveAll objects targets cache).1
        (here.asMapping.resolveAll objects targets cache).1 ∧
      (here.resolveAll objects targets cache).2 =
        (here.asMapping.resolveAll objects targets cache).2 := by
  induction targets generalizing cache with
  | nil => exact ⟨.nil, rfl⟩
  | cons target rest ih =>
    simp only [List.flatMap_cons, List.mem_append] at unmoved
    obtain ⟨sameClaims, read⟩ :=
      resolveOne_sameClaims dict (fun fn member => unmoved fn (.inl member)) cache
    obtain ⟨others, later⟩ := ih (fun fn member => unmoved fn (.inr member))
      (here.resolveOne objects target cache).2.2
    simp only [resolveAll, ← read, ← later]
    exact ⟨.cons sameClaims others, trivial⟩

theorem owns_iff_names {lines : LineSet} {path : String} {record : Record}
    (spanned : here.lineSet? codes body = some lines) (known : here.path? codes body = some path) :
    here.Owns codes body record ↔
      record.line ∈ lines.toList ∧ record.Names here.cwd path := by
  simp only [Owns, spanned, known, Record.Names, Path.equivalent_iff_sameSource,
    Option.some.injEq, exists_and_left, exists_eq_left']

/-- A function that spans a line owns the same records in either case just if it has not moved. -/
theorem owns_asMapping_iff (dict : here.modules.store = .dict) {lines : LineSet} {line : Nat}
    (spanned : here.lineSet? codes body = some lines) (member : line ∈ lines.toList) :
    (∀ record, here.asMapping.Owns codes body record ↔ here.Owns codes body record) ↔
      here.Unmoved codes body := by
  have spannedThere : here.asMapping.lineSet? codes body = some lines := spanned
  constructor
  · intro same live name code told found
    obtain ⟨location, normal⟩ : ∃ location, Path.normalise? here.cwd location = some live := by
      simp only [live?, Option.bind_eq_bind, Option.bind_eq_some_iff] at told
      obtain ⟨_, _, _, _, location, _, normal⟩ := told
      exact ⟨location, normal⟩
    have paths : here.path? codes body = some live := by rw [path?_eq dict found, told]; rfl
    -- A warning at the place that the module tells belongs to the function.
    have owned : here.Owns codes body ⟨"", .warning, location, line⟩ :=
      ⟨lines, live, live, spanned, member, paths, normal, .inl rfl⟩
    obtain ⟨_, compiled, _, _, _, known, _⟩ := (same _).mpr owned
    obtain ⟨_, named⟩ := (owns_iff_names spannedThere known).mp ((same _).mpr owned)
    have there : Record.Names here.cwd ⟨"", .warning, location, line⟩ live :=
      ⟨live, normal, Path.equivalent_iff.mpr rfl⟩
    exact ⟨compiled, (asMapping_path? found).symm.trans known,
      Path.equivalent_iff_sameSource.mp (there.same named)⟩
  · intro unmoved record
    obtain ⟨⟨name, code⟩, found, _⟩ := Option.bind_eq_some_iff.mp spanned
    cases told : here.live? body with
    | none =>
      have same : here.asMapping.path? codes body = here.path? codes body := by
        rw [asMapping_path? found, path?_eq dict found, told, Option.none_or]
      rw [Owns, Owns, spannedThere, spanned, same]
      rfl
    | some live =>
      obtain ⟨compiled, known, same⟩ := unmoved live name code told found
      have paths : here.path? codes body = some live := by rw [path?_eq dict found, told]; rfl
      have settled := Path.equivalent_iff_sameSource.mpr same
      rw [owns_iff_names spanned paths,
        owns_iff_names spannedThere ((asMapping_path? found).trans known)]
      refine and_congr_right fun _ => exists_congr fun file => and_congr_right fun _ => ?_
      exact ⟨Path.equivalent_trans settled,
        Path.equivalent_trans (Path.equivalent_symm settled)⟩

end Surroundings

/-- The directories that a session is in, and the targets that it names. -/
structure Scope where
  directories : String → Prop
  targets : String → Prop

/-- The code is that of a function which names the module and to which a target leads. -/
def HostObjects.Defines (objects : HostObjects) (scope : Scope) (module : String) (code : Code) :
    Prop :=
  ∃ target fn name, scope.targets target ∧ fn ∈ objects.chain target ∧ fn.2.module = some module ∧
    fn.2.code = some name ∧ Table.get? name objects.codes = some code

namespace Module

/-- In every directory, if the module tells a path under this name, it is one of the source that the
code of its functions was compiled from. -/
def InPlace (objects : HostObjects) (scope : Scope) (name : String) (m : Module) : Prop :=
  ∀ cwd live code, scope.directories cwd → m.sourcePath? cwd = some live →
    objects.Defines scope name code → ∃ file compiled, code.filename? = some file ∧
      Path.normalise? cwd file = some compiled ∧ Path.SameSource live compiled

/-- The module is in place, and so are all that come with it. -/
inductive Stays (objects : HostObjects) (scope : Scope) : String → Module → Prop where
  | intro : m.InPlace objects scope name →
      (∀ entry ∈ m.spawn, ∀ inner, entry.2 = some inner → Stays objects scope entry.1 inner) →
      Stays objects scope name m

/-- All modules of the table stay in place. -/
def AllStay (objects : HostObjects) (scope : Scope) (entries : Table (Option Module)) :
    Prop :=
  ∀ entry ∈ entries, ∀ m, entry.2 = some m → m.Stays objects scope entry.1

variable {objects : HostObjects} {scope : Scope} {name : String} {m : Module}
  {entries more : Table (Option Module)}

theorem Stays.inPlace (stays : m.Stays objects scope name) : m.InPlace objects scope name := by
  cases stays
  assumption

theorem Stays.spawned (stays : m.Stays objects scope name) : AllStay objects scope m.spawn := by
  cases stays
  assumption

theorem Stays.withCache (stays : m.Stays objects scope name) (cache : ShownCache) :
    (m.withCache cache).Stays objects scope name := by
  cases m
  exact .intro stays.inPlace stays.spawned

namespace AllStay

theorem put {m? : Option Module} (stay : AllStay objects scope entries)
    (stays : ∀ m, m? = some m → m.Stays objects scope name) :
    AllStay objects scope (Table.put name m? entries) := by
  intro entry member
  rcases Table.mem_put member with rfl | before
  · exact stays
  · exact stay entry before

theorem erase (stay : AllStay objects scope entries) :
    AllStay objects scope (Table.erase name entries) :=
  fun entry member => stay entry (List.mem_of_mem_filter member)

theorem putAll (stay : AllStay objects scope entries) (others : AllStay objects scope more) :
    AllStay objects scope (Table.putAll more entries) := by
  unfold Table.putAll
  induction more generalizing entries with
  | nil => exact stay
  | cons entry rest ih =>
    exact ih (stay.put (others entry List.mem_cons_self))
      fun other member => others other (List.mem_cons_of_mem entry member)

theorem get? (stay : AllStay objects scope entries)
    (found : Table.get? name entries = some (some m)) : m.Stays objects scope name :=
  stay (name, some m) (Table.mem_of_get? found) m rfl

end AllStay
end Module

/-- Functions whose modules stay in place have not moved. -/
theorem Surroundings.unmoved_of_stay {here : Surroundings} {objects : HostObjects} {scope : Scope}
    {target : String} {fn : String × FunctionBody}
    (stay : Module.AllStay objects scope here.modules.entries)
    (inside : scope.directories here.cwd) (named : scope.targets target)
    (linked : fn ∈ objects.chain target) : here.Unmoved objects.codes fn.2 := by
  intro live name code told found
  simp only [live?, Option.bind_eq_bind, Option.bind_eq_some_iff, Option.join_eq_some_iff] at told
  obtain ⟨module, owned, m, loaded, location, said, normal⟩ := told
  simp only [codeOf?, Option.bind_eq_some_iff, Option.map_eq_some_iff, Prod.mk.injEq] at found
  obtain ⟨name, coded, first, known, rfl, rfl⟩ := found
  have sourced : m.sourcePath? here.cwd = some live := by
    rw [Module.sourcePath?_eq, said]
    exact normal
  obtain ⟨file, compiled, told, resolved, same⟩ := (stay.get? loaded).inPlace here.cwd live first
    inside sourced ⟨target, fn, name, named, linked, owned, coded, known⟩
  refine ⟨compiled, ?_, same⟩
  have filename :
      (if here.read.contains name then first.spent else first).filename? = some file := by
    split
    · exact first.spent_filename?.trans told
    · exact told
  rw [compiledPath?, filename]
  exact resolved

namespace Resolution
variable {here : Surroundings} {objects : HostObjects} {types : CallableTypes}
  {targets : List String} {r q : Resolution}

/-- The same is remarked and remembered, and the targets claim the same. -/
structure SameClaims (r q : Resolution) : Prop where
  targets : List.Forall₂ (List.Forall₂ Origin.SameClaims) r.targets q.targets
  notices : r.notices = q.notices
  cache : r.cache = q.cache

theorem SameClaims.origins (sameClaims : r.SameClaims q) :
    List.Forall₂ Origin.SameClaims r.origins q.origins := by
  rw [Resolution.origins, Resolution.origins]
  have targets := sameClaims.targets
  generalize r.targets = os, q.targets = ps at targets
  induction targets with
  | nil => exact .nil
  | cons first _ ih => exact List.rel_append first ih

theorem SameClaims.claimsRecord (sameClaims : r.SameClaims q) (cwd : String) (record : Record) :
    r.claimsRecord cwd record = q.claimsRecord cwd record := by
  unfold Resolution.claimsRecord Resolution.claims
  split
  · rfl
  · exact Origin.any_claims_sameClaims sameClaims.origins _ _

theorem SameClaims.recordNotices (sameClaims : r.SameClaims q) (cwd : String) (record : Record) :
    r.recordNotices cwd record = q.recordNotices cwd record := by
  unfold Resolution.recordNotices
  split
  · rfl
  · exact Origin.notices_sameClaims sameClaims.origins _ _

theorem SameClaims.lines (sameClaims : r.SameClaims q) : r.lines = q.lines := by
  have same := map_eq_of_forall₂ (f := fun o => o.lines.toList)
    (fun o p sameClaims => congrArg LineSet.toList sameClaims.lines) sameClaims.origins
  rw [Resolution.lines, Resolution.lines, List.flatMap_def, List.flatMap_def, same]

theorem SameClaims.targetClaims (sameClaims : r.SameClaims q) (file : String) (line : Nat) :
    (r.targets.map fun os => os.any (·.claims file line)) =
      q.targets.map fun os => os.any (·.claims file line) :=
  map_eq_of_forall₂ (fun _ _ sameClaims => Origin.any_claims_sameClaims sameClaims file line)
    sameClaims.targets

theorem SameClaims.targetNotices (sameClaims : r.SameClaims q) (file : String) (line : Nat) :
    r.targets.flatMap (Origin.notices file line) =
      q.targets.flatMap (Origin.notices file line) := by
  have same := map_eq_of_forall₂ (f := Origin.notices file line)
    (fun _ _ sameClaims => Origin.notices_sameClaims sameClaims file line) sameClaims.targets
  rw [List.flatMap_def, List.flatMap_def, same]

theorem SameClaims.read (sameClaims : r.SameClaims q) : r.read = q.read :=
  congrArg Table.names sameClaims.cache

/-- Targets whose functions have not moved are resolved in either case, or refused in either. -/
theorem ofTargets_sameClaims (dict : here.modules.store = .dict)
    (unmoved : ∀ fn ∈ targets.flatMap objects.chain, here.Unmoved objects.codes fn.2) :
    (∃ err, ofTargets here objects types targets = .error err ∧
        ofTargets here.asMapping objects types targets = .error err) ∨
      ∃ r q, ofTargets here objects types targets = .ok r ∧
        ofTargets here.asMapping objects types targets = .ok q ∧ r.SameClaims q := by
  unfold ofTargets
  cases objects.validate types targets with
  | error err => exact .inl ⟨err, rfl, rfl⟩
  | ok =>
    obtain ⟨sameClaims, same⟩ := Surroundings.resolveAll_sameClaims dict unmoved []
    exact .inr ⟨_, _, rfl, rfl, sameClaims, congrArg Prod.fst same, congrArg Prod.snd same⟩

end Resolution
end WarningCapture
