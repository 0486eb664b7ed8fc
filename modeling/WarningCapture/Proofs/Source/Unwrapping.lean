import WarningCapture.Proofs.Source.Origins

/-! Targets taken apart. The plain functions met on the way from a target are an unbounded sequence,
which may run in circles; the chain of the target is the beginning of it, as far as chains are
followed, and every function on the chain adds the origin that it has alone. -/
namespace WarningCapture

namespace HostObjects

/-- The plain function that an object stands for: itself, or the one right under a bound method. -/
inductive StandsFor (objects : HostObjects) : String → String × FunctionBody → Prop where
  | itself : objects.shape name = .function body → StandsFor objects name (name, body)
  | under : objects.shape name = .method (some held) → objects.shape held = .function body →
      StandsFor objects name (held, body)

/-- The sequence of functions met on unwrapping a target, whatever its length: first the one that
the target stands for, and after each the one that the object stands for which it wraps. -/
inductive Unwraps (objects : HostObjects) (target : String) : Nat → String × FunctionBody → Prop where
  | first : objects.StandsFor target fn → Unwraps objects target 0 fn
  | next : Unwraps objects target k fn → fn.2.wrapped = some name →
      objects.StandsFor name further → Unwraps objects target (k + 1) further

variable {objects : HostObjects} {target name : String} {fn further : String × FunctionBody}
  {room k : Nat}

theorem function?_eq_some {body : FunctionBody} {inner : String} :
    objects.function? name = some (inner, body) ↔
      inner = name ∧ objects.shape name = .function body := by
  unfold function?
  split
  · rename_i known shape
    rw [shape, Option.some.injEq, Prod.mk.injEq, Shape.function.injEq, eq_comm (a := name)]
  · rename_i other
    simpa using fun _ => other body

theorem plainFunction?_eq_some : objects.plainFunction? name = some fn ↔ objects.StandsFor name fn := by
  obtain ⟨inner, body⟩ := fn
  constructor
  · unfold plainFunction?
    split
    · rename_i under shape
      intro found
      obtain ⟨rfl, plain⟩ := function?_eq_some.mp found
      exact .under shape plain
    · intro found
      obtain ⟨rfl, plain⟩ := function?_eq_some.mp found
      exact .itself plain
  · intro stands
    cases stands with
    | itself plain => simp [plainFunction?, plain, function?]
    | under shape plain => simp [plainFunction?, shape, function?, plain]

theorem StandsFor.isTarget (stands : objects.StandsFor name fn) : objects.isTarget name = true := by
  cases stands with
  | itself plain => simp [HostObjects.isTarget, plain]
  | under shape _ => simp [HostObjects.isTarget, shape]

theorem StandsFor.plain (stands : objects.StandsFor name fn) :
    objects.shape fn.1 = .function fn.2 := by
  cases stands with
  | itself plain => exact plain
  | under _ plain => exact plain

theorem Unwraps.plain (unwraps : objects.Unwraps target k fn) :
    objects.shape fn.1 = .function fn.2 := by
  cases unwraps with
  | first stands => exact stands.plain
  | next _ _ stands => exact stands.plain

/-- The function that a function leads on to, if it leads to one. -/
def hop? (objects : HostObjects) (fn : String × FunctionBody) : Option (String × FunctionBody) :=
  (objects.next? fn.2).bind objects.plainFunction?

/-- The test for targets turns nothing away that stands for a function. -/
theorem hop?_eq_some :
    objects.hop? fn = some further ↔
      ∃ name, fn.2.wrapped = some name ∧ objects.StandsFor name further := by
  simp only [hop?, next?, Option.bind_eq_some_iff, Option.filter_eq_some_iff,
    plainFunction?_eq_some]
  constructor
  · rintro ⟨name, ⟨wrapped, -⟩, stands⟩
    exact ⟨name, wrapped, stands⟩
  · rintro ⟨name, wrapped, stands⟩
    exact ⟨name, ⟨wrapped, stands.isTarget⟩, stands⟩

theorem chainFrom_first : (objects.chainFrom (room + 1) name)[0]? = objects.plainFunction? name := by
  rw [chainFrom]
  cases objects.plainFunction? name <;> rfl

theorem chainFrom_further : (objects.chainFrom (room + 1) name)[k + 1]? =
    (objects.plainFunction? name).bind fun fn =>
      (objects.next? fn.2).bind fun next => (objects.chainFrom room next)[k]? := by
  rw [chainFrom]
  rcases objects.plainFunction? name with _ | ⟨inner, body⟩
  · rfl
  · simp only [List.getElem?_cons_succ, Option.bind_some]
    cases objects.next? body <;> rfl

/-- Where chains are followed further, a function is followed by the one that it leads on to. -/
theorem chainFrom_succ (within : k + 1 < room) :
    (objects.chainFrom room name)[k + 1]? =
      (objects.chainFrom room name)[k]?.bind objects.hop? := by
  induction k generalizing room name with
  | zero =>
    obtain ⟨left, rfl⟩ : ∃ left, room = left + 2 := ⟨room - 2, by omega⟩
    rw [chainFrom_further, chainFrom_first]
    simp only [chainFrom_first]
    rfl
  | succ k ih =>
    obtain ⟨left, rfl⟩ : ∃ left, room = left + 1 := ⟨room - 1, by omega⟩
    have later (next : String) : (objects.chainFrom left next)[k + 1]? =
        (objects.chainFrom left next)[k]?.bind objects.hop? := ih (Nat.lt_of_succ_lt_succ within)
    simp only [chainFrom_further, later, Option.bind_assoc]

theorem chainFrom_length_le : (objects.chainFrom room name).length ≤ room := by
  induction room generalizing name with
  | zero => exact Nat.le_refl 0
  | succ room ih =>
    rw [chainFrom]
    split
    · exact Nat.zero_le _
    · split
      · exact Nat.succ_le_succ (Nat.zero_le room)
      · exact Nat.succ_le_succ ih

/-- A chain is the beginning of the sequence of functions, as long as there is room for it. -/
theorem chainFrom_getElem?_eq_some :
    (objects.chainFrom room target)[k]? = some fn ↔ k < room ∧ objects.Unwraps target k fn := by
  constructor
  · intro found
    have within : k < room :=
      Nat.lt_of_lt_of_le (List.getElem?_eq_some_iff.mp found).1 chainFrom_length_le
    refine ⟨within, ?_⟩
    induction k generalizing fn with
    | zero =>
      obtain ⟨left, rfl⟩ : ∃ left, room = left + 1 := ⟨room - 1, by omega⟩
      rw [chainFrom_first, plainFunction?_eq_some] at found
      exact .first found
    | succ k ih =>
      rw [chainFrom_succ within, Option.bind_eq_some_iff] at found
      obtain ⟨before, known, hop⟩ := found
      obtain ⟨next, wrapped, stands⟩ := hop?_eq_some.mp hop
      exact .next (ih known (Nat.lt_of_succ_lt within)) wrapped stands
  · rintro ⟨within, unwraps⟩
    induction unwraps with
    | first stands =>
      obtain ⟨left, rfl⟩ : ∃ left, room = left + 1 := ⟨room - 1, by omega⟩
      rw [chainFrom_first, plainFunction?_eq_some]
      exact stands
    | next _ wrapped stands ih =>
      rw [chainFrom_succ within, ih (Nat.lt_of_succ_lt within), Option.bind_some]
      exact hop?_eq_some.mpr ⟨_, wrapped, stands⟩

end HostObjects

namespace HostObjects
variable {objects : HostObjects} {types : CallableTypes}

theorem isTarget_iff {name : String} :
    objects.isTarget name = true ↔ objects.shape name ≠ .other := by
  rw [isTarget]
  cases objects.shape name <;> simp

theorem validateFrom_ok {names : List String} (valid : ∀ name ∈ names, objects.shape name ≠ .other)
    (index : Nat) : objects.validateFrom index names = .ok () := by
  induction names generalizing index with
  | nil => rfl
  | cons name rest ih =>
    have first := isTarget_iff.mpr (valid name List.mem_cons_self)
    rw [validateFrom, if_pos first]
    exact ih (fun other member => valid other (List.mem_cons_of_mem name member)) _

/-- The first entry that is no target is the one that is refused. -/
theorem validateFrom_refused {before after : List String} {name : String}
    (valid : ∀ other ∈ before, objects.shape other ≠ .other) (bad : objects.shape name = .other)
    (index : Nat) : objects.validateFrom index (before ++ name :: after) =
      .error (notATarget (index + before.length) (objects.describe name)) := by
  induction before generalizing index with
  | nil =>
    have refused : ¬ objects.isTarget name = true := by simp [isTarget_iff, bad]
    rw [List.nil_append, validateFrom, if_neg refused]
    rfl
  | cons other rest ih =>
    have accepted := isTarget_iff.mpr (valid other List.mem_cons_self)
    have further := ih (fun o member => valid o (List.mem_cons_of_mem other member)) (index + 1)
    rw [List.cons_append, validateFrom, if_pos accepted, further, List.length_cons,
      Nat.add_assoc, Nat.add_comm 1]

/-- A list has a first entry that is no target, if it has any. -/
theorem exists_first_bad {names : List String}
    (bad : ∃ name ∈ names, objects.shape name = .other) :
    ∃ before name after, names = before ++ name :: after ∧
      (∀ other ∈ before, objects.shape other ≠ .other) ∧ objects.shape name = .other := by
  induction names with
  | nil => simp at bad
  | cons first rest ih =>
    by_cases here : objects.shape first = .other
    · exact ⟨[], first, rest, rfl, by simp, here⟩
    · have later : ∃ name ∈ rest, objects.shape name = .other := by simpa [here] using bad
      obtain ⟨before, name, after, rfl, valid, other⟩ := ih later
      refine ⟨first :: before, name, after, rfl, ?_, other⟩
      intro o member
      rcases List.mem_cons.mp member with rfl | further
      · exact here
      · exact valid o further

theorem validate_eq (intact : types.fault? = none) (names : List String) :
    objects.validate types names = objects.validateFrom 0 names := by
  rw [validate, intact]

end HostObjects

variable {here : Surroundings} {objects : HostObjects} {types : CallableTypes}

/-- Acceptable targets are resolved, whatever becomes of their code, modules, lines and paths. -/
theorem Resolution.ofTargets_ok (here : Surroundings) {targets : List String}
    (intact : types.fault? = none) (valid : ∀ name ∈ targets, objects.shape name ≠ .other) :
    ∃ r, ofTargets here objects types targets = .ok r := by
  have accepted :=
    (HostObjects.validate_eq intact targets).trans (HostObjects.validateFrom_ok valid 0)
  rw [ofTargets, accepted]
  exact ⟨_, rfl⟩

/-- The origins of a target are those that the functions on its chain have each alone. -/
theorem Resolution.ofTargets_targets {targets : List String} {r : Resolution}
    (resolved : ofTargets here objects types targets = .ok r) :
    r.targets = targets.map fun target => (objects.chain target).filterMap fun fn =>
      (here.originOf objects.codes fn.2 []).1 := by
  unfold ofTargets at resolved
  split at resolved
  · cases resolved
  · cases resolved
    rw [Surroundings.resolveAll_eq LineCache.faithful_empty]
    simp only [Surroundings.originOf_eq LineCache.faithful_empty]

/-- The chain of a target is the beginning of the sequence of functions met on unwrapping it, of
which it holds 32, or all if they are fewer, also where the sequence has no end. All of them are
plain functions, and each adds the origin that it has when it is resolved alone. -/
theorem chain_is_beginning_of_sequence (objects : HostObjects) :
    (∀ target k fn, (objects.chain target)[k]? = some fn ↔
      k < 32 ∧ objects.Unwraps target k fn) ∧
    (∀ target, ∀ fn ∈ objects.chain target, objects.shape fn.1 = .function fn.2) ∧
    ∀ (here : Surroundings) (types : CallableTypes) (targets : List String),
      types.fault? = none → (∀ name ∈ targets, objects.shape name ≠ .other) →
      ∃ r, Resolution.ofTargets here objects types targets = .ok r ∧
        r.targets = targets.map fun target => (objects.chain target).filterMap fun fn =>
          (here.originOf objects.codes fn.2 []).1 := by
  have begins (target : String) (k : Nat) (fn : String × FunctionBody) :
      (objects.chain target)[k]? = some fn ↔ k < 32 ∧ objects.Unwraps target k fn :=
    HostObjects.chainFrom_getElem?_eq_some
  refine ⟨begins, ?_, ?_⟩
  · intro target fn member
    obtain ⟨k, place⟩ := List.mem_iff_getElem?.mp member
    exact ((begins target k fn).mp place).2.plain
  · intro here types targets intact valid
    obtain ⟨r, resolved⟩ := Resolution.ofTargets_ok here intact valid
    exact ⟨r, resolved, Resolution.ofTargets_targets resolved⟩

/-- Two functions that wrap each other in turn, one through a bound method, and a target that wraps
something that cannot be called through. -/
def carousel : HostObjects where
  entries :=
    [("outer", ⟨.function { code := some "code", wrapped := some "bound" }, .plainFunction⟩),
      ("bound", ⟨.method (some "inner"), .boundMethod⟩),
      ("inner", ⟨.function { wrapped := some "outer" }, .plainFunction⟩),
      ("last", ⟨.function { code := some "code", wrapped := some "deep" }, .plainFunction⟩),
      ("deep", ⟨.method (some "bound"), .boundMethod⟩)]
  codes := [("code", .compiled (.mk "/a.py" [some 3] []))]

/-- A sequence that runs in circles is cut off, and one ends at a method of a method. -/
theorem circle_is_cut_off :
    ({} : CallableTypes).fault? = none ∧
    (∀ name ∈ ["bound", "last"], carousel.shape name ≠ .other) ∧
    (∃ body, carousel.Unwraps "bound" 31 ("outer", body)) ∧
    (∀ fn, ¬ carousel.Unwraps "last" 1 fn) ∧
    ∃ r, Resolution.ofTargets { modules := {}, cwd := "/" } carousel {} ["bound", "last"] = .ok r ∧
      r.targets.map List.length = [16, 1] := by
  obtain ⟨begins, _, resolves⟩ := chain_is_beginning_of_sequence carousel
  have intact : ({} : CallableTypes).fault? = none := rfl
  have valid : ∀ name ∈ ["bound", "last"], carousel.shape name ≠ .other := by
    simp [carousel, HostObjects.shape, Table.get?]
  obtain ⟨r, resolved, origins⟩ :=
    resolves { modules := {}, cwd := "/" } {} ["bound", "last"] intact valid
  refine ⟨intact, valid, ⟨_, ((begins "bound" 31 _).mp rfl).2⟩, ?_, r, resolved, ?_⟩
  · intro fn unwraps
    have found := (begins "last" 1 fn).mpr ⟨by decide, unwraps⟩
    have ended : (carousel.chain "last")[1]? = none := by decide +kernel
    rw [ended] at found
    cases found
  · rw [origins]
    decide +kernel

end WarningCapture
