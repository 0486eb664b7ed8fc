import WarningCapture.Proofs.Source.Normalising

/-! Tidy paths. A path describes a route: its segments from left to right, but for those that lead
nowhere. The posix form describes the same route from the same place, and is the only tidy path that
does, so that tidy paths are left alone. It does not turn back: two dots are a segment like others,
and where an absolute path has none of them its posix form is its normal form. -/
namespace WarningCapture.Path

/-- A segment that leads nowhere. -/
def Idle (segment : List Char) : Prop := segment = [] ∨ segment = ['.']

instance : DecidablePred Idle := fun segment =>
  inferInstanceAs (Decidable (segment = [] ∨ segment = ['.']))

/-- The segments of a text from left to right, without the idle ones. -/
def route (text : List Char) : List (List Char) :=
  (text.splitOn '/').filter fun segment => ¬ Idle segment

/-- What stands behind the slash of the root, if there is one. -/
def unrooted (text : List Char) : List Char := if text.head? = some '/' then text.tail else text

/-- A path without segments of a single dot, doubled slashes and slashes at its end. The root is one
as well, although nothing stands behind its slash. -/
def Tidy (path : String) : Prop :=
  path = "/" ∨ ∀ segment ∈ (unrooted path.toList).splitOn '/', ¬ Idle segment

/-- A tidy path that describes the route of another one, from the root if that does. -/
structure Renders (path form : String) : Prop where
  rooted : form.toList.head? = some '/' ↔ path.toList.head? = some '/'
  route : route form.toList = route path.toList
  tidy : Tidy form

/-- The text of a route without anything idle in it. -/
def written (rooted : Bool) (parts : List (List Char)) : List Char :=
  if rooted then '/' :: join parts else join parts

variable {path form cwd : String} {segment text : List Char} {parts : List (List Char)}
  {rooted : Bool}

theorem segments_eq_route (text : List Char) : segments text = route text := by
  rw [segments_eq, route]
  refine List.filter_congr fun segment _ => Bool.eq_iff_iff.mpr ?_
  simp [Idle]

theorem not_idle_of_mem_route (text : List Char) :
    ∀ segment ∈ route text, ¬ Idle segment ∧ '/' ∉ segment := by
  intro segment member
  obtain ⟨piece, busy⟩ := List.mem_filter.mp member
  exact ⟨of_decide_eq_true busy, Text.not_mem_of_mem_splitOn segment piece⟩

theorem route_eq_splitOn (busy : ∀ segment ∈ text.splitOn '/', ¬ Idle segment) :
    route text = text.splitOn '/' :=
  List.filter_eq_self.mpr fun segment member => decide_eq_true (busy segment member)

@[simp] theorem route_cons_slash (text : List Char) : route ('/' :: text) = route text := by
  have idle : Idle [] := .inl rfl
  rw [route, Text.splitOn_cons, if_pos rfl, List.filter_cons_of_neg (by simpa using idle), route]

/-! A list of segments that are not idle and have no slash in them. -/
section
variable (busy : ∀ segment ∈ parts, ¬ Idle segment ∧ '/' ∉ segment)
include busy

theorem splitOn_join (leads : parts ≠ []) : (join parts).splitOn '/' = parts :=
  List.splitOn_intercalate '/' (fun segment member => (busy segment member).2) leads

theorem route_join : route (join parts) = parts := by
  by_cases empty : parts = []
  · rw [empty]
    rfl
  · have pieces := splitOn_join busy empty
    rw [route_eq_splitOn, pieces]
    rw [pieces]
    exact fun segment member => (busy segment member).1

theorem head?_join : (join parts).head? ≠ some '/' := by
  intro slash
  obtain ⟨rest, shape⟩ := List.head?_eq_some_iff.mp slash
  by_cases empty : parts = []
  · rw [empty] at slash
    cases slash
  · -- A slash in front would leave an empty segment before it.
    have pieces := splitOn_join busy empty
    rw [shape, Text.splitOn_cons, if_pos rfl] at pieces
    have first : [] ∈ parts := by
      rw [← pieces]
      exact List.mem_cons_self
    exact (busy [] first).1 (.inl rfl)

theorem route_written : route (written rooted parts) = parts := by
  cases rooted with
  | true => exact (route_cons_slash (join parts)).trans (route_join busy)
  | false => exact route_join busy

theorem isAbsolute_written : isAbsolute (written rooted parts) = rooted := by
  cases rooted with
  | true => rfl
  | false => exact beq_eq_false_iff_ne.mpr (head?_join busy)

/-- All routes from the root can be written down, and all others of one segment or more. -/
theorem tidy_written (leads : rooted = true ∨ parts ≠ []) :
    Tidy (String.ofList (written rooted parts)) := by
  by_cases empty : parts = []
  · obtain rfl := leads.resolve_right (· empty)
    rw [empty]
    exact .inl rfl
  · refine .inr ?_
    have behind : unrooted (written rooted parts) = join parts := by
      cases rooted with
      | true => rfl
      | false => exact if_neg (head?_join busy)
    rw [String.toList_ofList, behind, splitOn_join busy empty]
    exact fun segment member => (busy segment member).1

end

/-- A tidy path is what is written for its own route. -/
theorem Tidy.toList_eq (tidy : Tidy path) :
    path.toList = written (isAbsolute path.toList) (Path.route path.toList) := by
  rcases tidy with rfl | busy
  · rfl
  · by_cases slash : path.toList.head? = some '/'
    · obtain ⟨rest, shape⟩ := List.head?_eq_some_iff.mp slash
      rw [shape] at busy ⊢
      change ∀ segment ∈ rest.splitOn '/', ¬ Idle segment at busy
      rw [route_cons_slash, route_eq_splitOn busy]
      exact congrArg ('/' :: ·) (List.intercalate_splitOn '/').symm
    · rw [unrooted, if_neg slash] at busy
      rw [isAbsolute, beq_eq_false_iff_ne.mpr slash, route_eq_splitOn busy]
      exact (List.intercalate_splitOn '/').symm

theorem isAbsolute_eq_iff {text other : List Char} : isAbsolute text = isAbsolute other ↔
    (text.head? = some '/' ↔ other.head? = some '/') := by
  rw [isAbsolute, isAbsolute, Bool.eq_iff_iff, beq_iff_eq, beq_iff_eq]

theorem not_tidy_empty : ¬ Tidy "" := by
  rintro (root | busy)
  · exact absurd root (by decide)
  · exact busy [] List.mem_cons_self (.inl rfl)

theorem posix?_eq (path : String) : posix? path =
    if isAbsolute path.toList = false ∧ route path.toList = [] then none
    else some (String.ofList (written (isAbsolute path.toList) (route path.toList))) := by
  rw [posix?, segments_eq_route]
  cases isAbsolute path.toList with
  | true => rfl
  | false => cases route path.toList <;> rfl

theorem posix?_eq_some_iff : posix? path = some form ↔ Renders path form := by
  have busy := not_idle_of_mem_route path.toList
  rw [posix?_eq]
  constructor
  · intro made
    split at made
    · cases made
    · rename_i leads
      cases made
      rw [Decidable.not_and_iff_or_not, Bool.not_eq_false] at leads
      refine ⟨isAbsolute_eq_iff.mp ?_, ?_, tidy_written busy leads⟩
      · rw [String.toList_ofList, isAbsolute_written busy]
      · rw [String.toList_ofList, route_written busy]
  · rintro ⟨rooted, same, tidy⟩
    have shape := tidy.toList_eq
    rw [isAbsolute_eq_iff.mpr rooted, same] at shape
    rw [if_neg, ← shape, String.ofList_toList]
    -- For no route and no root nothing is written, and the empty path is not tidy.
    rintro ⟨relative, empty⟩
    rw [relative, empty] at shape
    exact not_tidy_empty (String.toList_eq_nil_iff.mp shape ▸ tidy)

theorem posix?_eq_none_iff : posix? path = none ↔
    path.toList.head? ≠ some '/' ∧ ∀ segment ∈ path.toList.splitOn '/', Idle segment := by
  rw [posix?_eq]
  simp [isAbsolute, route, List.filter_eq_nil_iff]

/-- Tidy paths are left alone. -/
theorem Tidy.posix? (tidy : Tidy path) : Path.posix? path = some path :=
  posix?_eq_some_iff.mpr ⟨.rfl, rfl, tidy⟩

theorem posix?_idempotent (path : String) : (posix? path).bind posix? = posix? path := by
  cases made : posix? path with
  | none => rfl
  | some form => exact (posix?_eq_some_iff.mp made).tidy.posix?

theorem push_of_idle (idle : Idle segment) (kept : List (List Char)) : push kept segment = kept :=
  if_pos idle

theorem Solid.not_idle (solid : Solid segment) : ¬ Idle segment :=
  not_or.mpr ⟨solid.nonempty, solid.notHere⟩

/-- Reading onto the stack passes over idle segments. -/
theorem stack_eq_foldl_route (text : List Char) : stack text = (route text).foldl push [] := by
  rw [route, List.foldl_filter, stack]
  congr 1
  funext kept segment
  by_cases idle : Idle segment
  · rw [push_of_idle idle, if_neg (by simpa using idle)]
  · rw [if_pos (by simpa using idle)]

/-- Nothing is taken off the stack exactly if there are no two dots. -/
theorem stack_eq_route_iff (text : List Char) :
    stack text = route text ↔ ['.', '.'] ∉ text.splitOn '/' := by
  constructor
  · intro same up
    have member : ['.', '.'] ∈ stack text := by
      rw [same]
      exact List.mem_filter.mpr ⟨up, by decide⟩
    exact (solid_of_mem_stack text _ member).1.notUp rfl
  · intro level
    have solid : ∀ segment ∈ route text, Solid segment := by
      intro segment member
      obtain ⟨nonempty, notHere⟩ := not_or.mp (not_idle_of_mem_route text segment member).1
      refine ⟨nonempty, notHere, ?_⟩
      rintro rfl
      exact level (List.mem_filter.mp member).1
    rw [stack_eq_foldl_route, foldl_push_of_solid solid, List.nil_append]

theorem posix?_eq_normalise?_iff (absolute : path.toList.head? = some '/') (cwd : String) :
    posix? path = normalise? cwd path ↔ ['.', '.'] ∉ path.toList.splitOn '/' := by
  have rooted : isAbsolute path.toList = true := beq_iff_eq.mpr absolute
  have nonempty : path ≠ "" := by
    rintro rfl
    cases absolute
  have rendered : posix? path = some (String.ofList (written true (route path.toList))) := by
    rw [posix?_eq, rooted, if_neg (fun relative => nomatch relative.1)]
  have resolved : normalise? cwd path = some (String.ofList (written true (stack path.toList))) := by
    rw [normalise?_eq, if_neg nonempty, located, if_pos absolute]
    rfl
  rw [rendered, resolved, ← stack_eq_route_iff, Option.some.injEq, String.ofList_inj]
  constructor
  · -- What is written tells the segments, and both lists are without idle ones.
    intro same
    have both := congrArg route same
    rw [route_written (not_idle_of_mem_route path.toList), route_written] at both
    · exact both.symm
    · intro segment member
      obtain ⟨solid, whole⟩ := solid_of_mem_stack path.toList segment member
      exact ⟨solid.not_idle, whole⟩
  · intro same
    rw [same]

/-- The posix form of a path is the one tidy path that describes the same route, from the root if
the path does. Only a relative path without a route has none. A second rendering changes nothing,
and the posix form of an absolute path is its normal form, wherever relative ones are looked up from,
exactly if there are no two dots in it. -/
theorem posix_form_is_tidy_route (path : String) :
    (posix? path = none ↔
      path.toList.head? ≠ some '/' ∧ ∀ segment ∈ path.toList.splitOn '/', Idle segment) ∧
    (∀ form, posix? path = some form ↔ Renders path form) ∧
    (posix? path).bind posix? = posix? path ∧
    (path.toList.head? = some '/' → ∀ cwd,
      (posix? path = normalise? cwd path ↔ ['.', '.'] ∉ path.toList.splitOn '/')) :=
  ⟨posix?_eq_none_iff, fun _ => posix?_eq_some_iff, posix?_idempotent path,
    posix?_eq_normalise?_iff⟩

/-- Slashes are doubled in front, between and at the end. One of the paths turns back. -/
theorem doubled_slashes_are_rendered_once :
    posix? "//a/.///b./" = some "/a/b." ∧ Renders "//a/.///b./" "/a/b." ∧
    posix? "//a/.///b./" = normalise? "/x" "//a/.///b./" ∧
    posix? "//a/..///b./" = some "/a/../b." ∧
    posix? "//a/..///b./" ≠ normalise? "/x" "//a/..///b./" := by
  have level : posix? "//a/.///b./" = some "/a/b." := by decide +kernel
  obtain ⟨_, renders, _, normal⟩ := posix_form_is_tidy_route "//a/.///b./"
  obtain ⟨_, _, _, turned⟩ := posix_form_is_tidy_route "//a/..///b./"
  refine ⟨level, (renders "/a/b.").mp level, (normal rfl "/x").mpr (by decide +kernel),
    by decide +kernel, fun same => (turned rfl "/x").mp same (by decide +kernel)⟩

end WarningCapture.Path
