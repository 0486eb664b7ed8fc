import WarningCapture.Proofs.Text.Splitting
import WarningCapture.Source.Path

/-! Normal paths. A path is read segment by segment onto a stack, after the current directory if it
is relative, and what is left on the stack is its normal form. Normal forms are the absolute paths
without idle segments, and they are the paths that normalisation leaves alone. -/
namespace WarningCapture.Path

/-- What one segment does to the stack of those before it, outermost first. Nothing, if it is empty
or a single dot; two dots take the innermost off, if there is any; all others are put on. -/
def push (stack : List (List Char)) (segment : List Char) : List (List Char) :=
  if segment = [] ∨ segment = ['.'] then stack
  else if segment = ['.', '.'] then stack.dropLast
  else stack ++ [segment]

/-- The stack after a text was read from left to right. -/
def stack (text : List Char) : List (List Char) := (text.splitOn '/').foldl push []

/-- The text that is read for a path: a relative one comes after the current directory. -/
def located (cwd path : String) : List Char :=
  if path.toList.head? = some '/' then path.toList else cwd.toList ++ '/' :: path.toList

/-- A segment that says where to go: not empty, and neither one dot nor two. -/
structure Solid (segment : List Char) : Prop where
  nonempty : segment ≠ []
  notHere : segment ≠ ['.']
  notUp : segment ≠ ['.', '.']

/-- A path in normal form: absolute, without empty segments and dots, and without a slash at its
end, but for the root. -/
structure Normal (path : String) : Prop where
  absolute : ∃ rest, path.toList = '/' :: rest
  solid : path ≠ "/" → ∀ segment ∈ path.toList.tail.splitOn '/', Solid segment
  ending : path.toList.getLast? = some '/' → path = "/"

variable {path result cwd : String} {segment text : List Char} {parts : List (List Char)}

theorem segments_go_eq (text : List Char) : segments.go text = text.splitOn '/' := by
  induction text with
  | nil => rfl
  | cons c rest ih =>
    rw [segments.go, ih, Text.splitOn_cons]
    split
    · rfl
    · cases pieces : rest.splitOn '/' with
      | nil => exact absurd pieces (Text.splitOn_ne_nil rest)
      | cons first others => rfl

theorem segments_eq (text : List Char) : segments text =
    (text.splitOn '/').filter fun segment => !(segment.isEmpty || segment == ['.']) := by
  rw [segments, segments_go_eq]

/-- Idle segments left out or not, and whichever end of the stack comes first, the same is left. -/
theorem foldl_push (pieces kept : List (List Char)) : pieces.foldl push kept =
    ((pieces.filter fun segment => !(segment.isEmpty || segment == ['.'])).foldl resolveSegment
      kept.reverse).reverse := by
  induction pieces generalizing kept with
  | nil => simp
  | cons segment rest ih =>
    rw [List.foldl_cons, ih]
    by_cases idle : segment = [] ∨ segment = ['.']
    · have dropped : (segment.isEmpty || segment == ['.']) = true := by simpa using idle
      rw [push, if_pos idle, List.filter_cons, dropped]
      rfl
    · have taken : (segment.isEmpty || segment == ['.']) = false := by simpa using idle
      rw [push, if_neg idle, List.filter_cons, taken, Bool.not_false, if_pos rfl, List.foldl_cons,
        resolveSegment]
      split
      · rw [List.drop_one, List.tail_reverse]
      · rw [List.reverse_concat]

theorem resolve_segments (text : List Char) : resolve (segments text) = stack text := by
  rw [resolve, segments_eq, stack, foldl_push]
  rfl

theorem resolve_absoluteSegments (cwd path : String) :
    resolve (absoluteSegments cwd.toList path.toList) = stack (located cwd path) := by
  rw [absoluteSegments, located, ← resolve_segments, isAbsolute]
  by_cases absolute : path.toList.head? = some '/'
  · simp [absolute]
  · simp [absolute, segments_eq, Text.splitOn_append]

/-- The normal form of a path is the stack that is left, after a slash and with slashes between. -/
theorem normalise?_eq (cwd path : String) : normalise? cwd path =
    if path = "" then none
    else some (String.ofList ('/' :: ['/'].intercalate (stack (located cwd path)))) := by
  rw [normalise?, resolve_absoluteSegments]
  simp [join]

theorem forall_mem_push {P : List Char → Prop} {kept : List (List Char)}
    (held : ∀ s ∈ kept, P s) (next : Solid segment → P segment) :
    ∀ s ∈ push kept segment, P s := by
  intro s member
  unfold push at member
  split at member
  · exact held s member
  · split at member
    · exact held s (List.dropLast_subset kept member)
    · rename_i idle up
      obtain ⟨nonempty, notHere⟩ := not_or.mp idle
      rcases List.mem_append.mp member with before | last
      · exact held s before
      · rw [List.mem_singleton.mp last]
        exact next ⟨nonempty, notHere, up⟩

/-- Only solid segments stay on the stack. -/
theorem solid_of_mem_stack (text : List Char) :
    ∀ segment ∈ stack text, Solid segment ∧ '/' ∉ segment := by
  have kept (pieces : List (List Char)) (whole : ∀ piece ∈ pieces, '/' ∉ piece)
      (before : List (List Char)) (held : ∀ s ∈ before, Solid s ∧ '/' ∉ s) :
      ∀ s ∈ pieces.foldl push before, Solid s ∧ '/' ∉ s := by
    induction pieces generalizing before with
    | nil => exact held
    | cons piece rest ih =>
      obtain ⟨first, later⟩ := List.forall_mem_cons.mp whole
      exact ih later (push before piece) (forall_mem_push held fun solid => ⟨solid, first⟩)
  exact kept _ Text.not_mem_of_mem_splitOn [] (by simp)

theorem foldl_push_of_solid (solid : ∀ segment ∈ parts, Solid segment) (kept : List (List Char)) :
    parts.foldl push kept = kept ++ parts := by
  induction parts generalizing kept with
  | nil => simp
  | cons segment rest ih =>
    obtain ⟨⟨nonempty, notHere, notUp⟩, later⟩ := List.forall_mem_cons.mp solid
    rw [List.foldl_cons, push, if_neg (not_or.mpr ⟨nonempty, notHere⟩), if_neg notUp, ih later,
      List.append_assoc, List.singleton_append]

/-- Solid segments that are read with slashes between them are all left. -/
theorem stack_of_solid (solid : ∀ segment ∈ parts, Solid segment ∧ '/' ∉ segment) :
    stack ('/' :: ['/'].intercalate parts) = parts := by
  rw [stack, Text.splitOn_cons, if_pos rfl, List.foldl_cons]
  cases parts with
  | nil => rfl
  | cons first rest =>
    rw [List.splitOn_intercalate '/' (fun segment member => (solid segment member).2)
      (List.cons_ne_nil first rest)]
    exact foldl_push_of_solid (fun segment member => (solid segment member).1) []

/-- Solid segments with slashes before and between them are a normal path. -/
theorem normal_of_solid (solid : ∀ segment ∈ parts, Solid segment ∧ '/' ∉ segment) :
    Normal (String.ofList ('/' :: ['/'].intercalate parts)) := by
  cases parts with
  | nil => exact ⟨⟨[], rfl⟩, fun other => absurd rfl other, fun _ => rfl⟩
  | cons first rest =>
    have pieces : (['/'].intercalate (first :: rest)).splitOn '/' = first :: rest :=
      List.splitOn_intercalate '/' (fun segment member => (solid segment member).2)
        (List.cons_ne_nil first rest)
    refine ⟨⟨_, String.toList_ofList⟩, fun _ => ?_, fun ends => ?_⟩
    · rw [String.toList_ofList, List.tail_cons, pieces]
      exact fun segment member => (solid segment member).1
    · -- A slash at the end would leave an empty segment behind it.
      exfalso
      generalize ['/'].intercalate (first :: rest) = text at pieces ends
      have empty : [] ∈ first :: rest := by
        rw [← pieces]
        rw [String.toList_ofList] at ends
        rcases List.eq_nil_or_concat text with rfl | ⟨front, last, rfl⟩
        · simp
        · rw [List.concat_eq_append, ← List.cons_append, List.getLast?_concat, Option.some.injEq] at ends
          rw [List.concat_eq_append, ends, Text.splitOn_append]
          simp
      exact (solid [] empty).1.nonempty rfl

theorem Normal.exists_solid (normal : Normal path) : ∃ parts : List (List Char),
    (∀ segment ∈ parts, Solid segment ∧ '/' ∉ segment) ∧
      path.toList = '/' :: ['/'].intercalate parts := by
  obtain ⟨⟨rest, absolute⟩, solid, -⟩ := normal
  by_cases root : path = "/"
  · exact ⟨[], by simp, by rw [root]; rfl⟩
  · rw [absolute] at solid
    refine ⟨rest.splitOn '/', fun segment member => ?_, ?_⟩
    · exact ⟨solid root segment member, Text.not_mem_of_mem_splitOn segment member⟩
    · rw [absolute, List.intercalate_splitOn]

/-- Normal paths are their own normal forms, wherever they are looked up from. -/
theorem Normal.normalise? (normal : Normal path) (cwd : String) :
    Path.normalise? cwd path = some path := by
  obtain ⟨parts, solid, shape⟩ := normal.exists_solid
  have nonempty : path ≠ "" := by
    rintro rfl
    cases shape
  have there : located cwd path = path.toList := by rw [located, if_pos (by rw [shape]; rfl)]
  rw [normalise?_eq, if_neg nonempty, there, shape, stack_of_solid solid, ← shape,
    String.ofList_toList]

/-- The normal form of a path is what its segments leave on the stack, those of the current
directory first if the path is relative. Only the empty path has none. Every normal form is absolute
and has neither idle segments nor a slash at its end, but for the root, and paths of this kind are
left alone, wherever they are looked up from. -/
theorem normal_form_is_resolved_path (cwd path : String) :
    normalise? cwd path = (if path = "" then none
      else some (String.ofList ('/' :: ['/'].intercalate (stack (located cwd path))))) ∧
    (normalise? cwd path = none ↔ path = "") ∧
    (∀ result, normalise? cwd path = some result →
      Normal result ∧ ∀ other, normalise? other result = some result) ∧
    ∀ normal other, Normal normal → normalise? other normal = some normal := by
  refine ⟨normalise?_eq cwd path, ?_, ?_, fun normal other stays => stays.normalise? other⟩
  · rw [normalise?_eq]
    split <;> simp_all
  · intro result made
    rw [normalise?_eq] at made
    split at made
    · cases made
    · cases made
      have normal := normal_of_solid (solid_of_mem_stack (located cwd path))
      exact ⟨normal, normal.normalise?⟩

/-- A relative path that leaves its directory, with idle segments and a slash at its end. -/
theorem winding_path_is_resolved :
    normalise? "/x/y" "..//./a/b/../c/" = some "/x/a/c" ∧
    stack (located "/x/y" "..//./a/b/../c/") = [['x'], ['a'], ['c']] ∧ Normal "/x/a/c" ∧
    normalise? "/tmp" "/x/a/c" = some "/x/a/c" := by
  obtain ⟨_, _, kept, stays⟩ := normal_form_is_resolved_path "/x/y" "..//./a/b/../c/"
  have made : normalise? "/x/y" "..//./a/b/../c/" = some "/x/a/c" := by decide +kernel
  obtain ⟨normal, _⟩ := kept "/x/a/c" made
  exact ⟨made, by decide +kernel, normal, stays "/x/a/c" "/tmp" normal⟩

end WarningCapture.Path
