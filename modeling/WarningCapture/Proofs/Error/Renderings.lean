import Mathlib.Data.List.Induction
import Mathlib.Data.List.Nodup
import Mathlib.Data.String.Basic
import WarningCapture.Host.Fault
import WarningCapture.Log.Trailer

/-! What the renderings of an error have in common. All values that were ever given for a key, in
order, decide each of them: a map holds the last, a lookup finds the first, and a text shows every
one. -/
namespace WarningCapture

/-- The values that pairs give for a key, in order. -/
def valuesOf (key : String) (pairs : List (String × String)) : List String :=
  pairs.filterMap fun pair => if pair.1 = key then some pair.2 else none

theorem valuesOf_cons (key : String) (pair : String × String) (rest : List (String × String)) :
    valuesOf key (pair :: rest) =
      if pair.1 = key then pair.2 :: valuesOf key rest else valuesOf key rest := by
  by_cases same : pair.1 = key <;> simp [valuesOf, same]

theorem valuesOf_concat (key : String) (pairs : List (String × String)) (pair : String × String) :
    valuesOf key (pairs ++ [pair]) =
      valuesOf key pairs ++ if pair.1 = key then [pair.2] else [] := by
  by_cases same : pair.1 = key <;> simp [valuesOf, same]

theorem valuesOf_eq_nil {key : String} {pairs : List (String × String)} :
    valuesOf key pairs = [] ↔ key ∉ pairs.map (·.1) := by
  simp only [valuesOf, List.filterMap_eq_nil_iff, List.mem_map, not_exists, not_and]
  refine forall₂_congr fun pair _ => ?_
  by_cases same : pair.1 = key <;> simp [same]

namespace Table
variable {α : Type} {t u : Table α} {name : String} {value : α}

theorem get?_put (name other : String) (value : α) (t : Table α) :
    (t.put name value).get? other = if name = other then some value else t.get? other := by
  split
  · rename_i same
    rw [← same, get?_put_self]
  · rename_i different
    exact get?_put_of_ne different value t

/-- A table with distinct names is told by what it has under each name. -/
theorem get?_eq_some_iff (distinct : t.names.Nodup) :
    t.get? name = some value ↔ (name, value) ∈ t := by
  induction t with
  | nil => simp [get?]
  | cons entry rest ih =>
    obtain ⟨k, v⟩ := entry
    rw [names_cons, List.nodup_cons] at distinct
    obtain ⟨fresh, distinct⟩ := distinct
    by_cases here : k = name
    · subst here
      have absent : (k, value) ∉ rest := fun member =>
        fresh (List.mem_map.mpr ⟨(k, value), member, rfl⟩)
      simp [get?, absent, eq_comm]
    · simp [get?, here, Ne.symm here, ih distinct]

theorem perm_of_get? (distinct : t.names.Nodup) (others : u.names.Nodup)
    (same : ∀ name, t.get? name = u.get? name) : t.Perm u := by
  have entries := List.Nodup.of_map Prod.fst distinct
  refine (List.perm_ext_iff_of_nodup entries (List.Nodup.of_map Prod.fst others)).mpr ?_
  rintro ⟨name, value⟩
  rw [← get?_eq_some_iff distinct, ← get?_eq_some_iff others, same]

theorem nodup_put (distinct : t.names.Nodup) (name : String) (value : α) :
    (t.put name value).names.Nodup := by
  rw [names_put]
  split
  · exact distinct
  · rename_i fresh
    refine List.nodup_append.mpr ⟨distinct, List.nodup_singleton name, ?_⟩
    intro other member last here same
    rw [List.mem_singleton.mp here] at same
    exact fresh (same ▸ member)

/-- Pairs that are written one over the other leave the last value of each key. -/
theorem get?_foldl {write : String → String → Table String → Table String}
    (writes : ∀ name value t other, Table.get? other (write name value t) =
      if name = other then some value else Table.get? other t)
    (pairs : List (String × String)) (key : String) :
    Table.get? key (pairs.foldl (fun t pair => write pair.1 pair.2 t) []) =
      (valuesOf key pairs).getLast? := by
  induction pairs using List.reverseRecOn with
  | nil => rfl
  | append_singleton pairs pair ih =>
    rw [List.foldl_append, List.foldl_cons, List.foldl_nil, writes, ih, valuesOf_concat]
    split <;> simp

end Table

namespace Log.Trailer
variable {key value : String} {pairs : List (String × String)}

theorem get?_writePair (key value : String) (pairs : Table String) (other : String) :
    Table.get? other (writePair key value pairs) =
      if key = other then some value else Table.get? other pairs := by
  induction pairs with
  | nil => simp [writePair, Table.get?]
  | cons pair rest ih =>
    obtain ⟨k, v⟩ := pair
    unfold writePair
    split
    · simp only [Table.get?]
    · split
      · rename_i same
        subst same
        by_cases here : key = other <;> simp [Table.get?, here]
      · rename_i different
        by_cases here : k = other
        · subst here
          simp [Table.get?, different]
        · simp only [Table.get?, here, if_false, ih]

theorem mem_names_writePair {other : String} :
    other ∈ Table.names (writePair key value pairs) ↔
      other = key ∨ other ∈ Table.names pairs := by
  induction pairs with
  | nil => simp [writePair, Table.names]
  | cons pair rest ih =>
    obtain ⟨k, v⟩ := pair
    unfold writePair
    split
    · simp [Table.names]
    · split
      · rename_i same
        subst same
        simp [Table.names]
      · simp only [Table.names_cons, List.mem_cons, ih, or_left_comm]

theorem writePair_sorted (sorted : (Table.names pairs).Pairwise (· < ·)) :
    (Table.names (writePair key value pairs)).Pairwise (· < ·) := by
  induction pairs with
  | nil => simp [writePair, Table.names]
  | cons pair rest ih =>
    obtain ⟨k, v⟩ := pair
    obtain ⟨above, ascending⟩ := List.pairwise_cons.mp sorted
    unfold writePair
    split
    · rename_i below
      refine List.pairwise_cons.mpr ⟨fun other member => ?_, sorted⟩
      rcases List.mem_cons.mp member with rfl | later
      · exact below
      · exact lt_trans below (above other later)
    · split
      · rename_i same
        subst same
        exact sorted
      · rename_i notBelow different
        refine List.pairwise_cons.mpr ⟨fun other member => ?_, ih ascending⟩
        rcases mem_names_writePair.mp member with rfl | later
        · exact lt_of_le_of_ne (not_lt.mp notBelow) (Ne.symm different)
        · exact above other later

theorem orderedContext_sorted (pairs : List (String × String)) :
    (Table.names (orderedContext pairs)).Pairwise (· < ·) := by
  induction pairs using List.reverseRecOn with
  | nil => exact .nil
  | append_singleton pairs pair ih =>
    rw [orderedContext, List.foldl_append]
    exact writePair_sorted ih

theorem get?_orderedContext (pairs : List (String × String)) (key : String) :
    Table.get? key (orderedContext pairs) = (valuesOf key pairs).getLast? :=
  Table.get?_foldl get?_writePair pairs key

end Log.Trailer

namespace CaptureError

theorem get?_contextMap (err : CaptureError) (key : String) :
    err.contextMap.get? key = (valuesOf key err.context).getLast? :=
  Table.get?_foldl (fun name value t other => Table.get?_put name other value t) err.context key

theorem putAll_concat (pairs : List (String × String)) (pair : String × String) :
    Table.putAll (pairs ++ [pair]) [] = (Table.putAll pairs []).put pair.1 pair.2 := by
  rw [Table.putAll, List.foldl_append]
  rfl

theorem nodup_putAll (pairs : List (String × String)) :
    (Table.putAll pairs []).names.Nodup := by
  induction pairs using List.reverseRecOn with
  | nil => exact List.nodup_nil
  | append_singleton pairs pair ih =>
    rw [putAll_concat]
    exact Table.nodup_put ih pair.1 pair.2

/-- A key keeps the place in which it was first written. -/
theorem names_putAll (pairs : List (String × String)) :
    (Table.putAll pairs []).names = (pairs.map (·.1)).eraseDups := by
  induction pairs using List.reverseRecOn with
  | nil => rfl
  | append_singleton pairs pair ih =>
    rw [putAll_concat, Table.names_put, ih, List.map_append, List.eraseDups_append]
    by_cases known : pair.1 ∈ pairs.map (·.1)
    · rw [if_pos (List.mem_eraseDups.mpr known)]
      simp [List.removeAll, known]
    · rw [if_neg (mt List.mem_eraseDups.mp known)]
      simp [List.removeAll, known, List.eraseDups_cons]

theorem contextValue_eq (err : CaptureError) (key : String) :
    err.contextValue key = (valuesOf key err.context).head? := by
  unfold contextValue
  induction err.context with
  | nil => rfl
  | cons pair rest ih =>
    rw [valuesOf_cons, List.find?_cons]
    by_cases same : pair.1 = key
    · simp [same]
    · have differs : (pair.1 == key) = false := beq_false_of_ne same
      rw [if_neg same, differs]
      exact ih

theorem exceptionText_eq (err : CaptureError) :
    err.exceptionText = "[" ++ err.code.name ++ "] " ++ err.message ++
      (if err.context = [] then "" else
        " (" ++ ", ".intercalate (err.context.map fun pair => pair.1 ++ "=" ++ pair.2) ++ ")") ++
      err.source.elim "" (": caused by " ++ ·) := by
  have pairs : contextText err.context = if err.context = [] then "" else
      " (" ++ ", ".intercalate (err.context.map fun pair => pair.1 ++ "=" ++ pair.2) ++ ")" := by
    cases err.context <;> rfl
  unfold exceptionText render
  rw [pairs]
  cases err.source with
  | none => exact String.append_empty.symm
  | some cause => exact String.append_assoc

theorem contextValue_eq_none_iff (err : CaptureError) (key : String) :
    err.contextValue key = none ↔ key ∉ err.contextMap.names := by
  rw [contextValue_eq, List.head?_eq_none_iff, valuesOf_eq_nil, contextMap, names_putAll,
    List.mem_eraseDups]

/-- The context of a raised error and the context in its description are one map, whichever keys
were given more than once: each key leads to the value given last, and the former has the keys in
the order in which they first came. The text of the exception shows every pair. A lookup finds the
value given first, so it finds nothing exactly for the keys that are not in the map, and what is in
the map exactly if the first and the last value for the key are equal. -/
theorem renderings_agree (err : CaptureError) (testId : Option String) :
    (Log.Trailer.ofError err testId).context.Perm err.contextMap ∧
    err.contextMap.names = (err.context.map (·.1)).eraseDups ∧ err.contextMap.names.Nodup ∧
    (∀ key, err.contextMap.get? key = (valuesOf key err.context).getLast? ∧
      Table.get? key (Log.Trailer.ofError err testId).context =
        (valuesOf key err.context).getLast?) ∧
    (Fault.reported err).text = "[" ++ err.code.name ++ "] " ++ err.message ++
      (if err.context = [] then "" else
        " (" ++ ", ".intercalate (err.context.map fun pair => pair.1 ++ "=" ++ pair.2) ++ ")") ++
      err.source.elim "" (": caused by " ++ ·) ∧
    ∀ key, (err.contextValue key = none ↔ key ∉ err.contextMap.names) ∧
      (err.contextValue key = err.contextMap.get? key ↔
        (valuesOf key err.context).head? = (valuesOf key err.context).getLast?) := by
  have described (key : String) : Table.get? key (Log.Trailer.ofError err testId).context =
      (valuesOf key err.context).getLast? :=
    Log.Trailer.get?_orderedContext err.context key
  have distinct : (Table.names (Log.Trailer.ofError err testId).context).Nodup :=
    (Log.Trailer.orderedContext_sorted err.context).imp ne_of_lt
  refine ⟨?_, names_putAll err.context, nodup_putAll err.context, fun key => ?_,
    err.exceptionText_eq, fun key => ⟨err.contextValue_eq_none_iff key, ?_⟩⟩
  · refine Table.perm_of_get? distinct (nodup_putAll err.context) fun key => ?_
    rw [described, get?_contextMap]
  · exact ⟨err.get?_contextMap key, described key⟩
  · rw [contextValue_eq, get?_contextMap]

/-- A key that is given twice keeps its first place in the map, with its second value. -/
example :
    let err := (((environmentError .replayFailed "message").withContext "key" "first").withContext
      "other" "value").withContext "key" "second"
    err.contextMap = [("key", "second"), ("other", "value")] ∧
      (Log.Trailer.ofError err none).context = [("key", "second"), ("other", "value")] ∧
      err.contextValue "key" = some "first" := by
  decide +kernel

end CaptureError
end WarningCapture
