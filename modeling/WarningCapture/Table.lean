/-!
Ordered tables: values under names, in the order in which the names were first entered. Writing
under a known name keeps its place.
-/

namespace WarningCapture

abbrev Table (α : Type) := List (String × α)

namespace Table
variable {α : Type}

def get? (name : String) : Table α → Option α
  | [] => none
  | (k, v) :: rest => if k = name then some v else get? name rest

def put (name : String) (value : α) : Table α → Table α
  | [] => [(name, value)]
  | (k, v) :: rest => if k = name then (k, value) :: rest else (k, v) :: put name value rest

def erase (name : String) (t : Table α) : Table α := t.filter fun entry => entry.1 ≠ name

def putAll (entries t : Table α) : Table α :=
  entries.foldl (fun acc entry => acc.put entry.1 entry.2) t

def names (t : Table α) : List String := t.map (·.1)

theorem get?_put_self (name : String) (value : α) (t : Table α) :
    (t.put name value).get? name = some value := by
  induction t with
  | nil => simp [put, get?]
  | cons entry rest ih =>
    obtain ⟨k, v⟩ := entry
    by_cases h : k = name <;> simp [put, get?, h, ih]

theorem get?_put_of_ne {name other : String} (h : name ≠ other) (value : α) (t : Table α) :
    (t.put name value).get? other = t.get? other := by
  induction t with
  | nil => simp [put, get?, h]
  | cons entry rest ih =>
    obtain ⟨k, v⟩ := entry
    by_cases hk : k = name
    · subst hk; simp [put, get?, h]
    · by_cases ho : k = other
      · subst ho; simp [put, get?, hk]
      · simp [put, get?, hk, ho, ih]

theorem mem_of_get? {name : String} {value : α} {t : Table α} (found : t.get? name = some value) :
    (name, value) ∈ t := by
  induction t with
  | nil => cases found
  | cons entry rest ih =>
    obtain ⟨k, v⟩ := entry
    by_cases here : k = name
    · simp only [get?, if_pos here, Option.some.injEq] at found
      simp [here, found]
    · rw [get?, if_neg here] at found
      exact List.mem_cons_of_mem _ (ih found)

theorem mem_put {name : String} {value : α} {t : Table α} {entry : String × α}
    (member : entry ∈ t.put name value) : entry = (name, value) ∨ entry ∈ t := by
  induction t with
  | nil => exact .inl (List.mem_singleton.mp member)
  | cons first rest ih =>
    obtain ⟨k, v⟩ := first
    by_cases here : k = name
    · rw [put, if_pos here, here, List.mem_cons] at member
      exact member.imp_right (List.mem_cons_of_mem _)
    · rw [put, if_neg here, List.mem_cons] at member
      rcases member with rfl | later
      · exact .inr List.mem_cons_self
      · exact (ih later).imp_right (List.mem_cons_of_mem _)

theorem names_cons (entry : String × α) (rest : Table α) :
    Table.names (entry :: rest) = entry.1 :: Table.names rest := rfl

theorem names_put (name : String) (value : α) (t : Table α) :
    (t.put name value).names = if name ∈ t.names then t.names else t.names ++ [name] := by
  induction t with
  | nil => rfl
  | cons entry rest ih =>
    obtain ⟨k, v⟩ := entry
    by_cases here : k = name
    · simp [put, here, names_cons]
    · by_cases known : name ∈ Table.names rest <;>
        simp [put, here, Ne.symm here, names_cons, ih, known]

end Table
end WarningCapture
