/-!
Sets of source lines, kept as strictly ascending lists, so that equal sets are equal lists.
-/

namespace WarningCapture

def insertAscending (n : Nat) : List Nat → List Nat
  | [] => [n]
  | m :: rest =>
      if n < m then n :: m :: rest
      else if n = m then m :: rest
      else m :: insertAscending n rest

theorem mem_insertAscending {n k : Nat} {l : List Nat} :
    k ∈ insertAscending n l ↔ k = n ∨ k ∈ l := by
  induction l with
  | nil => simp [insertAscending]
  | cons m rest ih =>
    simp only [insertAscending]
    split
    · simp
    · split
      · next same => subst same; simp
      · simp only [List.mem_cons, ih]
        exact ⟨fun h => by rcases h with h | h | h <;> simp [h],
          fun h => by rcases h with h | h | h <;> simp [h]⟩

theorem insertAscending_sorted {n : Nat} {l : List Nat} (h : l.Pairwise (· < ·)) :
    (insertAscending n l).Pairwise (· < ·) := by
  induction l with
  | nil => simp [insertAscending]
  | cons m rest ih =>
    rw [List.pairwise_cons] at h
    simp only [insertAscending]
    split
    · next lt =>
      refine List.pairwise_cons.2 ⟨fun k hk => ?_, List.pairwise_cons.2 h⟩
      rcases List.mem_cons.1 hk with rfl | hk
      · exact lt
      · exact Nat.lt_trans lt (h.1 k hk)
    · split
      · exact List.pairwise_cons.2 h
      · next nlt ne =>
        refine List.pairwise_cons.2 ⟨fun k hk => ?_, ih h.2⟩
        rcases mem_insertAscending.1 hk with rfl | hk
        · omega
        · exact h.1 k hk

structure LineSet where
  toList : List Nat
  ascending : toList.Pairwise (· < ·)
  deriving DecidableEq

namespace LineSet

def empty : LineSet := ⟨[], .nil⟩

def insert (s : LineSet) (n : Nat) : LineSet :=
  ⟨insertAscending n s.toList, insertAscending_sorted s.ascending⟩

/-- The set of the positive numbers of a list. -/
def ofLines (lines : List Nat) : LineSet :=
  (lines.filter (0 < ·)).foldl insert empty

def contains (s : LineSet) (n : Nat) : Bool := s.toList.contains n

def isEmpty (s : LineSet) : Bool := s.toList.isEmpty

def size (s : LineSet) : Nat := s.toList.length

@[simp] theorem mem_insert {s : LineSet} {n k : Nat} :
    k ∈ (s.insert n).toList ↔ k = n ∨ k ∈ s.toList := mem_insertAscending

end LineSet
end WarningCapture
