import WarningCapture.Proofs.Registry.Completing

/-! What aborts a walk. Visits may find nothing, fail to look a key up, or be refused, and the walk
goes on; only a listing that fails is its last use of the registry. What was done until then stays
done. -/
namespace WarningCapture
namespace Registry
variable {σ κ : Type}

/-- Uses of a registry one after the other, each with the outcome that it had. -/
inductive Made (r : Registry σ κ) : σ → List (Use κ) → σ → Prop where
  | nil (s) : Made r s [] s
  | listed : r.keys s = (listing, t) → Made r t uses u → Made r s (.listed listing :: uses) u
  | visited : r.visit k s = (outcome, t) → Made r t uses u →
      Made r s (.visited k outcome :: uses) u

variable {r : Registry σ κ} {s t u : σ} {uses before after : List (Use κ)}

namespace Made

theorem trans (first : r.Made s before t) (second : r.Made t after u) :
    r.Made s (before ++ after) u := by
  induction first with
  | nil => exact second
  | listed shown _ ih => exact .listed shown (ih second)
  | visited visit _ ih => exact .visited visit (ih second)

theorem split (made : r.Made s (before ++ after) u) :
    ∃ t, r.Made s before t ∧ r.Made t after u := by
  induction before generalizing s with
  | nil => exact ⟨s, .nil s, made⟩
  | cons use rest ih =>
    cases made with
    | listed shown later =>
      obtain ⟨t, first, second⟩ := ih later
      exact ⟨t, .listed shown first, second⟩
    | visited visit later =>
      obtain ⟨t, first, second⟩ := ih later
      exact ⟨t, .visited visit first, second⟩

theorem visitAll (r : Registry σ κ) (ks : List κ) (s : σ) :
    r.Made s (Use.ofVisits (r.visitAll ks s).1) (r.visitAll ks s).2 := by
  induction ks generalizing s with
  | nil => exact .nil s
  | cons k rest ih => exact .visited rfl (ih (r.visit k s).2)

/-- A listing that failed left the registry as it does when it fails. -/
theorem unlisted {f : Fault} (made : r.Made s [.listed (.error f)] t) :
    r.keys s = (.error f, t) := by
  cases made with
  | listed shown later =>
    cases later
    exact shown

end Made

namespace Use

/-- A use that shows a walk that the keys cannot be listed. -/
def Fails (use : Use κ) : Prop := ∃ f, use = listed (.error f)

theorem ofVisits_listed (visits : List (κ × VisitOutcome)) {use : Use κ}
    (member : use ∈ ofVisits visits) : ¬ use.Fails := by
  obtain ⟨visit, _, rfl⟩ := List.mem_map.mp member
  rintro ⟨f, same⟩
  cases same

/-- Where no listing fails, each of them shows its snapshot. -/
theorem snapshots_length (uses : List (Use κ)) (listed : ∀ use ∈ uses, ¬ use.Fails) :
    (snapshots uses).length = uses.countP isListing := by
  induction uses with
  | nil => rfl
  | cons use rest ih =>
    obtain ⟨first, others⟩ := List.forall_mem_cons.mp listed
    have later := ih others
    cases use with
    | visited k outcome => exact later
    | listed listing =>
      cases listing with
      | error f => exact absurd ⟨f, rfl⟩ first
      | ok snapshot =>
        rw [List.countP_cons_of_pos rfl, ← later]
        rfl

end Use

variable [DecidableEq κ] {room : Nat} {seen : List κ} {w : Walk κ} {f : Fault}

namespace Walks

/-- A walk does nothing to its registry but use it. -/
theorem made (walks : r.Walks room seen s uses w t) : r.Made s uses t := by
  induction walks with
  | unlisted shown | complete shown | limited shown => exact .listed shown (.nil _)
  | @pass _ t snapshot seen _ _ _ _ _ _ shown _ visited _ ih =>
    have visits := Made.visitAll r (unseen seen snapshot) t
    rw [visited] at visits
    exact .listed shown (visits.trans ih)

/-- Of all uses that a walk makes of its registry, only the last one can fail to list the keys, and
it does so exactly if the walk ends for it. -/
theorem last_fails (walks : r.Walks room seen s uses w t) :
    ∃ before last, uses = before ++ [last] ∧ (∀ use ∈ before, ¬ use.Fails) ∧
      ∀ f, last = .listed (.error f) ↔ w.ending = .unlisted f := by
  induction walks with
  | unlisted => exact ⟨[], _, rfl, by simp, by simp⟩
  | complete | limited => exact ⟨[], _, rfl, by simp, by simp⟩
  | @pass _ _ snapshot _ visits _ _ _ _ _ _ _ _ _ ih =>
    obtain ⟨before, last, rfl, listed, ending⟩ := ih
    refine ⟨.listed (.ok snapshot) :: (Use.ofVisits visits ++ before), last, by simp, ?_, ending⟩
    intro use member
    rcases List.mem_cons.mp member with rfl | later
    · rintro ⟨f, same⟩
      cases same
    · rcases List.mem_append.mp later with visit | further
      · exact Use.ofVisits_listed visits visit
      · exact listed use further

/-- A failed listing is the last use, whichever it is. -/
theorem ends_at_failure (walks : r.Walks room seen s (before ++ .listed (.error f) :: after) w t) :
    after = [] ∧ w.ending = .unlisted f ∧ ∀ use ∈ before, ¬ use.Fails := by
  obtain ⟨known, last, same, listed, ending⟩ := walks.last_fails
  rcases List.eq_nil_or_concat after with rfl | ⟨further, final, rfl⟩
  · obtain ⟨rfl, final⟩ := List.append_inj' same rfl
    obtain rfl := (List.cons.inj final).1
    exact ⟨rfl, (ending f).mp rfl, listed⟩
  · rw [List.concat_eq_append, ← List.cons_append, ← List.append_assoc] at same
    obtain ⟨rfl, _⟩ := List.append_inj' same rfl
    have failing : Use.listed (.error f) ∈ before ++ .listed (.error f) :: further :=
      List.mem_append_right before List.mem_cons_self
    exact absurd ⟨f, rfl⟩ (listed _ failing)

end Walks

/-- What a walk is that a failed listing aborted after these uses of the registry. -/
structure Aborted (r : Registry σ κ) (s : σ) (before : List (Use κ)) (f : Fault) (w : Walk κ)
    (t : σ) : Prop where
  result : w.result = .error f
  /-- Each listing that succeeded began a pass. -/
  passes : w.passes = before.countP Use.isListing
  /-- Each pass was made to its end, through all keys that its listing was the first to show. -/
  lookedUp : Use.lookedUp before = (Use.snapshots before).flatten.eraseDups
  visits : before.filterMap Use.visit? = w.visits
  /-- Nothing is undone, and nothing further is done. -/
  made : ∃ u, r.Made s before u ∧ r.keys u = (.error f, t)

/-- How the uses of a registry decide whether a walk is aborted. -/
structure Aborts (r : Registry σ κ) (s : σ) (uses : List (Use κ)) (w : Walk κ) (t : σ) :
    Prop where
  made : r.Made s uses t
  fails : (∃ f, w.result = .error f) ↔ ∃ f, .listed (.error f) ∈ uses
  aborted : ∀ before f after, uses = before ++ .listed (.error f) :: after →
    after = [] ∧ r.Aborted s before f w t

end Registry

namespace Walk
variable {κ : Type} {w : Walk κ} {f : Fault}

theorem result_error_iff : w.result = .error f ↔ w.ending = .unlisted f := by
  unfold result
  constructor
  · intro failed
    split at failed
    · rename_i unlisted
      cases failed
      exact unlisted
    · cases failed
  · intro unlisted
    rw [unlisted]

end Walk

namespace Registry
variable {σ κ : Type} [DecidableEq κ] {r : Registry σ κ} {s t : σ} {uses before : List (Use κ)}
  {room : Nat} {w : Walk κ} {f : Fault}

theorem Walks.aborted (walks : r.Walks room [] s (before ++ [Use.listed (.error f)]) w t) :
    r.Aborted s before f w t := by
  obtain ⟨_, ending, listed⟩ := walks.ends_at_failure
  have shown : Use.snapshots (before ++ [Use.listed (.error f)]) = Use.snapshots before := by
    simp [Use.snapshots, Use.snapshot?]
  have visited : (before ++ [Use.listed (.error f)]).filterMap Use.visit? =
      before.filterMap Use.visit? := by
    simp [Use.visit?]
  have passes : w.passes = before.countP Use.isListing := by
    have listings := walks.listings
    rw [List.countP_append, List.countP_singleton] at listings
    exact Nat.add_right_cancel listings.symm
  have visits : before.filterMap Use.visit? = w.visits := visited.symm.trans walks.visits
  have every : (Use.snapshots before).length = w.passes :=
    (Use.snapshots_length before listed).trans passes.symm
  constructor
  case result => exact Walk.result_error_iff.mpr ending
  case passes => exact passes
  case visits => exact visits
  case lookedUp =>
    have keys := walks.keys
    rw [← Use.snapshots, shown, List.take_of_length_le (Nat.le_of_eq every), unseen_nil_eq] at keys
    rw [Use.lookedUp, visits, keys]
  case made =>
    obtain ⟨u, first, last⟩ := walks.made.split
    exact ⟨u, first, last.unlisted⟩

theorem Walks.aborts (walks : r.Walks room [] s uses w t) : r.Aborts s uses w t where
  made := walks.made
  fails := by
    constructor
    · rintro ⟨f, failed⟩
      obtain ⟨_, last, rfl, _, ending⟩ := walks.last_fails
      obtain rfl := (ending f).mpr (Walk.result_error_iff.mp failed)
      exact ⟨f, List.mem_append_right _ (List.mem_singleton_self _)⟩
    · rintro ⟨f, member⟩
      obtain ⟨_, _, rfl⟩ := List.append_of_mem member
      exact ⟨f, Walk.result_error_iff.mpr walks.ends_at_failure.2.1⟩
  aborted := by
    rintro before f after rfl
    obtain ⟨rfl, _⟩ := walks.ends_at_failure
    exact ⟨rfl, walks.aborted⟩

theorem walk_aborts (r : Registry σ κ) (maxPasses : Nat) (s : σ) :
    ∃ uses, r.recorded.walk maxPasses (s, []) =
        ((r.walk maxPasses s).1, (r.walk maxPasses s).2, uses) ∧
      r.Aborts s uses (r.walk maxPasses s).1 (r.walk maxPasses s).2 := by
  obtain ⟨uses, same, walks⟩ := r.recorded_walkFrom (max 1 maxPasses) [] s []
  exact ⟨uses, same, walks.aborts⟩

end Registry
end WarningCapture
