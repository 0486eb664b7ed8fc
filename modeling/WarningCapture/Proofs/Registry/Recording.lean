import WarningCapture.Proofs.Registry.Mirroring

/-! What a walk does to its registry. It lists the keys, visits those that no listing has shown
before, and lists them again. A registry that records its uses is walked like the registry itself,
so that the report of a walk can be held against what was done. -/
namespace WarningCapture

namespace Registry
variable {σ κ : Type}

/-- A use of a registry, with what it came to. -/
inductive Use (κ : Type) where
  | listed (listing : Except Fault (List κ))
  | visited (k : κ) (outcome : VisitOutcome)

namespace Use

def isListing : Use κ → Bool
  | listed _ => true
  | visited .. => false

def snapshot? : Use κ → Option (List κ)
  | listed (.ok snapshot) => some snapshot
  | _ => none

def visit? : Use κ → Option (κ × VisitOutcome)
  | listed _ => none
  | visited k outcome => some (k, outcome)

/-- The uses that visits make. -/
def ofVisits (visits : List (κ × VisitOutcome)) : List (Use κ) :=
  visits.map fun visit => visited visit.1 visit.2

@[simp] theorem countP_isListing_ofVisits (visits : List (κ × VisitOutcome)) :
    (ofVisits visits).countP isListing = 0 := by
  simp [ofVisits, List.countP_eq_zero, isListing]

@[simp] theorem filterMap_snapshot?_ofVisits (visits : List (κ × VisitOutcome)) :
    (ofVisits visits).filterMap snapshot? = [] := by
  simp [ofVisits, List.filterMap_eq_nil_iff, snapshot?]

@[simp] theorem filterMap_visit?_ofVisits (visits : List (κ × VisitOutcome)) :
    (ofVisits visits).filterMap visit? = visits := by
  induction visits with
  | nil => rfl
  | cons visit rest ih =>
    have first : (visited visit.1 visit.2).visit? = some visit := rfl
    rw [ofVisits, List.map_cons, List.filterMap_cons_some first, ← ofVisits, ih]

/-- A pass shows its snapshot, and then makes its visits. -/
theorem filterMap_snapshot?_pass (snapshot : List κ) (visits : List (κ × VisitOutcome))
    (uses : List (Use κ)) :
    (listed (.ok snapshot) :: (ofVisits visits ++ uses)).filterMap snapshot? =
      snapshot :: uses.filterMap snapshot? := by
  have first : (listed (.ok snapshot)).snapshot? = some snapshot := rfl
  rw [List.filterMap_cons_some first, List.filterMap_append, filterMap_snapshot?_ofVisits,
    List.nil_append]

end Use

/-- The registry together with a record of its uses, in order. -/
def recorded (r : Registry σ κ) : Registry (σ × List (Use κ)) κ where
  keys := fun (s, uses) =>
    let (listing, t) := r.keys s
    (listing, t, uses ++ [.listed listing])
  visit := fun k (s, uses) =>
    let (outcome, t) := r.visit k s
    (outcome, t, uses ++ [.visited k outcome])

/-- All that a walk with so many passes left and some keys seen can do: how it uses the registry,
what it tells, and what it leaves behind. -/
inductive Walks [DecidableEq κ] (r : Registry σ κ) :
    Nat → List κ → σ → List (Use κ) → Walk κ → σ → Prop where
  | unlisted : r.keys s = (.error f, t) →
      Walks r room seen s [.listed (.error f)] ⟨[], 0, .unlisted f⟩ t
  | complete : r.keys s = (.ok snapshot, t) → unseen seen snapshot = [] →
      Walks r room seen s [.listed (.ok snapshot)] ⟨[], 0, .complete⟩ t
  | limited : r.keys s = (.ok snapshot, t) → unseen seen snapshot ≠ [] →
      Walks r 0 seen s [.listed (.ok snapshot)] ⟨[], 0, .limited (unseen seen snapshot).length⟩ t
  | pass : r.keys s = (.ok snapshot, t) → unseen seen snapshot ≠ [] →
      r.visitAll (unseen seen snapshot) t = (visits, u) →
      Walks r room (seen ++ unseen seen snapshot) u uses w v →
      Walks r (room + 1) seen s (.listed (.ok snapshot) :: (Use.ofVisits visits ++ uses))
        ⟨visits ++ w.visits, w.passes + 1, w.ending⟩ v

variable {r : Registry σ κ} {s t : σ}

theorem recorded_keys {listing : Except Fault (List κ)} (listed : r.keys s = (listing, t))
    (uses : List (Use κ)) :
    r.recorded.keys (s, uses) = (listing, t, uses ++ [.listed listing]) := by
  simp [recorded, listed]

theorem recorded_visitAll (r : Registry σ κ) (ks : List κ) (s : σ) (uses : List (Use κ)) :
    r.recorded.visitAll ks (s, uses) =
      ((r.visitAll ks s).1, (r.visitAll ks s).2, uses ++ Use.ofVisits (r.visitAll ks s).1) := by
  induction ks generalizing s uses with
  | nil => simp [visitAll, Use.ofVisits]
  | cons k rest ih =>
    have first : r.recorded.visit k (s, uses) =
        ((r.visit k s).1, (r.visit k s).2, uses ++ [.visited k (r.visit k s).1]) := rfl
    simp only [visitAll, first, ih]
    simp [Use.ofVisits]

theorem visitAll_keys (r : Registry σ κ) (ks : List κ) (s : σ) :
    (r.visitAll ks s).1.map Prod.fst = ks := by
  induction ks generalizing s with
  | nil => rfl
  | cons k rest ih => simp [visitAll, ih]

variable [DecidableEq κ]

theorem mem_unseen {k : κ} {seen ks : List κ} : k ∈ unseen seen ks ↔ k ∈ ks ∧ k ∉ seen := by
  induction ks generalizing seen with
  | nil => simp [unseen]
  | cons first rest ih =>
    unfold unseen
    split
    · rename_i known
      rw [ih, List.mem_cons]
      constructor
      · exact fun ⟨member, new⟩ => ⟨.inr member, new⟩
      · rintro ⟨rfl | member, new⟩
        · exact absurd known new
        · exact ⟨member, new⟩
    · rename_i unknown
      by_cases same : k = first
      · simp [same, unknown]
      · simp [ih, same]

theorem unseen_nodup (seen ks : List κ) : (unseen seen ks).Nodup := by
  induction ks generalizing seen with
  | nil => exact .nil
  | cons first rest ih =>
    unfold unseen
    split
    · exact ih seen
    · refine List.nodup_cons.mpr ⟨fun again => ?_, ih _⟩
      exact (mem_unseen.mp again).2 List.mem_cons_self

/-- What is new in a listing depends on which keys were seen, not on how often or in which order. -/
theorem unseen_congr {seen known : List κ} (same : ∀ k, k ∈ seen ↔ k ∈ known) (ks : List κ) :
    unseen seen ks = unseen known ks := by
  induction ks generalizing seen known with
  | nil => rfl
  | cons first rest ih =>
    have further (k : κ) : k ∈ first :: seen ↔ k ∈ first :: known := by
      rw [List.mem_cons, List.mem_cons, same]
    simp only [unseen, same first, ih same, ih further]

/-- Of two listings, the second one shows what the first one has not shown. -/
theorem unseen_append (seen ks ls : List κ) :
    unseen seen (ks ++ ls) = unseen seen ks ++ unseen (seen ++ unseen seen ks) ls := by
  induction ks generalizing seen with
  | nil => simp [unseen]
  | cons first rest ih =>
    rw [List.cons_append, unseen, unseen]
    split
    · exact ih seen
    · have moved (k : κ) : k ∈ first :: seen ++ unseen (first :: seen) rest ↔
          k ∈ seen ++ first :: unseen (first :: seen) rest := by
        simp only [List.cons_append, List.mem_cons, List.mem_append]
        tauto
      rw [ih, unseen_congr moved, List.cons_append]

theorem unseen_eq (seen ks : List κ) :
    unseen seen ks = (ks.filter fun k => k ∉ seen).eraseDups := by
  induction ks generalizing seen with
  | nil => rfl
  | cons first rest ih =>
    unfold unseen
    split
    · rename_i known
      rw [List.filter_cons_of_neg (by simpa using known), ih]
    · rename_i unknown
      rw [List.filter_cons_of_pos (by simpa using unknown), List.eraseDups_cons, ih,
        List.filter_filter]
      congr 2
      refine List.filter_congr fun k _ => ?_
      simp [List.mem_cons, Bool.beq_eq_decide_eq]

theorem unseen_nil_eq (ks : List κ) : unseen [] ks = ks.eraseDups := by
  rw [unseen_eq, List.filter_eq_self.mpr (by simp)]

/-- Recording does not change a walk, and what it records is all that the walk does. -/
theorem recorded_walkFrom (r : Registry σ κ) (room : Nat) (seen : List κ) (s : σ)
    (uses : List (Use κ)) :
    ∃ later, r.recorded.walkFrom room seen (s, uses) =
        ((r.walkFrom room seen s).1, (r.walkFrom room seen s).2, uses ++ later) ∧
      r.Walks room seen s later (r.walkFrom room seen s).1 (r.walkFrom room seen s).2 := by
  induction room generalizing seen s uses with
  | zero =>
    rcases listed : r.keys s with ⟨_ | snapshot, t⟩
    · rw [walkFrom_unlisted listed, walkFrom_unlisted (recorded_keys listed uses)]
      exact ⟨_, rfl, .unlisted listed⟩
    · rw [walkFrom_listed listed, walkFrom_listed (recorded_keys listed uses)]
      cases pending : unseen seen snapshot with
      | nil => exact ⟨_, rfl, .complete listed pending⟩
      | cons k rest =>
        have new : unseen seen snapshot ≠ [] := pending ▸ List.cons_ne_nil k rest
        have limited := Walks.limited listed new
        rw [pending] at limited
        exact ⟨_, rfl, limited⟩
  | succ room ih =>
    rcases listed : r.keys s with ⟨_ | snapshot, t⟩
    · rw [walkFrom_unlisted listed, walkFrom_unlisted (recorded_keys listed uses)]
      exact ⟨_, rfl, .unlisted listed⟩
    · rw [walkFrom_listed listed, walkFrom_listed (recorded_keys listed uses)]
      cases pending : unseen seen snapshot with
      | nil => exact ⟨_, rfl, .complete listed pending⟩
      | cons k rest =>
        have new : unseen seen snapshot ≠ [] := pending ▸ List.cons_ne_nil k rest
        obtain ⟨later, same, walks⟩ := ih (seen ++ k :: rest) (r.visitAll (k :: rest) t).2
          ((uses ++ [.listed (.ok snapshot)]) ++ Use.ofVisits (r.visitAll (k :: rest) t).1)
        simp only [recorded_visitAll, same]
        refine ⟨.listed (.ok snapshot) :: (Use.ofVisits (r.visitAll (k :: rest) t).1 ++ later),
          by simp, ?_⟩
        rw [← pending] at walks ⊢
        exact .pass listed new rfl walks

namespace Walks
variable {room : Nat} {seen : List κ} {uses : List (Use κ)} {w : Walk κ}

theorem passes_le (walks : r.Walks room seen s uses w t) : w.passes ≤ room := by
  induction walks with
  | unlisted | complete | limited => exact Nat.zero_le _
  | pass _ _ _ _ ih => exact Nat.add_le_add_right ih 1

theorem visits (walks : r.Walks room seen s uses w t) : uses.filterMap Use.visit? = w.visits := by
  induction walks with
  | unlisted | complete | limited => rfl
  | pass _ _ _ _ ih =>
    rw [List.filterMap_cons_none rfl, List.filterMap_append, Use.filterMap_visit?_ofVisits, ih]

/-- Every pass begins with a listing, and a last one ends the walk. -/
theorem listings (walks : r.Walks room seen s uses w t) :
    uses.countP Use.isListing = w.passes + 1 := by
  induction walks with
  | unlisted | complete | limited => rfl
  | pass _ _ _ _ ih =>
    rw [List.countP_cons_of_pos rfl, List.countP_append, Use.countP_isListing_ofVisits, ih,
      Nat.zero_add]

/-- The keys that are visited are those that the listings of the passes show, at the first place
where one of them shows it, less those that were seen before. -/
theorem keys (walks : r.Walks room seen s uses w t) :
    w.visits.map Prod.fst =
      unseen seen ((uses.filterMap Use.snapshot?).take w.passes).flatten := by
  induction walks with
  | unlisted | complete | limited => simp [unseen]
  | pass listed _ visited _ ih =>
    have first := visitAll_keys r _ _ |>.symm.trans (congrArg (List.map Prod.fst ·.1) visited)
    rw [Use.filterMap_snapshot?_pass, List.take_succ_cons, List.flatten_cons, unseen_append, ← ih,
      List.map_append, ← first]

theorem snapshots_length (walks : r.Walks room seen s uses w t)
    (listed : ∀ f, w.ending ≠ .unlisted f) :
    (uses.filterMap Use.snapshot?).length = w.passes + 1 := by
  induction walks with
  | unlisted => exact absurd rfl (listed _)
  | complete | limited => rfl
  | pass _ _ _ _ ih => rw [Use.filterMap_snapshot?_pass, List.length_cons, ih listed]

end Walks
end Registry

namespace Walk
variable {κ : Type}

/-- A visit resets an entry, or skips it, or is refused. -/
theorem report_total (w : Walk κ) :
    w.report.visited = w.report.reset + w.report.skipped + w.report.failed := by
  unfold Walk.report
  induction w.visits with
  | nil => rfl
  | cons visit rest ih =>
    obtain ⟨k, outcome⟩ := visit
    cases outcome <;>
      simp only [List.length_cons, List.countP_cons, VisitOutcome.isReset, VisitOutcome.isSkipped,
        VisitOutcome.isRefused] at ih ⊢ <;> grind

theorem report_of_result {w : Walk κ} {report : ScrubReport} (finished : w.result = .ok report) :
    w.report = report ∧ ∀ f, w.ending ≠ .unlisted f := by
  unfold Walk.result at finished
  split at finished
  · cases finished
  · rename_i listed
    exact ⟨Except.ok.inj finished, listed⟩

end Walk

/-- How a report accounts for the uses that a walk of at most so many passes made of a registry. -/
structure ScrubReport.Accounts {κ : Type} [DecidableEq κ] (report : ScrubReport) (maxPasses : Nat)
    (uses : List (Registry.Use κ)) : Prop where
  passes : report.passes ≤ max 1 maxPasses
  listings : uses.countP Registry.Use.isListing = report.passes + 1
  /-- None of the listings failed. -/
  snapshots : (uses.filterMap Registry.Use.snapshot?).length = report.passes + 1
  keys : (uses.filterMap Registry.Use.visit?).map Prod.fst =
    ((uses.filterMap Registry.Use.snapshot?).take report.passes).flatten.eraseDups
  once : ((uses.filterMap Registry.Use.visit?).map Prod.fst).Nodup
  visited : report.visited = (uses.filterMap Registry.Use.visit?).length
  reset : report.reset = (uses.filterMap Registry.Use.visit?).countP (·.2 matches .reset)
  skipped : report.skipped =
    (uses.filterMap Registry.Use.visit?).countP (·.2 matches .absent _ | .vacant)
  failed : report.failed = (uses.filterMap Registry.Use.visit?).countP (·.2 matches .refused _)
  total : report.visited = report.reset + report.skipped + report.failed

namespace Registry
variable {σ κ : Type} [DecidableEq κ]

theorem Walks.accounts {r : Registry σ κ} {s t : σ} {maxPasses : Nat} {uses : List (Use κ)}
    {w : Walk κ} (walks : r.Walks (max 1 maxPasses) [] s uses w t)
    (listed : ∀ f, w.ending ≠ .unlisted f) : w.report.Accounts maxPasses uses where
  passes := walks.passes_le
  listings := walks.listings
  snapshots := walks.snapshots_length listed
  keys := by
    rw [walks.visits, walks.keys, unseen_nil_eq]
    rfl
  once := by
    rw [walks.visits, walks.keys]
    exact unseen_nodup _ _
  visited := by
    rw [walks.visits]
    rfl
  reset := by
    rw [walks.visits]
    exact List.countP_congr fun ⟨_, outcome⟩ _ => by cases outcome <;> rfl
  skipped := by
    rw [walks.visits]
    exact List.countP_congr fun ⟨_, outcome⟩ _ => by cases outcome <;> rfl
  failed := by
    rw [walks.visits]
    exact List.countP_congr fun ⟨_, outcome⟩ _ => by cases outcome <;> rfl
  total := w.report_total

/-- A walk that comes to a report has looked at each key at most once. Its visits go through the
keys of the snapshots with which its passes began, each key where it was first shown; it listed the
keys once more than it made passes, and the counters of its report are numbers of visits. -/
theorem walk_visits_each_key_once (r : Registry σ κ) (maxPasses : Nat) (s : σ)
    (report : ScrubReport) (finished : (r.walk maxPasses s).1.result = .ok report) :
    ∃ uses, r.recorded.walk maxPasses (s, []) =
        ((r.walk maxPasses s).1, (r.walk maxPasses s).2, uses) ∧
      report.Accounts maxPasses uses := by
  obtain ⟨uses, same, walks⟩ := r.recorded_walkFrom (max 1 maxPasses) [] s []
  obtain ⟨rfl, listed⟩ := Walk.report_of_result finished
  exact ⟨uses, same, walks.accounts listed⟩

end Registry

namespace Scripted
open Session

/-- The unruly registry is listed twice, with every key twice over, though no pass is asked for. The
first entry is refused, the second is gone by then, the third cannot be looked up and the fourth has
no module. The entry that the first one made is listed, but not visited any more. -/
theorem unruly_registry_is_accounted_for :
    ∃ report, (shownTwice.mapped.registry.walk 0 { entries := unruly }).1.result = .ok report ∧
      report.Accounts 0
        (shownTwice.mapped.registry.recorded.walk 0 ({ entries := unruly }, [])).2.2 ∧
      report = { visited := 4, reset := 0, skipped := 3, failed := 1, passes := 1 } ∧
      ((shownTwice.mapped.registry.recorded.walk 0
        ({ entries := unruly }, [])).2.2.filterMap Registry.Use.visit?).map (·.1.name) =
          ["first", "second", "broken", "empty"] := by
  have report : (shownTwice.mapped.registry.walk 0 { entries := unruly }).1.result.toOption =
      some { visited := 4, reset := 0, skipped := 3, failed := 1, passes := 1 } := by
    decide +kernel
  cases finished : (shownTwice.mapped.registry.walk 0 { entries := unruly }).1.result with
  | error f =>
    rw [finished] at report
    cases report
  | ok other =>
    rw [finished] at report
    cases report
    obtain ⟨uses, same, accounts⟩ := Registry.walk_visits_each_key_once
      shownTwice.mapped.registry 0 { entries := unruly } _ finished
    refine ⟨_, rfl, ?_, rfl, by decide +kernel⟩
    rw [same]
    exact accounts

end Scripted
end WarningCapture
