import Mathlib.Data.List.Flatten
import WarningCapture.Proofs.Registry.Recording

/-! When a walk is complete. After each pass the keys are listed again, and the walk goes on only if
that shows a key that has not been looked up. So what is present in the end has been looked up, or
the passes are used up and the number of keys that are left is told. -/
namespace WarningCapture

namespace Walk
variable {κ : Type} {w : Walk κ} {maxPasses left other : Nat}

theorem limitNotice_injective (same : limitNotice maxPasses left = limitNotice maxPasses other) :
    left = other := by
  have messages := congrArg (fun n : Log.Notice => n.message.toList) same
  simp only [limitNotice, Log.Component.say, String.toList_append, List.append_cancel_left_eq,
    List.append_cancel_right_eq] at messages
  have digits : Nat.toDigits 10 left = Nat.toDigits 10 other := by
    simpa [Nat.repr_eq_ofList_toDigits] using messages
  have value : ∀ n, Nat.ofDigitChars 10 (Nat.toDigits 10 n) 0 = n := by
    intro n
    exact Nat.ofDigitChars_toDigits (by omega) (by omega)
  rw [← value left, digits, value]

/-- Visits say nothing louder than what helps to find a fault. -/
theorem notice?_level {outcome : VisitOutcome} {n : Log.Notice} (said : outcome.notice? = some n) :
    n.level = .debug := by
  cases outcome with
  | absent problem =>
    cases problem <;> cases said
    rfl
  | vacant | reset => cases said
  | refused reason =>
    cases said
    rfl

/-- Only its ending makes a walk say that the passes were used up. -/
theorem limitNotice_mem_iff :
    limitNotice maxPasses left ∈ w.notices maxPasses ↔ w.ending = .limited left := by
  have unsaid : limitNotice maxPasses left ∉ w.visits.filterMap (·.2.notice?) := by
    intro member
    obtain ⟨visit, _, said⟩ := List.mem_filterMap.mp member
    cases notice?_level said
  rw [notices, List.mem_append, or_iff_right unsaid]
  cases w.ending with
  | complete | unlisted => simp
  | limited number =>
    simp only [List.mem_singleton, WalkEnding.limited.injEq]
    constructor
    · intro same
      exact (limitNotice_injective same).symm
    · rintro rfl
      rfl

theorem result_of_limited (limited : w.ending = .limited left) : w.result = .ok w.report := by
  simp [result, limited]

end Walk

namespace Registry
variable {σ κ : Type}

/-- A listing shows everything that is present in the state that it leaves. -/
def Shows (r : Registry σ κ) (present : σ → κ → Prop) : Prop :=
  ∀ s snapshot t, r.keys s = (.ok snapshot, t) → ∀ k, present t k → k ∈ snapshot

namespace Use

/-- What the listings showed, in order. -/
def snapshots (uses : List (Use κ)) : List (List κ) := uses.filterMap snapshot?

/-- The keys that were looked up, in order. -/
def lookedUp (uses : List (Use κ)) : List κ := (uses.filterMap visit?).map Prod.fst

theorem lookedUp_listed (listing : Except Fault (List κ)) (uses : List (Use κ)) :
    lookedUp (listed listing :: uses) = lookedUp uses := rfl

theorem lookedUp_visits (visits : List (κ × VisitOutcome)) (uses : List (Use κ)) :
    lookedUp (ofVisits visits ++ uses) = visits.map Prod.fst ++ lookedUp uses := by
  simp [lookedUp]

end Use

variable {r : Registry σ κ} {s t : σ} [DecidableEq κ]

theorem unseen_sublist (seen ks : List κ) : (unseen seen ks).Sublist ks := by
  induction ks generalizing seen with
  | nil => exact .slnil
  | cons k rest ih =>
    unfold unseen
    split
    · exact (ih seen).cons k
    · exact (ih _).cons_cons k

theorem unseen_eq_nil_iff {seen ks : List κ} : unseen seen ks = [] ↔ ∀ k ∈ ks, k ∈ seen := by
  simp only [List.eq_nil_iff_forall_not_mem, mem_unseen, not_and, not_not]

namespace Walks
variable {room : Nat} {seen : List κ} {uses : List (Use κ)} {w : Walk κ}

/-- A pass looks up what its snapshot shows and was not seen, and then the walk goes on. -/
theorem lookedUp_pass {snapshot : List κ} {visits : List (κ × VisitOutcome)} {u : σ}
    (visited : r.visitAll (unseen seen snapshot) t = (visits, u)) (later : List (Use κ)) :
    Use.lookedUp (.listed (.ok snapshot) :: (Use.ofVisits visits ++ later)) =
      unseen seen snapshot ++ Use.lookedUp later := by
  have keys := visitAll_keys r (unseen seen snapshot) t
  rw [visited] at keys
  rw [Use.lookedUp_listed, Use.lookedUp_visits, keys]

/-- No more keys are looked up than the listings showed. -/
theorem lookedUp_length_le (walks : r.Walks room seen s uses w t) :
    (Use.lookedUp uses).length ≤ (Use.snapshots uses).flatten.length := by
  have looked : Use.lookedUp uses =
      unseen seen ((Use.snapshots uses).take w.passes).flatten := by
    rw [Use.lookedUp, walks.visits, walks.keys]
    rfl
  rw [looked]
  apply List.Sublist.length_le
  exact (unseen_sublist seen _).trans (List.take_sublist _ _).flatten

/-- The last listing leaves the registry as it is in the end. If it shows no key that was neither
seen before nor looked up, the walk is complete; if it does, the passes are used up. -/
theorem ends (walks : r.Walks room seen s uses w t) (listed : ∀ f, w.ending ≠ .unlisted f) :
    ∃ last before, (Use.snapshots uses).getLast? = some last ∧ r.keys before = (.ok last, t) ∧
      ((w.ending = .complete ∧ unseen (seen ++ Use.lookedUp uses) last = []) ∨
        (w.ending = .limited (unseen (seen ++ Use.lookedUp uses) last).length ∧
          w.passes = room ∧ unseen (seen ++ Use.lookedUp uses) last ≠ [])) := by
  induction walks with
  | unlisted => exact absurd rfl (listed _)
  | @complete s t snapshot seen room shown nothing =>
    have same : seen ++ Use.lookedUp [.listed (.ok snapshot)] = seen := List.append_nil seen
    refine ⟨snapshot, s, rfl, shown, .inl ⟨rfl, ?_⟩⟩
    rw [same, nothing]
  | @limited s t snapshot seen shown something =>
    have same : seen ++ Use.lookedUp [.listed (.ok snapshot)] = seen := List.append_nil seen
    refine ⟨snapshot, s, rfl, shown, .inr ⟨?_, rfl, ?_⟩⟩
    · rw [same]
    · rw [same]
      exact something
  | @pass s t snapshot seen visits u room uses w v shown something visited walks ih =>
    obtain ⟨last, before, final, left, ending⟩ := ih listed
    refine ⟨last, before, ?_, left, ?_⟩
    · have later : Use.snapshots (.listed (.ok snapshot) :: (Use.ofVisits visits ++ uses)) =
          snapshot :: Use.snapshots uses := Use.filterMap_snapshot?_pass snapshot visits uses
      rw [later, List.getLast?_cons, final]
      rfl
    · rw [lookedUp_pass visited, ← List.append_assoc]
      simpa using ending

/-- Where listings show nothing that is not seen already, no pass is made. -/
theorem idle (walks : r.Walks room seen s uses w t)
    (known : ∀ snapshot ∈ Use.snapshots uses, ∀ k ∈ snapshot, k ∈ seen) :
    w.passes = 0 ∧ ∀ left, w.ending ≠ .limited left := by
  cases walks with
  | unlisted | complete => simp
  | limited _ something =>
    have nothing := unseen_eq_nil_iff.mpr (known _ (List.mem_singleton_self _))
    exact absurd nothing something
  | @pass _ _ snapshot _ visits _ _ later _ _ _ something =>
    have first : snapshot ∈
        Use.snapshots (.listed (.ok snapshot) :: (Use.ofVisits visits ++ later)) := by
      simp [Use.snapshots, Use.filterMap_snapshot?_pass]
    exact absurd (unseen_eq_nil_iff.mpr (known _ first)) something

/-- Where no listing shows a key that the first one has not shown, the first pass is the last. -/
theorem settled {first : List κ} (walks : r.Walks (room + 1) [] s uses w t)
    (begins : (Use.snapshots uses).head? = some first)
    (known : ∀ snapshot ∈ Use.snapshots uses, ∀ k ∈ snapshot, k ∈ first) :
    w.passes = (if first = [] then 0 else 1) ∧ ∀ left, w.ending ≠ .limited left := by
  cases walks with
  | unlisted => cases begins
  | complete _ nothing =>
    obtain rfl := Option.some.inj begins
    have empty := unseen_eq_nil_iff.mp nothing
    simp_all [List.eq_nil_iff_forall_not_mem]
  | @pass _ _ snapshot _ visits _ _ later _ _ _ something _ rest =>
    have shown : Use.snapshots (.listed (.ok snapshot) :: (Use.ofVisits visits ++ later)) =
        snapshot :: Use.snapshots later := Use.filterMap_snapshot?_pass snapshot visits later
    rw [shown] at begins known
    obtain rfl := Option.some.inj begins
    have nonempty : snapshot ≠ [] := by
      rintro rfl
      exact something rfl
    -- After the first pass all of the first listing is seen, and so is all that comes later.
    obtain ⟨none, unlimited⟩ := rest.idle fun other member k shows => by
      have old := known other (List.mem_cons_of_mem _ member) k shows
      simp [mem_unseen, old]
    refine ⟨?_, unlimited⟩
    rw [none, if_neg nonempty]

end Walks

/-- What a walk of at most so many passes owes for the uses that it made of a registry. -/
structure Exhausts (r : Registry σ κ) (maxPasses : Nat) (w : Walk κ) (t : σ)
    (uses : List (Use κ)) : Prop where
  /-- The walk comes to an end: it lists the keys once more than it may make passes, at most. -/
  listings : uses.countP Use.isListing ≤ max 1 maxPasses + 1
  lookups : (Use.lookedUp uses).length ≤ (Use.snapshots uses).flatten.length
  /-- Unless the walk says otherwise, all that is present in the end was looked up. -/
  complete : ∀ report, w.result = .ok report →
    (∀ left, Walk.limitNotice maxPasses left ∉ w.notices maxPasses) →
    ∀ present, r.Shows present → ∀ k, present t k → k ∈ Use.lookedUp uses
  limited : ∀ left, Walk.limitNotice maxPasses left ∈ w.notices maxPasses →
    (∃ report, w.result = .ok report ∧ report.passes = max 1 maxPasses) ∧ 1 ≤ left ∧
      ∃ last, (Use.snapshots uses).getLast? = some last ∧
        left = (last.filter (· ∉ Use.lookedUp uses)).eraseDups.length
  settled : ∀ first, (Use.snapshots uses).head? = some first →
    (∀ snapshot ∈ Use.snapshots uses, ∀ k ∈ snapshot, k ∈ first) →
    w.passes = (if first = [] then 0 else 1) ∧
      ∀ left, Walk.limitNotice maxPasses left ∉ w.notices maxPasses

theorem Walks.exhausts {maxPasses : Nat} {uses : List (Use κ)} {w : Walk κ}
    (walks : r.Walks (max 1 maxPasses) [] s uses w t) : r.Exhausts maxPasses w t uses where
  listings := by
    rw [walks.listings]
    exact Nat.add_le_add_right walks.passes_le 1
  lookups := walks.lookedUp_length_le
  complete := by
    intro report finished silent present shows k here
    obtain ⟨_, listed⟩ := Walk.report_of_result finished
    obtain ⟨last, before, _, left, ⟨_, nothing⟩ | ⟨limited, _⟩⟩ := walks.ends listed
    · exact unseen_eq_nil_iff.mp nothing k (shows before last t left k here)
    · exact absurd (Walk.limitNotice_mem_iff.mpr limited) (silent _)
  limited := by
    intro left said
    have limited := Walk.limitNotice_mem_iff.mp said
    have listed : ∀ f, w.ending ≠ .unlisted f := by simp [limited]
    obtain ⟨last, _, final, _, ⟨complete, _⟩ | ⟨ending, passes, something⟩⟩ := walks.ends listed
    · cases complete.symm.trans limited
    · obtain rfl := WalkEnding.limited.inj (limited.symm.trans ending)
      refine ⟨⟨_, Walk.result_of_limited limited, passes⟩, ?_, last, final, ?_⟩
      · exact List.length_pos_iff.mpr something
      · rw [List.nil_append, unseen_eq]
  settled := by
    intro first begins known
    obtain ⟨room, some⟩ : ∃ room, max 1 maxPasses = room + 1 :=
      Nat.exists_eq_add_one.mpr (by omega)
    rw [some] at walks
    obtain ⟨passes, unlimited⟩ := walks.settled begins known
    refine ⟨passes, ?_⟩
    intro left said
    exact unlimited left (Walk.limitNotice_mem_iff.mp said)

/-- A walk is complete or says so. It ends, whatever visits do to the registry. Every key that is
present in the registry that it leaves was looked up, unless it says that the passes were used up;
then they were, and it tells how many keys of the last listing were not looked up. Where no listing
shows a key that the first one has not shown, one pass is enough. -/
theorem walk_is_complete_or_says_so (r : Registry σ κ) (maxPasses : Nat) (s : σ) :
    ∃ uses, r.recorded.walk maxPasses (s, []) =
        ((r.walk maxPasses s).1, (r.walk maxPasses s).2, uses) ∧
      r.Exhausts maxPasses (r.walk maxPasses s).1 (r.walk maxPasses s).2 uses := by
  obtain ⟨uses, same, walks⟩ := r.recorded_walkFrom (max 1 maxPasses) [] s []
  exact ⟨uses, same, walks.exhausts⟩

end Registry

theorem Modules.registry_shows :
    Modules.registry.Shows fun ms name => name ∈ Table.names ms.entries := by
  intro ms snapshot after listed name present
  unfold Modules.registry Modules.listNames at listed
  simp only at listed
  split at listed <;> cases listed <;> exact present

namespace Scripted
open Session

/-- Where each name is one object, the keys that are present are the names of the entries. -/
theorem registry_shows {rules : Rules} (single : rules.fresh = false) :
    rules.registry.Shows fun s k => k.number = 0 ∧ k.name ∈ Table.names s.entries := by
  intro s snapshot t listed k present
  change rules.keys s = (.ok snapshot, t) at listed
  obtain ⟨first, named⟩ := present
  cases due : rules.listingFault? s.listings with
  | some f =>
    rw [keys_failed due] at listed
    cases listed
  | none =>
    rw [keys_listed single due] at listed
    cases listed
    refine List.mem_map.mpr ⟨k.name, ?_, by rw [← first]⟩
    split <;> simp [named]

def endless : Table Behaviour := [("key", .endless)]

/-- Of the endless registry one key is not looked up when two passes are over, and this is said. Of
the unruly one nothing is left, not even what came to be there in the meantime. -/
theorem endless_registry_is_left_unfinished :
    (∃ report, (shownTwice.registry.walk 2 { entries := endless }).1.result = .ok report ∧
      report.passes = 2) ∧
    Walk.limitNotice 2 1 ∈ (shownTwice.registry.walk 2 { entries := endless }).1.notices 2 ∧
    Table.names (shownTwice.registry.walk 8 { entries := unruly }).2.entries =
      ["first", "broken", "empty", "new"] ∧
    ∀ name ∈ ["first", "broken", "empty", "new"], ⟨name, 0⟩ ∈ Registry.Use.lookedUp
      (shownTwice.registry.recorded.walk 8 ({ entries := unruly }, [])).2.2 := by
  have said : Walk.limitNotice 2 1 ∈
      (shownTwice.registry.walk 2 { entries := endless }).1.notices 2 := by decide +kernel
  have left : Table.names (shownTwice.registry.walk 8 { entries := unruly }).2.entries =
      ["first", "broken", "empty", "new"] := by decide +kernel
  have report : (shownTwice.registry.walk 8 { entries := unruly }).1.result.isOk = true := by
    decide +kernel
  have passes : (shownTwice.registry.walk 8 { entries := unruly }).1.passes = 2 := by
    decide +kernel
  obtain ⟨_, _, growing⟩ :=
    Registry.walk_is_complete_or_says_so shownTwice.registry 2 { entries := endless }
  obtain ⟨uses, same, exhausts⟩ :=
    Registry.walk_is_complete_or_says_so shownTwice.registry 8 { entries := unruly }
  refine ⟨(growing.limited 1 said).1, said, left, ?_⟩
  intro name member
  rw [same]
  cases finished : (shownTwice.registry.walk 8 { entries := unruly }).1.result with
  | error f =>
    rw [finished] at report
    cases report
  | ok other =>
    refine exhausts.complete other finished ?_ _ (registry_shows rfl) _ ⟨rfl, left ▸ member⟩
    intro number limited
    obtain ⟨⟨_, again, most⟩, _⟩ := exhausts.limited number limited
    obtain ⟨rfl, _⟩ := Walk.report_of_result again
    cases passes.symm.trans most

end Scripted
end WarningCapture
