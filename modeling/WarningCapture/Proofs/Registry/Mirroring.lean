import Mathlib.Data.List.Forall2
import WarningCapture.Session.Scrubbing
import WarningCapture.Session.Trace

/-! Registries that mirror one another. Walks over them visit the same keys in the same order, come
to the same report or fail together, and leave the same behind, whatever the visits do to the
registry. A registry of the host with one object for each key mirrors the one reached by name. -/
namespace WarningCapture

/-- Outcomes of one kind, which may give their reasons differently. -/
inductive VisitOutcome.Alike : VisitOutcome → VisitOutcome → Prop where
  | absent (problem other : Option Fault) : Alike (absent problem) (absent other)
  | vacant : Alike vacant vacant
  | reset : Alike reset reset
  | refused (reason other : String) : Alike (refused reason) (refused other)

inductive WalkEnding.Alike : WalkEnding → WalkEnding → Prop where
  | complete : Alike complete complete
  | limited (left : Nat) : Alike (limited left) (limited left)
  | unlisted (f g : Fault) : Alike (unlisted f) (unlisted g)

namespace Walk
variable {κ : Type}

/-- The same keys were visited in the same order, with outcomes alike, in as many passes. -/
structure Alike (w v : Walk κ) : Prop where
  visits : List.Forall₂ (fun a b => a.1 = b.1 ∧ a.2.Alike b.2) w.visits v.visits
  passes : w.passes = v.passes
  ending : w.ending.Alike v.ending

variable {w v : Walk κ}

theorem countP_alike {kind : VisitOutcome → Bool}
    (same : ∀ {a b : VisitOutcome}, a.Alike b → kind a = kind b)
    {xs ys : List (κ × VisitOutcome)}
    (alike : List.Forall₂ (fun a b => a.1 = b.1 ∧ a.2.Alike b.2) xs ys) :
    xs.countP (kind ·.2) = ys.countP (kind ·.2) := by
  induction alike with
  | nil => rfl
  | cons here _ ih => rw [List.countP_cons, List.countP_cons, ih, same here.2]

theorem Alike.report (alike : w.Alike v) : w.report = v.report := by
  have reset : w.visits.countP (·.2.isReset) = v.visits.countP (·.2.isReset) :=
    countP_alike (fun same => by cases same <;> rfl) alike.visits
  have skipped : w.visits.countP (·.2.isSkipped) = v.visits.countP (·.2.isSkipped) :=
    countP_alike (fun same => by cases same <;> rfl) alike.visits
  have refused : w.visits.countP (·.2.isRefused) = v.visits.countP (·.2.isRefused) :=
    countP_alike (fun same => by cases same <;> rfl) alike.visits
  simp only [Walk.report, alike.visits.length_eq, reset, skipped, refused, alike.passes]

/-- Both walks fail, or both come to the same report. -/
theorem Alike.result (alike : w.Alike v) :
    (∃ f g, w.result = .error f ∧ v.result = .error g) ∨
      ∃ report, w.result = .ok report ∧ v.result = .ok report := by
  have report := alike.report
  have ending := alike.ending
  unfold Walk.result
  cases ends : w.ending <;> cases others : v.ending <;> rw [ends, others] at ending <;>
    cases ending
  · exact .inr ⟨_, rfl, by rw [report]⟩
  · exact .inr ⟨_, rfl, by rw [report]⟩
  · exact .inl ⟨_, _, rfl, rfl⟩

end Walk

namespace Registry
variable {σ κ : Type}

/-- Listings of the two registries fail together or show the same, and visits come to the same. -/
structure Mirrors (r q : Registry σ κ) : Prop where
  listed : ∀ s, (∃ f g t, r.keys s = (.error f, t) ∧ q.keys s = (.error g, t)) ∨
    ∃ snapshot t, r.keys s = (.ok snapshot, t) ∧ q.keys s = (.ok snapshot, t)
  visited : ∀ k s, (r.visit k s).1.Alike (q.visit k s).1 ∧ (r.visit k s).2 = (q.visit k s).2

variable {r q : Registry σ κ}

theorem Mirrors.visitAll (mirrors : r.Mirrors q) (ks : List κ) (s : σ) :
    List.Forall₂ (fun a b => a.1 = b.1 ∧ a.2.Alike b.2) (r.visitAll ks s).1 (q.visitAll ks s).1 ∧
      (r.visitAll ks s).2 = (q.visitAll ks s).2 := by
  induction ks generalizing s with
  | nil => exact ⟨.nil, rfl⟩
  | cons k rest ih =>
    obtain ⟨alike, same⟩ := mirrors.visited k s
    obtain ⟨visits, left⟩ := ih (q.visit k s).2
    simp only [Registry.visitAll, same]
    exact ⟨.cons ⟨rfl, alike⟩ visits, left⟩

variable [DecidableEq κ]

theorem walkFrom_unlisted {s t : σ} {f : Fault} (unlisted : r.keys s = (.error f, t)) (room : Nat)
    (seen : List κ) : r.walkFrom room seen s = (⟨[], 0, .unlisted f⟩, t) := by
  rw [walkFrom, unlisted]

/-- One pass: with room left, the unseen keys are visited before the walk goes on. -/
theorem walkFrom_listed {s t : σ} {snapshot : List κ} (listed : r.keys s = (.ok snapshot, t))
    (room : Nat) (seen : List κ) :
    r.walkFrom room seen s =
      match unseen seen snapshot, room with
      | [], _ => (⟨[], 0, .complete⟩, t)
      | pending, 0 => (⟨[], 0, .limited pending.length⟩, t)
      | pending, room + 1 =>
          let rest := r.walkFrom room (seen ++ pending) (r.visitAll pending t).2
          (⟨(r.visitAll pending t).1 ++ rest.1.visits, rest.1.passes + 1, rest.1.ending⟩,
            rest.2) := by
  cases pending : unseen seen snapshot <;> cases room <;> rw [walkFrom, listed] <;>
    simp only [pending]

/-- Walks over registries that mirror one another do the same in every pass. -/
theorem Mirrors.walkFrom (mirrors : r.Mirrors q) (room : Nat) (seen : List κ) (s : σ) :
    (r.walkFrom room seen s).1.Alike (q.walkFrom room seen s).1 ∧
      (r.walkFrom room seen s).2 = (q.walkFrom room seen s).2 := by
  induction room generalizing seen s with
  | zero =>
    rcases mirrors.listed s with ⟨f, g, t, failed, other⟩ | ⟨snapshot, t, listed, other⟩
    · rw [walkFrom_unlisted failed, walkFrom_unlisted other]
      exact ⟨⟨.nil, rfl, .unlisted f g⟩, rfl⟩
    · rw [walkFrom_listed listed, walkFrom_listed other]
      cases unseen seen snapshot with
      | nil => exact ⟨⟨.nil, rfl, .complete⟩, rfl⟩
      | cons k rest => exact ⟨⟨.nil, rfl, .limited _⟩, rfl⟩
  | succ room ih =>
    rcases mirrors.listed s with ⟨f, g, t, failed, other⟩ | ⟨snapshot, t, listed, other⟩
    · rw [walkFrom_unlisted failed, walkFrom_unlisted other]
      exact ⟨⟨.nil, rfl, .unlisted f g⟩, rfl⟩
    · rw [walkFrom_listed listed, walkFrom_listed other]
      cases unseen seen snapshot with
      | nil => exact ⟨⟨.nil, rfl, .complete⟩, rfl⟩
      | cons k rest =>
        obtain ⟨visits, left⟩ := mirrors.visitAll (k :: rest) t
        obtain ⟨alike, state⟩ := ih (seen ++ k :: rest) (q.visitAll (k :: rest) t).2
        simp only [left]
        exact ⟨⟨List.rel_append visits alike.visits, by rw [alike.passes], alike.ending⟩, state⟩

theorem Mirrors.walk (mirrors : r.Mirrors q) (maxPasses : Nat) (s : σ) :
    (r.walk maxPasses s).1.Alike (q.walk maxPasses s).1 ∧
      (r.walk maxPasses s).2 = (q.walk maxPasses s).2 :=
  mirrors.walkFrom (max 1 maxPasses) [] s

end Registry

namespace Scripted

/-- The registry as it is reached directly. A mapping that has no listings at all corresponds to a
registry whose first listing fails. -/
def Rules.direct (rules : Rules) : Rules :=
  { rules with
    access := .direct
    failAt := if rules.unlistable.isSome then some 1 else rules.failAt }

/-- The registry as it is reached through a mapping. -/
def Rules.mapped (rules : Rules) : Rules := { rules with access := .mapping }

theorem resetEntry_mirrors (rules : Rules) (name : String) (s : State) (b : Behaviour) :
    (rules.direct.resetEntry name s b).1.Alike (rules.mapped.resetEntry name s b).1 ∧
      (rules.direct.resetEntry name s b).2 = (rules.mapped.resetEntry name s b).2 := by
  cases b with
  | vacant => exact ⟨.vacant, rfl⟩
  | plain | endless => exact ⟨.reset, rfl⟩
  | scripted lookup remove spawn refusal =>
    cases refusal with
    | none => exact ⟨.reset, rfl⟩
    | some text => exact ⟨.refused _ _, rfl⟩

theorem visit_mirrors (rules : Rules) (key : Key) (s : State) :
    (rules.direct.visit key s).1.Alike (rules.mapped.visit key s).1 ∧
      (rules.direct.visit key s).2 = (rules.mapped.visit key s).2 := by
  unfold Rules.visit
  simp only
  split
  · exact ⟨.absent _ _, rfl⟩
  · exact ⟨.absent _ _, rfl⟩
  · exact resetEntry_mirrors rules _ _ _

/-- The keys of the moment, where each name is one object. -/
def Rules.shown (rules : Rules) (s : State) : List Key :=
  (if rules.doubled then Table.names s.entries ++ Table.names s.entries
    else Table.names s.entries).map fun name => ⟨name, 0⟩

theorem keys_failed {rules : Rules} {s : State} {f : Fault}
    (due : rules.listingFault? s.listings = some f) :
    rules.keys s = (.error f, { s with listings := s.listings + 1 }) := by
  rw [Rules.keys, due]

theorem keys_listed {rules : Rules} {s : State} (single : rules.fresh = false)
    (listable : rules.listingFault? s.listings = none) :
    rules.keys s = (.ok (rules.shown s), { s with listings := s.listings + 1 }) := by
  simp [Rules.keys, listable, single, Rules.shown]

theorem registry_mirrors {rules : Rules} (single : rules.fresh = false)
    (listable : rules.unlistable = none) :
    rules.direct.registry.Mirrors rules.mapped.registry where
  listed s := by
    have same : rules.direct.listingFault? s.listings = rules.mapped.listingFault? s.listings := by
      simp [Rules.listingFault?, Rules.direct, Rules.mapped, listable]
    cases due : rules.mapped.listingFault? s.listings with
    | some f => exact .inl ⟨f, f, _, keys_failed (same.trans due), keys_failed due⟩
    | none => exact .inr ⟨_, _, keys_listed single (same.trans due), keys_listed single due⟩
  visited := visit_mirrors rules

/-- A mapping without listings is not walked at all. -/
theorem walk_mirrors {rules : Rules} (single : rules.fresh = false) (maxPasses : Nat)
    (entries : Table Behaviour) :
    (rules.direct.registry.walk maxPasses { entries }).1.Alike
        (rules.mapped.registry.walk maxPasses { entries }).1 ∧
      (rules.direct.registry.walk maxPasses { entries }).2 =
        (rules.mapped.registry.walk maxPasses { entries }).2 := by
  cases unlistable : rules.unlistable with
  | none => exact (registry_mirrors single unlistable).walk maxPasses _
  | some f =>
    have failed : rules.direct.registry.keys { entries } =
        (.error (.raised "ValueError" "keys broke"), { entries, listings := 1 }) :=
      keys_failed (by simp [Rules.listingFault?, Rules.direct, unlistable])
    have other : rules.mapped.registry.keys { entries } = (.error f, { entries, listings := 1 }) :=
      keys_failed (by simp [Rules.listingFault?, Rules.mapped, unlistable])
    unfold Registry.walk
    rw [Registry.walkFrom_unlisted failed, Registry.walkFrom_unlisted other]
    exact ⟨⟨.nil, rfl, .unlisted _ _⟩, rfl⟩

end Scripted

namespace Session
open Scripted

theorem walkScripted_walk (s : Session) (rules : Rules) (maxPasses : Nat) (x : State) :
    (s.walkScripted rules maxPasses x).1 =
        (rules.registry.walk maxPasses x).1.result.mapError listingFailed ∧
      (s.walkScripted rules maxPasses x).2.1 = (rules.registry.walk maxPasses x).2 :=
  ⟨rfl, rfl⟩

/-- Through the mapping, the passes are those that the policy allows, and a failure is raised. -/
theorem scrubScripted_walk (s : Session) (rules : Rules) (x : State) :
    (s.scrubScripted rules x).1 =
        ((rules.registry.walk s.policy.maxScrubPasses x).1.result.mapError
          fun f => .reported (scanFailed f)) ∧
      (s.scrubScripted rules x).2.1 = (rules.registry.walk s.policy.maxScrubPasses x).2 := by
  unfold scrubScripted scrubWith
  cases result : (rules.registry.walk s.policy.maxScrubPasses x).1.result with
  | ok report => simp [result, Except.mapError]
  | error f => simp [result, Except.mapError]

/-- A scripted registry whose keys are one object for each name is scrubbed through a mapping as it
is scrubbed directly, with the passes that the policy allows: both fail or both come to the same
report, and both leave the same state, with the same lookups and resets made on the way and the same
keys in the same order. -/
theorem mapping_is_scrubbed_as_directly (s t : Session) (rules : Rules) (entries : Table Behaviour)
    (single : rules.fresh = false) :
    ((∃ err raised,
        (s.walkScripted rules.direct t.policy.maxScrubPasses { entries }).1 = .error err ∧
        (t.scrubScripted rules.mapped { entries }).1 = .error (.reported raised) ∧
        raised.code = .registryScanFailed) ∨
      ∃ report, (s.walkScripted rules.direct t.policy.maxScrubPasses { entries }).1 = .ok report ∧
        (t.scrubScripted rules.mapped { entries }).1 = .ok report) ∧
    (s.walkScripted rules.direct t.policy.maxScrubPasses { entries }).2.1 =
      (t.scrubScripted rules.mapped { entries }).2.1 := by
  obtain ⟨direct, left⟩ := s.walkScripted_walk rules.direct t.policy.maxScrubPasses { entries }
  obtain ⟨mapped, leftThere⟩ := t.scrubScripted_walk rules.mapped { entries }
  obtain ⟨alike, same⟩ := walk_mirrors single t.policy.maxScrubPasses entries
  refine ⟨?_, by rw [left, leftThere, same]⟩
  rw [direct, mapped]
  rcases alike.result with ⟨f, g, failed, other⟩ | ⟨report, ok, other⟩
  · rw [failed, other]
    exact .inl ⟨_, _, rfl, rfl, rfl⟩
  · rw [ok, other]
    exact .inr ⟨report, rfl, rfl⟩

/-- Resetting the first entry removes the second, enters a new one, takes the place of its own and
is refused; another entry cannot be looked up, and one has no module. -/
def unruly : Table Behaviour :=
  [("first", .scripted none ["second"] [("new", .plain), ("first", .vacant)] (some "refused")),
    ("second", .plain),
    ("broken", .scripted (some (.raised "ValueError" "lookup broke")) [] [] none),
    ("empty", .vacant)]

def shownTwice : Rules := { access := .mapping, doubled := true }

theorem unruly_registry_is_scrubbed_alike :
    shownTwice.fresh = false ∧
    ((Session.start {} {} [] {} [] "/").scrubScripted shownTwice.mapped { entries := unruly }).1 =
      .ok { visited := 5, reset := 1, skipped := 3, failed := 1, passes := 2 } ∧
    ((Session.start {} {} [] {} [] "/").scrubScripted shownTwice.mapped
      { entries := unruly }).2.1.looked = ["first", "second", "broken", "empty", "new"] := by
  let s := Session.start {} {} [] {} [] "/"
  have report : (s.walkScripted shownTwice.direct s.policy.maxScrubPasses
      { entries := unruly }).1.toOption =
        some { visited := 5, reset := 1, skipped := 3, failed := 1, passes := 2 } := by
    decide +kernel
  obtain ⟨outcome, left⟩ := mapping_is_scrubbed_as_directly s s shownTwice unruly rfl
  refine ⟨rfl, ?_, ?_⟩
  · rcases outcome with ⟨err, _, failed, _⟩ | ⟨other, direct, mapped⟩
    · rw [failed] at report
      cases report
    · rw [direct] at report
      cases report
      exact mapped
  · rw [← left]
    decide +kernel

end Session
end WarningCapture
