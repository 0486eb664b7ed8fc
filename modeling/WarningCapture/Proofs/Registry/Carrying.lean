import WarningCapture.Proofs.Registry.Mirroring
import WarningCapture.Proofs.Source.Moving
import WarningCapture.Registry.Loaded

/-! Registries that are carried over into others. If a map of states takes what the one registry
does to what the other does, as long as an invariant of the first one holds, then it takes walks to
walks. So loaded modules are walked in the same way whether or not a dictionary holds them. -/
namespace WarningCapture

namespace Registry
variable {σ τ κ : Type} {r : Registry σ κ} {q : Registry τ κ} {kept : σ → Prop} {carry : σ → τ}

/-- States that are kept are carried over: the same keys are listed, visits come to the same, and
what is left is kept and is carried over to what is left there. -/
structure Carries (r : Registry σ κ) (q : Registry τ κ) (kept : σ → Prop) (carry : σ → τ) :
    Prop where
  listed : ∀ s, kept s → q.keys (carry s) = ((r.keys s).1, carry (r.keys s).2) ∧ kept (r.keys s).2
  visited : ∀ k s, kept s →
    q.visit k (carry s) = ((r.visit k s).1, carry (r.visit k s).2) ∧ kept (r.visit k s).2

namespace Carries

theorem visitAll (carries : Carries r q kept carry) (ks : List κ) {s : σ} (holds : kept s) :
    q.visitAll ks (carry s) = ((r.visitAll ks s).1, carry (r.visitAll ks s).2) ∧
      kept (r.visitAll ks s).2 := by
  induction ks generalizing s with
  | nil => exact ⟨rfl, holds⟩
  | cons k rest ih =>
    obtain ⟨visited, next⟩ := carries.visited k s holds
    obtain ⟨others, last⟩ := ih next
    simp only [Registry.visitAll, visited, others]
    exact ⟨trivial, last⟩

variable [DecidableEq κ]

theorem walkFrom (carries : Carries r q kept carry) (room : Nat) (seen : List κ) {s : σ}
    (holds : kept s) :
    q.walkFrom room seen (carry s) =
        ((r.walkFrom room seen s).1, carry (r.walkFrom room seen s).2) ∧
      kept (r.walkFrom room seen s).2 := by
  induction room generalizing seen s with
  | zero =>
    obtain ⟨listed, next⟩ := carries.listed s holds
    rcases listing : r.keys s with ⟨f | snapshot, t⟩ <;> rw [listing] at listed next
    · rw [walkFrom_unlisted listing, walkFrom_unlisted listed]
      exact ⟨rfl, next⟩
    · rw [walkFrom_listed listing, walkFrom_listed listed]
      cases unseen seen snapshot <;> exact ⟨rfl, next⟩
  | succ room ih =>
    obtain ⟨listed, next⟩ := carries.listed s holds
    rcases listing : r.keys s with ⟨f | snapshot, t⟩ <;> rw [listing] at listed next
    · rw [walkFrom_unlisted listing, walkFrom_unlisted listed]
      exact ⟨rfl, next⟩
    · rw [walkFrom_listed listing, walkFrom_listed listed]
      cases unseen seen snapshot with
      | nil => exact ⟨rfl, next⟩
      | cons k rest =>
        obtain ⟨visits, left⟩ := carries.visitAll (k :: rest) next
        obtain ⟨walked, last⟩ := ih (seen ++ k :: rest) left
        simp only [visits, walked]
        exact ⟨trivial, last⟩

theorem walk (carries : Carries r q kept carry) (maxPasses : Nat) {s : σ} (holds : kept s) :
    q.walk maxPasses (carry s) = ((r.walk maxPasses s).1, carry (r.walk maxPasses s).2) ∧
      kept (r.walk maxPasses s).2 :=
  carries.walkFrom (max 1 maxPasses) [] holds

end Carries
end Registry

namespace Modules
variable {objects : HostObjects} {scope : Scope} {ms : Modules}

/-- A dictionary holds the modules, and they all stay in place. -/
structure Settled (objects : HostObjects) (scope : Scope) (ms : Modules) : Prop where
  dict : ms.store = .dict
  stay : Module.AllStay objects scope ms.entries

theorem asMapping_resetCache (ms : Modules) (name : String) (m : Module) :
    ms.asMapping.resetCache name m =
      ((ms.resetCache name m).1, (ms.resetCache name m).2.asMapping) := by
  unfold resetCache
  cases m.refusal with
  | some text => rfl
  | none => cases (Table.names m.spawn).contains name <;> rfl

theorem Settled.resetCache (settled : ms.Settled objects scope) {name : String} {m : Module}
    (stays : m.Stays objects scope name) : (ms.resetCache name m).2.Settled objects scope := by
  have grown : Module.AllStay objects scope (Table.putAll m.spawn ms.entries) :=
    settled.stay.putAll stays.spawned
  have cleared : Module.AllStay objects scope
      (Table.put name (some (m.withCache .cleared)) (Table.putAll m.spawn ms.entries)) :=
    grown.put fun inner same => Option.some.inj same ▸ stays.withCache .cleared
  unfold Modules.resetCache
  split
  · exact ⟨settled.dict, grown⟩
  · split
    · exact ⟨settled.dict, grown⟩
    · exact ⟨settled.dict, cleared⟩

/-- Walks over settled modules clear the same caches if a mapping holds them instead. -/
theorem registry_carries (objects : HostObjects) (scope : Scope) :
    registry.Carries registry (Settled objects scope) asMapping where
  listed ms settled := by
    have shown : registry.keys ms = (.ok (Table.names ms.entries), ms) := by
      simp only [registry, listNames, settled.dict]
    rw [shown]
    exact ⟨rfl, settled⟩
  visited name ms settled := by
    have same : ms.asMapping.entries = ms.entries := rfl
    simp only [registry, visit, same]
    rcases found : Table.get? name ms.entries with _ | _ | m
    · exact ⟨rfl, settled⟩
    · exact ⟨rfl, settled⟩
    · exact ⟨ms.asMapping_resetCache name m, settled.resetCache (settled.stay.get? found)⟩

end Modules
end WarningCapture
