import Mathlib.Data.List.DropRight
import WarningCapture.Log.Logger

/-! Filters and the ceiling above them. The loudest threshold of a filter lets through every level
that the filter allows for some target, so a ceiling that follows the filter costs no line. -/
namespace WarningCapture

namespace Text

/-- Nothing is left to trim at the front once both ends have been trimmed. -/
theorem trimStart_trimChars (cs : List Char) : trimStart (trimChars cs) = trimChars cs := by
  refine List.dropWhile_eq_self_iff.mpr fun nonempty => ?_
  have front : trimChars cs <+: trimStart cs := List.rdropWhile_prefix isBlank _
  have started : trimStart (trimStart cs) = trimStart cs := List.dropWhile_idempotent isBlank cs
  have longer := Nat.lt_of_lt_of_le nonempty front.length_le
  rw [front.getElem nonempty]
  exact List.dropWhile_eq_self_iff.mp started longer

theorem trimChars_trimChars (cs : List Char) : trimChars (trimChars cs) = trimChars cs := by
  rw [trimChars, trimStart_trimChars]
  exact List.rdropWhile_idempotent isBlank _

@[simp] theorem trim_trim (s : String) : trim (trim s) = trim s := by
  simp only [trim, String.toList_ofList, trimChars_trimChars]

end Text

namespace Log.Directives
variable {d : Directives} {t : Threshold}

/-- The threshold is that of the fallback or of an override, and none of these is louder. -/
structure Loudest (d : Directives) (t : Threshold) : Prop where
  among : t = d.fallback ∨ ∃ entry ∈ d.overrides, entry.2 = t
  fallback : d.fallback.rank ≤ t.rank
  overrides : ∀ entry ∈ d.overrides, entry.2.rank ≤ t.rank

theorem rank_louder (a b : Threshold) :
    a.rank ≤ (a.louder b).rank ∧ b.rank ≤ (a.louder b).rank := by
  unfold Threshold.louder
  split <;> omega

theorem loudest_isLoudest (d : Directives) : d.Loudest d.loudest := by
  obtain ⟨fallback, overrides⟩ := d
  unfold loudest
  simp only
  induction overrides generalizing fallback with
  | nil => exact ⟨.inl rfl, Nat.le_refl _, fun _ member => nomatch member⟩
  | cons entry rest ih =>
    obtain ⟨among, above, others⟩ := ih (fallback.louder entry.2)
    obtain ⟨left, right⟩ := rank_louder fallback entry.2
    refine ⟨?_, left.trans above, fun other member => ?_⟩
    · rcases among with same | ⟨other, member, same⟩
      · by_cases quieter : fallback.rank < entry.2.rank
        · refine .inr ⟨entry, List.mem_cons_self, ?_⟩
          simpa [Threshold.louder, quieter] using same.symm
        · refine .inl ?_
          simpa [Threshold.louder, quieter] using same
      · exact .inr ⟨other, List.mem_cons_of_mem entry member, same⟩
    · rcases List.mem_cons.mp member with rfl | member
      · exact right.trans above
      · exact others other member

/-- The most specific of some overrides is one of them. -/
theorem mem_of_moreSpecific {best : Option (String × Threshold)}
    {entries : List (String × Threshold)} {entry : String × Threshold}
    (found : entries.foldl moreSpecific best = some entry) :
    best = some entry ∨ entry ∈ entries := by
  induction entries generalizing best with
  | nil => exact .inl found
  | cons next rest ih =>
    rcases ih found with chosen | member
    · unfold moreSpecific at chosen
      split at chosen
      · exact .inr (List.mem_cons.mpr (.inl (Option.some.inj chosen).symm))
      · split at chosen
        · exact .inl chosen
        · exact .inr (List.mem_cons.mpr (.inl (Option.some.inj chosen).symm))
    · exact .inr (List.mem_cons_of_mem next member)

theorem threshold_among (d : Directives) (target : String) :
    d.threshold target = d.fallback ∨ ∃ entry ∈ d.overrides, entry.2 = d.threshold target := by
  unfold threshold
  simp only
  split
  · rename_i entry found
    rcases mem_of_moreSpecific found with nothing | member
    · cases nothing
    · exact .inr ⟨entry, List.mem_of_mem_filter member, rfl⟩
  · exact .inl rfl

/-- What a filter allows for some target its loudest threshold lets through. -/
theorem Loudest.admits (loudest : d.Loudest t) {target : String} {level : Level}
    (allowed : d.allows target level = true) : t.admits level = true := by
  simp only [allows, Threshold.admits, decide_eq_true_eq] at allowed ⊢
  rcases d.threshold_among target with same | ⟨entry, member, same⟩
  · rw [same] at allowed
    exact allowed.trans loudest.fallback
  · rw [← same] at allowed
    exact allowed.trans (loudest.overrides entry member)

end Log.Directives
end WarningCapture
