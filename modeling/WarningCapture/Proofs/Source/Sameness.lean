import WarningCapture.Source.Path

/-! Paths that name the same source. In its canonical form a path names the source instead of the
compiled file, and two paths are equivalent exactly if their canonical forms agree. So a path is
equivalent to no more than two: its canonical form, and the compiled file if that is a source. -/
namespace WarningCapture.Path

/-- The path of the source, for a compiled file and for the source itself. -/
def canonical (path : String) : String :=
  match stripSuffix? ".pyc".toList path.toList with
  | some stem => String.ofList (stem ++ ".py".toList)
  | none => path

/-- The path of the compiled file, for a source; any other path as it is. -/
def compiled (path : String) : String :=
  match stripSuffix? ".py".toList path.toList with
  | some stem => String.ofList (stem ++ ".pyc".toList)
  | none => path

variable {a b c path form : String} {suffix text stem : List Char}

theorem stripSuffix?_eq_some : stripSuffix? suffix text = some stem ↔ text = stem ++ suffix := by
  unfold stripSuffix?
  split
  · rename_i ends
    obtain ⟨front, rfl⟩ := List.isSuffixOf_iff_suffix.mp ends
    simp
  · rename_i apart
    have other (same : text = stem ++ suffix) : suffix.isSuffixOf text :=
      List.isSuffixOf_iff_suffix.mpr ⟨stem, same.symm⟩
    simpa using mt other apart

theorem stripSuffix?_append (stem suffix : String) :
    stripSuffix? suffix.toList (stem ++ suffix).toList = some stem.toList :=
  stripSuffix?_eq_some.mpr String.toList_append

/-- A text is a stem with the suffix behind it, or there is nothing to strip. -/
theorem exists_append_or_stripSuffix?_eq_none (path suffix : String) :
    (∃ stem, path = stem ++ suffix) ∨ stripSuffix? suffix.toList path.toList = none := by
  cases ends : stripSuffix? suffix.toList path.toList with
  | some stem =>
    refine .inl ⟨String.ofList stem, String.toList_inj.mp ?_⟩
    rw [stripSuffix?_eq_some.mp ends, String.toList_append, String.toList_ofList]
  | none => exact .inr rfl

theorem agree_iff {suffixA suffixB : String} :
    equivalent.agree suffixA a suffixB b = true ↔
      ∃ stem, a = stem ++ suffixA ∧ b = stem ++ suffixB := by
  constructor
  · intro agree
    unfold equivalent.agree at agree
    split at agree
    · rename_i stem other left right
      rw [beq_iff_eq] at agree
      subst agree
      refine ⟨String.ofList stem, ?_, ?_⟩ <;>
        rw [← String.toList_inj, String.toList_append, String.toList_ofList]
      · exact stripSuffix?_eq_some.mp left
      · exact stripSuffix?_eq_some.mp right
    · cases agree
  · rintro ⟨stem, rfl, rfl⟩
    rw [equivalent.agree, stripSuffix?_append, stripSuffix?_append]
    exact beq_self_eq_true stem.toList

theorem canonical_append_pyc (stem : String) : canonical (stem ++ ".pyc") = stem ++ ".py" := by
  simp only [canonical, stripSuffix?_append, String.ofList_append, String.ofList_toList]

theorem compiled_append_py (stem : String) : compiled (stem ++ ".py") = stem ++ ".pyc" := by
  simp only [compiled, stripSuffix?_append, String.ofList_append, String.ofList_toList]

/-- The canonical form told without a search for the stem. -/
theorem canonical_eq_iff : canonical path = form ↔
    (∃ stem, path = stem ++ ".pyc" ∧ form = stem ++ ".py") ∨
      (∀ stem, path ≠ stem ++ ".pyc") ∧ form = path := by
  rcases exists_append_or_stripSuffix?_eq_none path ".pyc" with ⟨stem, rfl⟩ | apart
  · rw [canonical_append_pyc]
    constructor
    · rintro rfl
      exact .inl ⟨stem, rfl, rfl⟩
    · rintro (⟨other, same, rfl⟩ | ⟨no, -⟩)
      · rw [(String.append_left_inj _).mp same]
      · exact absurd rfl (no stem)
  · have no (stem : String) : path ≠ stem ++ ".pyc" := by
      rintro rfl
      rw [stripSuffix?_append] at apart
      cases apart
    have stays : canonical path = path := by rw [canonical, apart]
    simp [stays, no, eq_comm]

/-- No text ends in both suffixes. -/
theorem canonical_append_py (stem : String) : canonical (stem ++ ".py") = stem ++ ".py" := by
  refine canonical_eq_iff.mpr (.inr ⟨fun other same => ?_, rfl⟩)
  have last := congrArg (·.toList.getLast?) same
  simp at last

@[simp] theorem canonical_canonical (path : String) :
    canonical (canonical path) = canonical path := by
  rcases canonical_eq_iff.mp (Eq.refl (canonical path)) with ⟨stem, -, source⟩ | ⟨-, same⟩
  · rw [source, canonical_append_py]
  · rw [same, same]

theorem canonical_compiled (path : String) :
    canonical (compiled (canonical path)) = canonical path := by
  rcases exists_append_or_stripSuffix?_eq_none (canonical path) ".py" with ⟨stem, source⟩ | other
  · rw [source, compiled_append_py, canonical_append_pyc]
  · rw [compiled, other, canonical_canonical]

theorem equivalent_iff : equivalent a b = true ↔ canonical a = canonical b := by
  simp only [equivalent, Bool.or_eq_true, beq_iff_eq, agree_iff]
  constructor
  · rintro ((rfl | ⟨stem, rfl, rfl⟩) | ⟨stem, rfl, rfl⟩)
    · rfl
    · rw [canonical_append_pyc, canonical_append_py]
    · rw [canonical_append_py, canonical_append_pyc]
  · intro same
    rcases canonical_eq_iff.mp same with ⟨stem, rfl, source⟩ | ⟨-, source⟩ <;>
      rcases canonical_eq_iff.mp source with ⟨other, rfl, form⟩ | ⟨-, rfl⟩
    · rw [(String.append_left_inj _).mp form]
      exact .inl (.inl rfl)
    · exact .inl (.inr ⟨stem, rfl, rfl⟩)
    · exact .inr ⟨other, form, rfl⟩
    · exact .inl (.inl rfl)

theorem equivalent_refl (path : String) : equivalent path path = true := equivalent_iff.mpr rfl

theorem equivalent_symm (same : equivalent a b = true) : equivalent b a = true :=
  equivalent_iff.mpr (equivalent_iff.mp same).symm

theorem equivalent_trans (first : equivalent a b = true) (second : equivalent b c = true) :
    equivalent a c = true :=
  equivalent_iff.mpr ((equivalent_iff.mp first).trans (equivalent_iff.mp second))

/-- The class of a path. -/
theorem equivalent_iff_mem :
    equivalent a b = true ↔ b ∈ [canonical a, compiled (canonical a)] := by
  rw [equivalent_iff, eq_comm]
  simp only [List.mem_cons, List.not_mem_nil, or_false]
  constructor
  · intro same
    rcases canonical_eq_iff.mp same with ⟨stem, rfl, source⟩ | ⟨-, source⟩
    · exact .inr (by rw [source, compiled_append_py])
    · exact .inl source.symm
  · rintro (rfl | rfl)
    · exact canonical_canonical a
    · exact canonical_compiled a

/-- Paths are equivalent exactly if they have the same canonical form, which puts `.py` for a `.pyc`
at the end and leaves all other paths as they are. So this is an equivalence relation, and there are
never more than two paths in a class: the canonical form and its compiled file. -/
theorem equivalent_paths_share_canonical_form :
    (∀ path form, canonical path = form ↔
      (∃ stem, path = stem ++ ".pyc" ∧ form = stem ++ ".py") ∨
        (∀ stem, path ≠ stem ++ ".pyc") ∧ form = path) ∧
    (∀ a b, equivalent a b = true ↔ canonical a = canonical b) ∧
    Equivalence (fun a b => equivalent a b = true) ∧
    ∀ a b, equivalent a b = true ↔ b ∈ [canonical a, compiled (canonical a)] :=
  ⟨fun _ _ => canonical_eq_iff, fun _ _ => equivalent_iff,
    ⟨equivalent_refl, equivalent_symm, equivalent_trans⟩, fun _ _ => equivalent_iff_mem⟩

end WarningCapture.Path
