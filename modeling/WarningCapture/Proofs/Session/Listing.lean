import WarningCapture.Proofs.Session.Flushing
import WarningCapture.Proofs.Source.Spanning

/-! The lines that a function spans, listed. The list and a flush with the function as its only
target read one resolution: they fail alike, and the lines in the list are those of which a flush
would take a record, if it named the right file. -/
namespace WarningCapture

namespace Session
variable {objects : HostObjects} {s : Session} {buffer target : String} {r : Record}

/-- A flush with the one target would take the record, if it were pending too. -/
def WouldTake (objects : HostObjects) (s : Session) (buffer target : String) (r : Record) : Prop :=
  ∃ taken, ((s.place buffer r).flush objects buffer (some (.ok [target]))).1 = .ok taken ∧ r ∈ taken

/-- A record that is put in a buffer does not change what targets stand for. -/
theorem place_resolve (names : List String) :
    (s.place buffer r).resolve objects names = s.resolve objects names := rfl

theorem pendingIn_place : (s.place buffer r).pendingIn buffer = s.pendingIn buffer ++ [r] :=
  pendingIn_setBuffer_self s buffer _

theorem wouldTake_iff {resolved : Resolution} (found : s.resolve objects [target] = .ok resolved) :
    s.WouldTake objects buffer target r ↔ resolved.claimsRecord s.cwd r = true := by
  obtain ⟨taken, -⟩ := flush_resolved buffer ((place_resolve (r := r) [target]).trans found)
  rw [WouldTake, taken, pendingIn_place]
  constructor
  · rintro ⟨_, ⟨⟩, member⟩
    exact (List.mem_filter.mp member).2
  · intro claimed
    exact ⟨_, rfl, List.mem_filter.mpr ⟨by simp, claimed⟩⟩

theorem functionLines_refused {err : CaptureError}
    (refused : s.resolve objects [target] = .error err) :
    s.functionLines objects target = (.error (.reported err), s.report err) := by
  rw [functionLines, refused]
  rfl

theorem functionLines_resolved {resolved : Resolution}
    (found : s.resolve objects [target] = .ok resolved) :
    (s.functionLines objects target).1 = .ok resolved.lines := by
  rw [functionLines, found]

/-- Listing the lines of an object and flushing with it as the only target fail together, with the
same error. Otherwise the lines are listed in ascending order, they are positive and fit 32 bits,
and a line is listed just if there is a file such that the flush would take the records that name
the file and the line, whatever else they are. So what the flush takes is on lines of the list. -/
theorem function_lines_agree_with_flush (objects : HostObjects) (s : Session)
    (buffer target : String) :
    (∀ f, (s.functionLines objects target).1 = .error f ↔
      (s.flush objects buffer (some (.ok [target]))).1 = .error f) ∧
    ∀ lines, (s.functionLines objects target).1 = .ok lines →
      lines.Pairwise (· < ·) ∧
      (∀ line ∈ lines, 0 < line ∧ line < 0x100000000) ∧
      (∀ line, line ∈ lines ↔ ∃ file, ∀ message category,
        s.WouldTake objects buffer target ⟨message, category, file, line⟩) ∧
      (∀ record, s.WouldTake objects buffer target record → record.line ∈ lines) ∧
      ∃ taken, (s.flush objects buffer (some (.ok [target]))).1 = .ok taken ∧
        ∀ record ∈ taken, record ∈ s.pendingIn buffer ∧ record.line ∈ lines := by
  cases found : s.resolve objects [target] with
  | error err =>
    rw [functionLines_refused found, flush_refused found]
    refine ⟨fun f => ?_, fun _ made => nomatch made⟩
    rw [Except.error.injEq, Except.error.injEq]
  | ok resolved =>
    obtain ⟨taken, -⟩ := flush_resolved buffer found
    rw [functionLines_resolved found, taken]
    refine ⟨fun f => Iff.intro (fun failed => nomatch failed) (fun failed => nomatch failed), ?_⟩
    rintro _ ⟨⟩
    have listed (record : Record) (would : s.WouldTake objects buffer target record) :
        record.line ∈ resolved.lines :=
      Resolution.lines_of_claimsRecord found ((wouldTake_iff found).mp would)
    refine ⟨LineSet.ascending _, ?_, ?_, listed, _, rfl, ?_⟩
    · intro line member
      obtain ⟨o, origin, spanned⟩ := (Resolution.mem_lines found).mp member
      exact Resolution.lines_bounds found origin spanned
    · intro line
      constructor
      · intro member
        obtain ⟨o, origin, spanned⟩ := (Resolution.mem_lines found).mp member
        refine ⟨o.source.path, fun message category => (wouldTake_iff found).mpr ?_⟩
        exact Resolution.claimsRecord_of_origin found origin rfl spanned s.cwd
      · rintro ⟨file, would⟩
        exact listed _ (would "" .warning)
    · intro record member
      obtain ⟨pending, claimed⟩ := List.mem_filter.mp member
      exact ⟨pending, Resolution.lines_of_claimsRecord found claimed⟩

/-- The method spans the lines of both functions that it leads to, each in its own file; the number
is refused by both. -/
theorem lines_of_method_are_claimed :
    (waiting.functionLines host "method").1 = .ok [3, 7] ∧
    (∃ file, ∀ message category,
      waiting.WouldTake host "buffer" "method" ⟨message, category, file, 7⟩) ∧
    (¬ ∃ file, ∀ message category,
      waiting.WouldTake host "buffer" "method" ⟨message, category, file, 5⟩) ∧
    (∃ taken, (waiting.flush host "buffer" (some (.ok ["method"]))).1 = .ok taken ∧
      onOuter ∈ taken) ∧
    ∃ f, (waiting.functionLines host "number").1 = .error f ∧
      (waiting.flush host "buffer" (some (.ok ["number"]))).1 = .error f := by
  have listed : (waiting.functionLines host "method").1 = .ok [3, 7] := by decide +kernel
  obtain ⟨_, agree⟩ := function_lines_agree_with_flush host waiting "buffer" "method"
  obtain ⟨alike, _⟩ := function_lines_agree_with_flush host waiting "buffer" "number"
  obtain ⟨_, _, spans, _⟩ := agree [3, 7] listed
  have refused : (waiting.functionLines host "number").1 =
      .error (.reported (notATarget 0 "3")) := by decide +kernel
  refine ⟨listed, (spans 7).mp (by decide), ?_, ?_, _, refused, (alike _).mp refused⟩
  · rw [← spans 5]
    decide
  · exact ⟨[onInner, onInner, onOuter], by decide +kernel, by decide⟩

end Session
end WarningCapture
