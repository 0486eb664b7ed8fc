import WarningCapture.Proofs.Session.Measuring
import WarningCapture.Proofs.Source.Belonging

/-! Flushes with targets. Every target is looked at before anything is taken, and a list with an
entry that is no target changes nothing. Of acceptable targets none keeps a flush from going on, and
it takes the records that belong to them, in order, and leaves the others, in order. -/
namespace WarningCapture

namespace Session
variable {objects : HostObjects} {s t : Session} {buffer : String} {names : List String}

/-- Only the history of the session grew, by lines of the log and reports of errors. -/
def SaidOnly (s t : Session) : Prop :=
  ∃ later : List Event, t = { s with history := later ++ s.history } ∧
    ∀ e ∈ later, e.spoken = true

theorem SaidOnly.of_remarked (remarked : s.Remarked t) (spoke : s.Spoke t) : s.SaidOnly t := by
  obtain ⟨es, same, _⟩ := remarked
  obtain ⟨later, told, spoken⟩ := spoke.told
  rw [same] at told
  obtain rfl := List.append_cancel_right told
  exact ⟨es, same, spoken⟩

theorem report_saidOnly (s : Session) (err : CaptureError) : s.SaidOnly (s.report err) :=
  .of_remarked (s.report_remarked err) (.report s err)

theorem flush_saidOnly {targets : TargetList} {f : Fault}
    (failed : (s.flush objects buffer targets).1 = .error f) :
    s.SaidOnly (s.flush objects buffer targets).2 := by
  rcases s.flush_cases objects buffer targets with ⟨_, _, remarked⟩ | ⟨_, _, _, _, taken, _⟩
  · exact .of_remarked remarked (flush_spoke failed)
  · cases taken.symm.trans failed

/-- What is said is not counted. -/
theorem SaidOnly.uncounted (said : s.SaidOnly t) :
    ∃ later, t = { s with history := later ++ s.history } ∧
      ∀ e ∈ later, e.spoken = true ∧ e.metric? = none := by
  obtain ⟨later, told, spoken⟩ := said
  refine ⟨later, told, ?_⟩
  intro e member
  obtain ⟨_, _, uncounted, _⟩ := Event.spoken_nothing (spoken e member)
  exact ⟨spoken e member, uncounted⟩

theorem resolve_ok (intact : s.types.fault? = none)
    (valid : ∀ name ∈ names, objects.shape name ≠ .other) :
    ∃ r, s.resolve objects names = .ok r :=
  Resolution.ofTargets_ok s.surroundings intact valid

theorem resolve_refused {before after : List String} {name : String}
    (intact : s.types.fault? = none) (valid : ∀ other ∈ before, objects.shape other ≠ .other)
    (bad : objects.shape name = .other) : s.resolve objects (before ++ name :: after) =
      .error (notATarget before.length (objects.describe name)) := by
  have refused := (HostObjects.validate_eq intact (before ++ name :: after)).trans
    (HostObjects.validateFrom_refused valid bad 0)
  rw [resolve, Resolution.ofTargets, refused, Nat.zero_add]

theorem flush_refused {err : CaptureError} (refused : s.resolve objects names = .error err) :
    s.flush objects buffer (some (.ok names)) = (.error (.reported err), s.report err) := by
  simp only [flush, refused]
  rfl

/-- A flush with acceptable targets takes the records that they claim and leaves the others. -/
theorem flush_resolved (buffer : String) {r : Resolution}
    (resolved : s.resolve objects names = .ok r) :
    (s.flush objects buffer (some (.ok names))).1 =
        .ok ((s.pendingIn buffer).filter (r.claimsRecord s.cwd)) ∧
      ∀ other, (s.flush objects buffer (some (.ok names))).2.pendingIn other =
        if other = buffer then (s.pendingIn buffer).filter (!r.claimsRecord s.cwd ·)
        else s.pendingIn other := by
  simp only [flush, resolved]
  constructor
  · rfl
  · intro other
    -- What is said before the records are taken leaves the buffers alone.
    let u := (s.noteResolution r).noteAll
      ((s.buffer buffer).records.flatMap (r.recordNotices s.cwd))
    have noted : ({ s with read := r.read ++ s.read } : Session).Remarked u :=
      (s.noteResolution_remarked r).trans (noteAll_remarked _ _)
    have same (name : String) : u.pendingIn name = s.pendingIn name :=
      pendingIn_congr (t := u) noted.buffers name
    have taken := u.takeRecords_remarked buffer (r.claimsRecord s.cwd)
    rw [buffer_congr (t := u) noted.buffers buffer] at taken
    have out : (u.takeOut buffer (r.claimsRecord s.cwd)).pendingIn other =
        if other = buffer then (u.pendingIn buffer).filter (!r.claimsRecord s.cwd ·)
        else u.pendingIn other := u.pendingIn_setBuffer buffer _ other
    rw [same, same] at out
    exact (pendingIn_congr taken.buffers other).trans out

/-- Only a list with an entry that is no target makes a flush fail. -/
theorem flush_fails_iff (intact : s.types.fault? = none) :
    (∃ f, (s.flush objects buffer (some (.ok names))).1 = .error f) ↔
      ∃ name ∈ names, objects.shape name = .other := by
  constructor
  · rintro ⟨f, failed⟩
    by_contra none
    have valid : ∀ name ∈ names, objects.shape name ≠ .other :=
      fun name member other => none ⟨name, member, other⟩
    obtain ⟨r, resolved⟩ := resolve_ok intact valid
    rw [(flush_resolved buffer resolved).1] at failed
    cases failed
  · intro some
    obtain ⟨before, name, after, rfl, valid, bad⟩ := HostObjects.exists_first_bad some
    exact ⟨_, congrArg Prod.fst (flush_refused (resolve_refused intact valid bad))⟩

/-- A flush with targets fails just if they cannot be read to the end or one of them is neither a
function nor a bound method; whatever else is missing does no harm. The error names the place and
the description of the first that is no target. A flush that fails leaves all as it was, but for
what is said of it, and nothing is counted. -/
theorem flush_is_all_or_nothing (objects : HostObjects) (s : Session) (buffer : String)
    (argument : Except Fault (List String)) (intact : s.types.fault? = none) :
    ((∃ f, (s.flush objects buffer (some argument)).1 = .error f) ↔
      (∃ f, argument = .error f) ∨
        ∃ names, argument = .ok names ∧ ∃ name ∈ names, objects.shape name = .other) ∧
    (∀ f, argument = .error f → s.flush objects buffer (some argument) = (.error f, s)) ∧
    (∀ before name after, argument = .ok (before ++ name :: after) →
      (∀ other ∈ before, objects.shape other ≠ .other) → objects.shape name = .other →
      ∃ err, s.flush objects buffer (some argument) = (.error (.reported err), s.report err) ∧
        err.errorClass = .invalidFilterTarget ∧ err.code = .invalidFilterTarget ∧
        err.context = [("index", toString before.length), ("repr", objects.describe name)]) ∧
    ∀ f, (s.flush objects buffer (some argument)).1 = .error f →
      ∃ later, (s.flush objects buffer (some argument)).2 =
          { s with history := later ++ s.history } ∧
        ∀ e ∈ later, e.spoken = true ∧ e.metric? = none := by
  refine ⟨?_, ?_, ?_, ?_⟩
  · cases argument with
    | error f => exact ⟨fun _ => .inl ⟨f, rfl⟩, fun _ => ⟨f, rfl⟩⟩
    | ok names =>
      rw [flush_fails_iff intact]
      simp
  · rintro f rfl
    rfl
  · rintro before name after rfl valid bad
    exact ⟨_, flush_refused (resolve_refused intact valid bad), rfl, rfl, rfl⟩
  · intro f failed
    exact (flush_saidOnly failed).uncounted

/-- A bound method, the function under it and the one that this wraps; a function without code, and
a number. -/
def host : HostObjects where
  entries :=
    [("method", ⟨.method (some "outer"), .boundMethod⟩),
      ("outer", ⟨.function { code := some "outer", wrapped := some "inner" }, .plainFunction⟩),
      ("inner", ⟨.function { code := some "inner" }, .plainFunction⟩),
      ("hollow", ⟨.function {}, .plainFunction⟩), ("number", ⟨.other, .text "3"⟩)]
  codes :=
    [("outer", .compiled (.mk "/outer.py" [some 3] [])),
      ("inner", .compiled (.mk "/lib/../inner.py" [some 7] []))]

def onInner : Record := ⟨"message", .warning, "/inner.pyc", 7⟩
def onOuter : Record := ⟨"message", .warning, "/outer.py", 3⟩

/-- A session in whose buffer records are waiting that belong to functions of the host, one of them
twice, and records that do not. -/
def waiting : Session :=
  ({} : Scene).play (([onInner, { onInner with filename := "/outer.py" }, onInner,
    { onInner with filename := "" }, { onInner with line := 0 }, onOuter] : List Record).map
      (.pushRecord "buffer")) bare

/-- The number is refused, not what comes after it, and the records that belong to the method before
it stay. A function without code is accepted. -/
theorem first_bad_target_is_named :
    waiting.types.fault? = none ∧ host.shape "number" = .other ∧
    (∃ err, waiting.flush host "buffer" (some (.ok ["method", "number", "absent"])) =
        (.error (.reported err), waiting.report err) ∧
      err.context = [("index", "1"), ("repr", "3")]) ∧
    (waiting.flush host "buffer" (some (.ok ["method", "number", "absent"]))).2.pendingIn "buffer" =
      waiting.pendingIn "buffer" ∧
    ¬ ∃ f, (waiting.flush host "buffer" (some (.ok ["hollow"]))).1 = .error f := by
  have intact : waiting.types.fault? = none := by decide +kernel
  have bad : host.shape "number" = .other := rfl
  obtain ⟨_, _, first, quiet⟩ := flush_is_all_or_nothing host waiting "buffer"
    (.ok ["method", "number", "absent"]) intact
  obtain ⟨fails, _⟩ := flush_is_all_or_nothing host waiting "buffer" (.ok ["hollow"]) intact
  have valid : ∀ other ∈ ["method"], host.shape other ≠ .other := by
    simp [host, HostObjects.shape, Table.get?]
  obtain ⟨err, refused, _, _, context⟩ := first ["method"] "number" ["absent"] rfl valid bad
  obtain ⟨later, told, _⟩ := quiet _ (congrArg Prod.fst refused)
  have accepted : host.shape "hollow" ≠ .other := by simp [host, HostObjects.shape, Table.get?]
  refine ⟨intact, bad, ⟨err, refused, context⟩, ?_, ?_⟩
  · rw [told]
    exact pendingIn_congr rfl "buffer"
  · rw [fails]
    simp [accepted]

/-- A flush with acceptable targets splits what is pending in two, both parts in the order of
capture: it returns what the functions own that the targets lead to, as far as chains are followed,
and leaves the rest. Records without a filename or a line are never taken, and nothing is taken if
no such function has an origin; without targets there is none. -/
theorem flush_takes_what_targets_own (objects : HostObjects) (s : Session) (buffer : String)
    (names : List String) (intact : s.types.fault? = none)
    (valid : ∀ name ∈ names, objects.shape name ≠ .other) :
    ∃ claimed : Record → Bool,
      (∀ record, claimed record = true ↔ ∃ name ∈ names, ∃ links < 32, ∃ fn,
        objects.Leads links name fn ∧ s.surroundings.Owns objects.codes fn.2 record) ∧
      (s.flush objects buffer (some (.ok names))).1 =
        .ok ((s.pendingIn buffer).filter claimed) ∧
      (∀ other, (s.flush objects buffer (some (.ok names))).2.pendingIn other =
        if other = buffer then (s.pendingIn buffer).filter (!claimed ·)
        else s.pendingIn other) ∧
      (∀ record, record.filename = "" ∨ record.line = 0 → claimed record = false) ∧
      ((∀ name ∈ names, ∀ links < 32, ∀ fn, objects.Leads links name fn →
          s.surroundings.origin? objects.codes fn.2 = none) →
        (s.flush objects buffer (some (.ok names))).1 = .ok [] ∧
          (s.flush objects buffer (some (.ok names))).2.pendingIn buffer = s.pendingIn buffer) := by
  obtain ⟨r, resolved⟩ := resolve_ok intact valid
  obtain ⟨taken, left⟩ := flush_resolved buffer resolved
  have owns (record : Record) : r.claimsRecord s.cwd record = true ↔ ∃ name ∈ names, ∃ links < 32,
      ∃ fn, objects.Leads links name fn ∧ s.surroundings.Owns objects.codes fn.2 record := by
    have claims_iff := Resolution.claimsRecord_iff resolved record
    rw [HostObjects.maxChain] at claims_iff
    exact claims_iff
  refine ⟨r.claimsRecord s.cwd, owns, taken, left, ?_, ?_⟩
  · intro record lacking
    rw [← Bool.not_eq_true, owns]
    rintro ⟨_, _, _, _, _, _, owned⟩
    rcases lacking with unnamed | unplaced
    · exact owned.filename_nonempty unnamed
    · exact owned.line_pos.ne' unplaced
  · intro orphaned
    have unclaimed (record : Record) : r.claimsRecord s.cwd record = false := by
      rw [← Bool.not_eq_true, owns]
      rintro ⟨name, target, links, within, fn, leads, owned⟩
      obtain ⟨o, found⟩ := owned.origin
      rw [orphaned name target links within fn leads] at found
      cases found
    rw [taken, left buffer, if_pos rfl]
    simp [unclaimed]

/-- What a bound method leads to owns records under the name of the compiled file too. -/
theorem method_takes_records_of_both_functions :
    waiting.types.fault? = none ∧ (∀ name ∈ ["hollow", "method"], host.shape name ≠ .other) ∧
    (waiting.flush host "buffer" (some (.ok ["hollow", "method"]))).1 =
      .ok [onInner, onInner, onOuter] ∧
    ((waiting.flush host "buffer" (some (.ok ["hollow", "method"]))).2.pendingIn "buffer") =
      [{ onInner with filename := "/outer.py" }, { onInner with filename := "" },
        { onInner with line := 0 }] ∧
    ∃ name ∈ ["hollow", "method"], ∃ links < 32, ∃ fn, host.Leads links name fn ∧
      waiting.surroundings.Owns host.codes fn.2 onInner := by
  have intact : waiting.types.fault? = none := by decide +kernel
  have valid : ∀ name ∈ ["hollow", "method"], host.shape name ≠ .other := by
    simp [host, HostObjects.shape, Table.get?]
  obtain ⟨claimed, owns, taken, _⟩ :=
    flush_takes_what_targets_own host waiting "buffer" ["hollow", "method"] intact valid
  have result : (waiting.flush host "buffer" (some (.ok ["hollow", "method"]))).1 =
      .ok [onInner, onInner, onOuter] := by decide +kernel
  refine ⟨intact, valid, result, by decide +kernel, (owns onInner).mp ?_⟩
  have same := Except.ok.inj (taken.symm.trans result)
  have member : onInner ∈ (waiting.pendingIn "buffer").filter claimed := by simp [same]
  exact (List.mem_filter.mp member).2

/-- The name of a function in a long chain. -/
def rung (n : Nat) : String := String.ofList (List.replicate n 'f')

/-- The function at the end of a long chain. -/
def lastBody : FunctionBody := { code := some "last" }

/-- A chain of as many functions as are followed, and one more. Only this has code. -/
def ladder : HostObjects where
  entries :=
    (List.range 32).map (fun n =>
      (rung n, ⟨.function { wrapped := some (rung (n + 1)) }, .plainFunction⟩)) ++
    [(rung 32, ⟨.function lastBody, .plainFunction⟩)]
  codes := [("last", .compiled (.mk "/outer.py" [some 3] []))]

/-- A record of a function that a target leads to stays, as the chain to it is too long. -/
theorem end_of_long_chain_is_not_reached :
    waiting.types.fault? = none ∧ (∀ name ∈ [rung 0], ladder.shape name ≠ .other) ∧
    onOuter ∈ waiting.pendingIn "buffer" ∧
    (∃ links fn, ladder.Leads links (rung 0) fn ∧
      waiting.surroundings.Owns ladder.codes fn.2 onOuter) ∧
    (waiting.flush ladder "buffer" (some (.ok [rung 0]))).1 = .ok [] ∧
    onOuter ∈ (waiting.flush ladder "buffer" (some (.ok [rung 0]))).2.pendingIn "buffer" := by
  have target : ladder.isTarget (rung 0) = true := by decide +kernel
  have last : (rung 32, lastBody) ∈ ladder.chainFrom 33 (rung 0) := by decide +kernel
  obtain ⟨links, _, leads⟩ := HostObjects.mem_chainFrom.mp last
  refine ⟨by decide +kernel, ?_, by decide +kernel, ⟨links, _, leads, ?_⟩, by decide +kernel,
    by decide +kernel⟩
  · simpa using HostObjects.isTarget_iff.mp target
  · exact ⟨.ofLines [3], "/outer.py", "/outer.py", by decide +kernel, by decide +kernel,
      by decide +kernel, by decide +kernel, .inl rfl⟩

end Session
end WarningCapture
