import WarningCapture.Proofs.Session.Replaying
import WarningCapture.Proofs.Session.Showing

/-! Records emitted again while an observer of a buffer is in force. Each of them comes back as the
record that it was, in the same order, also into the buffer that it was taken from. -/
namespace WarningCapture

/-- What the emitting function refuses a record with, if it does. -/
def Record.refusal? (emitter : FunctionState) (r : Record) : Option Fault :=
  match emitter with
  | .broken => some (Facility.brokenFunction "warn_explicit")
  | _ =>
      match Facility.checkLine r.line with
      | .error f => some f
      | .ok () =>
          match r.category.construct r.message with
          | .error f => some f
          | .ok () => none

/-- The emitting function refuses the record, or makes a warning of it. -/
def Record.Decided (emitter : FunctionState) (r : Record) : Prop :=
  r.refusal? emitter ≠ none ∨ Facility.Takes r.message r.category r.line

/-- The records that the emitting function does not refuse. -/
def accepted (emitter : FunctionState) (records : List Record) : List Record :=
  records.filter fun r => (r.refusal? emitter).isNone

namespace Session
variable {react : Reaction} {emitter : FunctionState} {s t : Session} {o : Observer}
  {a b name : String} {r : Record} {calls : List Reemission}

theorem emitAgain_unbroken (unbroken : emitter ≠ .broken) (s : Session) (r : Record) :
    s.emitAgain react emitter r = s.emit react r.message r.category r.filename r.line := by
  unfold emitAgain
  split
  · exact absurd rfl unbroken
  · rfl

theorem emitAgain_refused {f : Fault} (refused : r.refusal? emitter = some f) :
    s.emitAgain react emitter r = (.error f, s) := by
  unfold Record.refusal? at refused
  split at refused
  · rw [← Option.some.inj refused]
    rfl
  · rename_i unbroken
    rw [emitAgain_unbroken unbroken]
    apply emit_fails
    apply Facility.emit_refused
    split at refused
    · rename_i line
      exact .inl (line.trans (by rw [Option.some.inj refused]))
    · rename_i line
      split at refused
      · rename_i construct
        exact .inr ⟨line, construct.trans (by rw [Option.some.inj refused])⟩
      · cases refused

theorem emitAgain_shown (shows : s.sinks.facility.ShowsTo o) (delivers : o.collector = .buffer name)
    (unrefused : r.refusal? emitter = none)
    (taken : Facility.Takes r.message r.category r.line) :
    s.emitAgain react emitter r =
      (.ok (), ((s.withFacility s.sinks.facility.consult.2).add (.captured r)).store name r) := by
  have unbroken : emitter ≠ .broken := by
    rintro rfl
    cases unrefused
  rw [emitAgain_unbroken unbroken, emit_shown shows taken, deliver, delivers]
  rfl

theorem accepted_cons (r : Record) (rest : List Record) :
    accepted emitter (r :: rest) =
      (if r.refusal? emitter = none then [r] else []) ++ accepted emitter rest := by
  unfold accepted
  cases refused : r.refusal? emitter with
  | none => simp [refused]
  | some f => simp [refused]

/-- Every call raises or adds its record to the buffer of the observer, which stays in force. -/
theorem Reemits.recaptures (reemits : Reemits react emitter a s calls t)
    (shows : s.sinks.facility.ShowsTo o) (delivers : o.collector = .buffer b)
    (decided : ∀ call ∈ calls, call.record.Decided emitter) :
    calls.filterMap Reemission.raised? =
      (calls.map Reemission.record).filterMap (Record.refusal? emitter) ∧
    ∀ other, t.pendingIn other = s.pendingIn other ++
      if other = b then accepted emitter (calls.map Reemission.record) else [] := by
  induction reemits with
  | done => simp [accepted]
  | @call outcome t rest u s r called _ ih =>
    have same := t.logRaised_remarked r outcome
    have later : ∀ call ∈ rest, call.record.Decided emitter :=
      fun call member => decided call (List.mem_cons_of_mem _ member)
    rw [List.map_cons]
    cases refused : r.refusal? emitter with
    | some f =>
      cases called.symm.trans (emitAgain_refused refused)
      obtain ⟨raised, pending⟩ := ih (by rw [same.sinks]; exact shows) later
      constructor
      · rw [List.filterMap_cons_some refused, ← raised]
        rfl
      · intro other
        rw [pending, pendingIn_congr same.buffers, accepted_cons, refused]
        rfl
    | none =>
      have taken := (decided _ List.mem_cons_self).resolve_left (not_not.mpr refused)
      cases called.symm.trans (emitAgain_shown shows delivers refused taken)
      -- Showing a warning looks the filters up, which leaves hook and filters to the next call.
      obtain ⟨raised, pending⟩ :=
        ih (shows.of_leftAlone s.sinks.facility.consult_leftAlone) later
      constructor
      · rw [List.filterMap_cons_none refused, ← raised]
        rfl
      · intro other
        rw [pending, pendingIn_congr same.buffers, store_pendingIn, accepted_cons, if_pos refused,
          List.append_assoc]
        congr 1
        split <;> rfl

theorem finish_pendingIn (react : Reaction) (shows : s.sinks.facility.ShowsTo o)
    (delivers : o.collector = .buffer b) (on : s.policy.replayUnflushed = true)
    (emits : s.sinks.facility.warnExplicit = emitter) (available : emitter ≠ .missing)
    (decided : ∀ r ∈ s.pendingIn a, r.Decided emitter) :
    (s.finish react a).1 = .ok ((s.pendingIn a).filterMap (Record.refusal? emitter)) ∧
    ∀ other, (s.finish react a).2.pendingIn other =
      (if other = a then [] else s.pendingIn other) ++
        if other = b then accepted emitter (s.pendingIn a) else [] := by
  by_cases empty : s.pendingIn a = []
  · rw [finish_silent react (.inr empty), if_pos empty, empty]
    refine ⟨rfl, fun other => ?_⟩
    have kept : (s.setBuffer a (s.buffer a)).pendingIn other = s.pendingIn other :=
      rewrite_pending rfl
    simp only [kept, accepted, List.filter_nil, ite_self, List.append_nil]
    split
    · rename_i here
      rw [here, empty]
    · rfl
  · obtain ⟨calls, t, reemits, records, same⟩ :=
      finish_reemits react empty on (emits ▸ available)
    rw [emits] at reemits
    have each : ∀ call ∈ calls, call.record.Decided emitter := fun call member =>
      decided _ (records ▸ List.mem_map_of_mem member)
    obtain ⟨raised, pending⟩ := reemits.recaptures shows delivers each
    rw [records] at raised pending
    rw [same, raised]
    refine ⟨rfl, fun other => ?_⟩
    rw [← sweep_pendingIn]
    exact pending other

/-- The end of the test of a buffer, while an observer that delivers to the same or to another
buffer is in force, raises what each refused record is refused with and stores every other record as
it was, both in the order of the records. If it refuses none and stores into the buffer that it took
them from, that buffer holds the same records as before. -/
theorem finish_recaptures (react : Reaction) (s : Session) (a b : String) (o : Observer)
    (shows : s.sinks.facility.ShowsTo o) (delivers : o.collector = .buffer b)
    (on : s.policy.replayUnflushed = true) (available : s.sinks.facility.warnExplicit ≠ .missing)
    (decided : ∀ r ∈ s.pendingIn a, r.Decided s.sinks.facility.warnExplicit) :
    (s.finish react a).1 =
      .ok ((s.pendingIn a).filterMap (Record.refusal? s.sinks.facility.warnExplicit)) ∧
    (s.finish react a).2.pendingIn b = (if b = a then [] else s.pendingIn b) ++
      accepted s.sinks.facility.warnExplicit (s.pendingIn a) ∧
    (∀ other ≠ b, (s.finish react a).2.pendingIn other =
      if other = a then [] else s.pendingIn other) ∧
    (a = b → (∀ r ∈ s.pendingIn a, r.refusal? s.sinks.facility.warnExplicit = none) →
      (s.finish react a).1 = .ok [] ∧ (s.finish react a).2.pendingIn a = s.pendingIn a) := by
  obtain ⟨raised, pending⟩ := finish_pendingIn react shows delivers on rfl available decided
  refine ⟨raised, ?_, ?_, ?_⟩
  · rw [pending, if_pos rfl]
  · intro other elsewhere
    rw [pending, if_neg elsewhere, List.append_nil]
  · intro same unrefused
    constructor
    · rw [raised, List.filterMap_eq_nil_iff.mpr unrefused]
    · rw [pending, if_pos rfl, if_pos same, accepted, List.nil_append]
      exact List.filter_eq_self.mpr fun r member => by rw [unrefused r member]; rfl

/-- A session in which a test has ended once: the record that is refused was raised, and the other
one came back. -/
def purged : Session := (fed.finish (({} : Scene).reaction 0) "buffer").2

/-- When the test ends once more, the record that came back comes back again. -/
theorem purged_buffer_stays :
    purged.sinks.facility.ShowsTo ⟨1, .buffer "buffer"⟩ ∧ purged.policy.replayUnflushed = true ∧
    purged.sinks.facility.warnExplicit ≠ .missing ∧
    (∀ r ∈ purged.pendingIn "buffer", r.Decided purged.sinks.facility.warnExplicit) ∧
    (∀ r ∈ purged.pendingIn "buffer",
      r.refusal? purged.sinks.facility.warnExplicit = none) ∧
    purged.pendingIn "buffer" = [plain] ∧
    (purged.finish (({} : Scene).reaction 0) "buffer").1 = .ok [] ∧
    (purged.finish (({} : Scene).reaction 0) "buffer").2.pendingIn "buffer" =
      purged.pendingIn "buffer" := by
  have shows : purged.sinks.facility.ShowsTo ⟨1, .buffer "buffer"⟩ :=
    ⟨by decide +kernel, by decide +kernel, [], by decide +kernel⟩
  have on : purged.policy.replayUnflushed = true := by decide +kernel
  have intact : purged.sinks.facility.warnExplicit = .intact := by decide +kernel
  have available : purged.sinks.facility.warnExplicit ≠ .missing := by rw [intact]; decide
  have records : purged.pendingIn "buffer" = [plain] := by
    decide +kernel
  have decided : ∀ r ∈ purged.pendingIn "buffer",
      r.Decided purged.sinks.facility.warnExplicit := by
    rw [records]
    intro r member
    cases List.mem_singleton.mp member
    exact .inr ⟨rfl, rfl, by decide +kernel⟩
  have unrefused : ∀ r ∈ purged.pendingIn "buffer",
      r.refusal? purged.sinks.facility.warnExplicit = none := by
    rw [records, intact]
    intro r member
    cases List.mem_singleton.mp member
    decide +kernel
  obtain ⟨_, _, _, same⟩ := finish_recaptures (({} : Scene).reaction 0) purged "buffer" "buffer"
    ⟨1, .buffer "buffer"⟩ shows rfl on available decided
  obtain ⟨raised, kept⟩ := same rfl unrefused
  exact ⟨shows, on, available, decided, unrefused, records, raised, kept⟩

/-- A guard whose observer delivers to a buffer, and a record in another buffer, under damage. -/
def besieged (d : Damage) (r : Record) : Session :=
  ({} : Scene).play [.observeInto "observer" "buffer", .push "guard" "observer",
    .pushRecord "other" r, .damage (.facility d)] bare

/-- Without the emitting function the end of a test fails as a whole and raises nothing for a record
that is refused. With a tuple for the filters, a record that is not refused is not stored, though
the filter that shows everything comes first in it and the observer is the hook. -/
theorem replay_needs_function_and_list :
    ((besieged .missingWarnExplicit picky).sinks.facility.ShowsTo ⟨1, .buffer "buffer"⟩ ∧
      (besieged .missingWarnExplicit picky).policy.replayUnflushed = true ∧
      (besieged .missingWarnExplicit picky).pendingIn "other" = [picky] ∧
      picky.category.construct picky.message = .error (.raised "TypeError" "refused message") ∧
      ((besieged .missingWarnExplicit picky).finish (({} : Scene).reaction 0) "other").1 =
        .error (.reported replayUnavailable)) ∧
    Facility.Takes plain.message plain.category plain.line ∧
    (besieged .filtersTuple plain).sinks.facility.hook = some (.observer ⟨1, .buffer "buffer"⟩) ∧
    (besieged .filtersTuple plain).sinks.facility.filters? = some [Filter.showAll] ∧
    (besieged .filtersTuple plain).sinks.facility.warnExplicit = .intact ∧
    (besieged .filtersTuple plain).policy.replayUnflushed = true ∧
    (besieged .filtersTuple plain).pendingIn "other" = [plain] ∧
    ((besieged .filtersTuple plain).finish (({} : Scene).reaction 0) "other").1 =
      .ok [.raised "ValueError" "_warnings.filters must be a list"] ∧
    ((besieged .filtersTuple plain).finish
      (({} : Scene).reaction 0) "other").2.pendingIn "buffer" = [] := by
  constructor
  · exact ⟨⟨by decide +kernel, by decide +kernel, [], by decide +kernel⟩, by decide +kernel,
      by decide +kernel, by decide +kernel, by decide +kernel⟩
  · exact ⟨⟨rfl, rfl, by decide +kernel⟩, by decide +kernel, by decide +kernel, by decide +kernel,
      by decide +kernel, by decide +kernel, by decide +kernel, by decide +kernel⟩

end Session
end WarningCapture
