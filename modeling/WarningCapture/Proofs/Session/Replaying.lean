import WarningCapture.Proofs.Session.Conservation

/-! The end of a test emits again what it finds in its buffer: it goes through the records that were
pending when it began, one call after another, whatever each call raises, captures or empties. -/
namespace WarningCapture

/-- A call of the emitting function with a record, and what it came to. -/
structure Reemission where
  record : Record
  outcome : Except Fault Unit

def Reemission.raised? (call : Reemission) : Option Fault :=
  match call.outcome with
  | .ok () => none
  | .error f => some f

namespace Session

/-- The session after a call of the emitting function with a record, once the log has been told what
the call raised. -/
def logRaised (s : Session) (r : Record) : Except Fault Unit → Session
  | .ok () => s
  | .error f => s.note (replayNotice r f)

/-- Lines were written to the log, and nothing else happened. -/
def Logged (s t : Session) : Prop :=
  ∃ es : List Event, t = { s with history := es ++ s.history } ∧
    ∀ e ∈ es, ∃ line outlet, e = .wrote line outlet

/-- Records of a buffer are handed to the emitting function one after another. Each call finds the
session as the call before it left it, once the log has been told what that one raised. -/
inductive Reemits (react : Reaction) (emitter : FunctionState) (buffer : String) :
    Session → List Reemission → Session → Prop where
  | done (s : Session) : Reemits react emitter buffer s [] s
  | call : (s.add (.handed buffer r)).emitAgain react emitter r = (outcome, t) →
      Reemits react emitter buffer (t.logRaised r outcome) rest u →
      Reemits react emitter buffer s (⟨r, outcome⟩ :: rest) u

variable {W : Facility → Facility → Prop} {react : Reaction} {emitter : FunctionState}
  {buffer : String} {s t : Session} {calls : List Reemission}

theorem Logged.refl (s : Session) : s.Logged s := ⟨[], rfl, by simp⟩

theorem note_logged (s : Session) {n : Log.Notice} (unquoted : n.quoted = none) :
    s.Logged (s.note n) := by
  refine ⟨_, s.addAll_eq _, fun e member => ?_⟩
  rw [noticed_unquoted unquoted] at member
  obtain ⟨⟨line, outlet⟩, _, rfl⟩ := List.mem_map.mp (List.mem_reverse.mp member)
  exact ⟨line, outlet, rfl⟩

theorem Logged.trans (first : s.Logged t) (second : t.Logged u) : s.Logged u := by
  obtain ⟨es, rfl, lines⟩ := first
  obtain ⟨fs, rfl, others⟩ := second
  refine ⟨fs ++ es, by simp, fun e member => ?_⟩
  rcases List.mem_append.mp member with later | earlier
  · exact others e later
  · exact lines e earlier

theorem logRaised_remarked (s : Session) (r : Record) (outcome : Except Fault Unit) :
    s.Remarked (s.logRaised r outcome) := by
  cases outcome with
  | ok => exact .refl s
  | error f => exact s.note_remarked _

/-- No outcome of a call keeps the next one from being made. -/
theorem emitAll_reemits (react : Reaction) (emitter : FunctionState) (buffer : String)
    (records : List Record) (s : Session) :
    ∃ calls, Reemits react emitter buffer s calls (emitAll react emitter buffer records s).2 ∧
      calls.map Reemission.record = records ∧
      (emitAll react emitter buffer records s).1 = calls.filterMap Reemission.raised? := by
  induction records generalizing s with
  | nil => exact ⟨[], .done s, rfl, rfl⟩
  | cons r rest ih =>
    unfold emitAll
    split
    · rename_i t called
      obtain ⟨calls, later, records, raised⟩ := ih t
      refine ⟨⟨r, .ok ()⟩ :: calls, .call called later, ?_, ?_⟩
      · rw [List.map_cons, records]
      · rw [raised, List.filterMap_cons_none rfl]
    · rename_i f t called
      obtain ⟨calls, later, records, raised⟩ := ih (t.note (replayNotice r f))
      refine ⟨⟨r, .error f⟩ :: calls, .call called later, ?_, ?_⟩
      · rw [List.map_cons, records]
      · have here : Reemission.raised? ⟨r, .error f⟩ = some f := rfl
        rw [List.filterMap_cons_some here, ← raised]

theorem Reemits.turns (remembers : Remembers W) (follows : react.Follows W)
    (reemits : Reemits react emitter buffer s calls t) : Relation.ReflTransGen (Turn W) s t := by
  induction reemits with
  | done => exact .refl
  | @call outcome t _ _ s r called _ ih =>
    have emitted := emitAgain_course remembers follows emitter (s.add (.handed buffer r)) r
    rw [called] at emitted
    have told := emitted.trans (.of_remarked (t.logRaised_remarked r outcome))
    exact .head (.hand s buffer r) (told.turns.trans ih)

/-- With records to emit again, the end of a test goes through those that it found. -/
theorem finish_reemits (react : Reaction) (something : s.pendingIn buffer ≠ [])
    (on : s.policy.replayUnflushed = true) (available : s.sinks.facility.warnExplicit ≠ .missing) :
    ∃ calls t,
      Reemits react s.sinks.facility.warnExplicit buffer (s.sweep buffer) calls t ∧
      calls.map Reemission.record = s.pendingIn buffer ∧
      s.finish react buffer = (.ok (calls.filterMap Reemission.raised?),
        t.add (.replayed buffer (s.pendingIn buffer).length
          (calls.filterMap Reemission.raised?))) := by
  have replays : s.fate = .replayed := by simp [fate, on, available]
  rcases s.finish_cases react buffer with
    ⟨empty, _⟩ | ⟨fate, _⟩ | ⟨fate, _⟩ | ⟨_, raised, t, emitted, same⟩
  · exact absurd empty something
  · cases replays.symm.trans fate
  · cases replays.symm.trans fate
  · obtain ⟨calls, reemits, records, result⟩ := emitAll_reemits react
      s.sinks.facility.warnExplicit buffer (s.buffer buffer).records (s.sweep buffer)
    rw [emitted] at reemits result
    simp only at result
    exact ⟨calls, t, reemits, records, result ▸ same⟩

theorem sweep_pendingIn (s : Session) (buffer other : String) :
    (s.sweep buffer).pendingIn other = if other = buffer then [] else s.pendingIn other :=
  s.pendingIn_setBuffer buffer _ other

/-- What the end of a test does if it emits nothing again: it takes out what there is, if there is
anything, and says so. -/
theorem finish_silent (react : Reaction)
    (nothing : s.policy.replayUnflushed = false ∨ s.pendingIn buffer = []) :
    s.finish react buffer = (.ok [],
      if s.pendingIn buffer = [] then s.setBuffer buffer (s.buffer buffer)
      else (s.sweep buffer).note (discardNotice (s.pendingIn buffer).length)) := by
  rw [finish_eq]
  by_cases empty : (s.buffer buffer).records = []
  · simp only [pendingIn, empty, if_true]
  · have discards : s.fate = .discarded := if_pos (nothing.resolve_right empty)
    simp only [pendingIn, empty, if_false, discards]

/-- The end of a test with records to emit again calls the emitting function once with each of them,
in the order of capture, and returns what these calls raised. The buffer was empty when they began,
so it holds what they put into it and did not take out again. Nothing is called if there is nothing
to emit, or if the policy has it discarded. -/
theorem finish_emits_each_record_once (scene : Scene) (depth : Nat) (s : Session)
    (buffer : String) :
    (s.pendingIn buffer ≠ [] → s.policy.replayUnflushed = true →
      s.sinks.facility.warnExplicit ≠ .missing →
      ∃ calls t,
        Reemits (scene.reaction depth) s.sinks.facility.warnExplicit buffer (s.sweep buffer) calls
          t ∧
        calls.map Reemission.record = s.pendingIn buffer ∧
        s.finish (scene.reaction depth) buffer =
          (.ok (calls.filterMap Reemission.raised?),
            t.add (.replayed buffer (s.pendingIn buffer).length
              (calls.filterMap Reemission.raised?))) ∧
        (s.sweep buffer).pendingIn buffer = [] ∧
        AccountedSince (s.sweep buffer).events buffer
          (s.finish (scene.reaction depth) buffer).2) ∧
    (s.policy.replayUnflushed = false ∨ s.pendingIn buffer = [] →
      (s.finish (scene.reaction depth) buffer).1 = .ok [] ∧
      (s.finish (scene.reaction depth) buffer).2.pendingIn buffer = [] ∧
      (s.finish (scene.reaction depth) buffer).2.sinks = s.sinks ∧
      ∃ later, (s.finish (scene.reaction depth) buffer).2.history = later ++ s.history ∧
        ∀ e ∈ later, e = .taken buffer (s.pendingIn buffer) .discarded ∨
          ∃ line outlet, e = .wrote line outlet) := by
  have follows := reaction_course scene depth
  have swept : (s.sweep buffer).pendingIn buffer = [] := s.pendingIn_setBuffer_self buffer _
  constructor
  · intro something on available
    obtain ⟨calls, t, reemits, records, same⟩ :=
      finish_reemits (scene.reaction depth) something on available
    have start : AccountedSince (s.sweep buffer).events buffer (s.sweep buffer) :=
      ⟨[], (List.append_nil _).symm, by rw [swept]; exact .start buffer⟩
    have last : Turn Facility.Anything t (t.add (.replayed buffer (s.pendingIn buffer).length
        (calls.filterMap Reemission.raised?))) := .change (.remark t rfl)
    have turns := (reemits.turns remembers_anything follows).tail last
    refine ⟨calls, t, reemits, records, same, swept, ?_⟩
    rw [same]
    exact accountedSince_of_turns turns start
  · intro nothing
    rw [finish_silent _ nothing]
    refine ⟨rfl, ?_⟩
    simp only
    split
    · rename_i empty
      exact ⟨(rewrite_pending rfl).trans empty, rfl, [], rfl, by simp⟩
    · rename_i something
      have discards : s.fate = .discarded := by
        simp [fate, nothing.resolve_right something]
      obtain ⟨es, told, lines⟩ := (s.sweep buffer).note_logged
        (n := discardNotice (s.pendingIn buffer).length) rfl
      rw [told]
      refine ⟨swept, rfl, es ++ [.taken buffer (s.pendingIn buffer) .discarded], ?_, ?_⟩
      · simp [sweep, add, setBuffer, discards, pendingIn]
      · intro e member
        rcases List.mem_append.mp member with line | taken
        · exact .inr (lines e line)
        · exact .inl (List.mem_singleton.mp taken)

def plain : Record := ⟨"message", .warning, "file.py", 1⟩

/-- A record that cannot be emitted: its category refuses every message. -/
def picky : Record :=
  ⟨"message", .subclass "Picky" .warning (some ("TypeError", "refused ")), "file.py", 2⟩

/-- A guard that captures into a buffer, with a record in it that can be emitted again and one that
cannot. -/
def fed : Session :=
  ({} : Scene).play [.observeInto "observer" "buffer", .push "guard" "observer",
    .warn "message" .warning "file.py" 1, .pushRecord "buffer" picky] bare

/-- The first record comes back into the buffer that it was taken from, and the second is raised. -/
theorem buffer_feeds_itself :
    fed.pendingIn "buffer" ≠ [] ∧ fed.policy.replayUnflushed = true ∧
    fed.sinks.facility.warnExplicit ≠ .missing ∧
    (∃ calls t, Reemits (({} : Scene).reaction 0) .intact "buffer" (fed.sweep "buffer") calls t ∧
      calls.map Reemission.record = fed.pendingIn "buffer" ∧
      calls.filterMap Reemission.raised? = [.raised "TypeError" "refused message"]) ∧
    ((fed.finish (({} : Scene).reaction 0) "buffer").2.pendingIn "buffer").length = 1 ∧
    bare.pendingIn "buffer" = [] ∧
    (bare.finish (({} : Scene).reaction 0) "buffer").1 = .ok [] := by
  obtain ⟨replays, _⟩ := finish_emits_each_record_once {} 0 fed "buffer"
  obtain ⟨_, discards⟩ := finish_emits_each_record_once {} 0 bare "buffer"
  have something : fed.pendingIn "buffer" ≠ [] := by decide +kernel
  have on : fed.policy.replayUnflushed = true := by decide +kernel
  have intact : fed.sinks.facility.warnExplicit = .intact := by decide +kernel
  have available : fed.sinks.facility.warnExplicit ≠ .missing := by rw [intact]; decide
  have empty : bare.pendingIn "buffer" = [] := by decide +kernel
  obtain ⟨calls, t, reemits, records, same, _⟩ := replays something on available
  rw [intact] at reemits
  have raised : (fed.finish (({} : Scene).reaction 0) "buffer").1 =
      .ok [.raised "TypeError" "refused message"] := by decide +kernel
  rw [same] at raised
  exact ⟨something, on, available, ⟨calls, t, reemits, records, Except.ok.inj raised⟩,
    by decide +kernel, empty, (discards (.inr empty)).1⟩

end Session
end WarningCapture
