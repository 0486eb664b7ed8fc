import WarningCapture.Proofs.Session.Flushing
import WarningCapture.Proofs.Source.Spanning

/-! Observers turn what they are called with into a record before they do anything else. Either one
of the parts cannot be converted, and the call leaves no trace; or there is a record, which is
counted once and delivered once. Lines are brought into the range that records have room for, and
those at or below zero become the line that no targets claim. -/
namespace WarningCapture

/-- The value stands for a whole number of 64 bits. -/
structure Value.IsWord (v : Value) (n : Int) : Prop where
  integer : v.asInt? = some n
  lower : -0x8000000000000000 ≤ n
  upper : n < 0x8000000000000000

/-- Why a value does not stand for such a number: it is no whole number, or has too many bits. -/
inductive Value.NoWord (v : Value) : Fault → Prop where
  | other : v.asInt? = none → NoWord v (.raised "TypeError"
      ("'" ++ v.typeName ++ "' object cannot be interpreted as an integer"))
  | large : v.asInt? = some n → (n < -0x8000000000000000 ∨ 0x8000000000000000 ≤ n) →
      NoWord v (.raised "OverflowError" "Python int too large to convert to C long")

namespace Value
variable {v : Value} {n : Int} {f : Fault}

theorem fitsWord_iff :
    fitsWord n = true ↔ -0x8000000000000000 ≤ n ∧ n < 0x8000000000000000 := by
  simp [fitsWord]

theorem toWord_eq_ok : v.toWord = .ok n ↔ v.IsWord n := by
  unfold toWord
  constructor
  · intro read
    split at read
    · rename_i m integer
      split at read
      · rename_i fits
        cases read
        obtain ⟨lower, upper⟩ := fitsWord_iff.mp fits
        exact ⟨integer, lower, upper⟩
      · cases read
    · cases read
  · rintro ⟨integer, lower, upper⟩
    rw [integer]
    exact if_pos (fitsWord_iff.mpr ⟨lower, upper⟩)

theorem toWord_eq_error : v.toWord = .error f ↔ v.NoWord f := by
  unfold toWord
  constructor
  · intro failed
    split at failed
    · rename_i m integer
      split at failed
      · cases failed
      · rename_i misfit
        cases failed
        rw [fitsWord_iff] at misfit
        exact .large integer (by omega)
    · rename_i other
      cases failed
      exact .other other
  · rintro (other | ⟨integer, misfit⟩)
    · rw [other]
    · rw [integer]
      refine if_neg ?_
      rw [fitsWord_iff]
      omega

end Value

namespace Record

/-- The record has the texts of the message and of the file, the category as it is, and the line as
near as 32 bits allow. -/
structure Converts (message : Printable) (category : Category) (file : Printable) (line : Value)
    (r : Record) : Prop where
  message : message.text = .ok r.message
  category : r.category = category
  filename : file.text = .ok r.filename
  line : ∃ n, line.IsWord n ∧ (r.line : Int) = max 0 (min n 0xffffffff)

/-- The first conversion that fails, in the order message, file, line. -/
inductive FailsFirst (message file : Printable) (line : Value) : Fault → Prop where
  | message : message.text = .error f → FailsFirst message file line f
  | file : message.text = .ok text → file.text = .error f → FailsFirst message file line f
  | line : message.text = .ok text → file.text = .ok name → line.NoWord f →
      FailsFirst message file line f

variable {message file : Printable} {category : Category} {line : Value} {r : Record} {f : Fault}

theorem clampLine_eq (n : Int) : (clampLine n : Int) = max 0 (min n 0xffffffff) := by
  rw [clampLine]
  omega

theorem ofShown_eq_ok :
    ofShown message category file line = .ok r ↔ Converts message category file line r := by
  simp only [ofShown, Except.bind_eq_ok, Value.toWord_eq_ok]
  constructor
  · rintro ⟨text, printed, name, named, n, word, ⟨⟩⟩
    exact ⟨printed, rfl, named, n, word, clampLine_eq n⟩
  · rintro ⟨printed, rfl, named, n, word, clamped⟩
    refine ⟨r.message, printed, r.filename, named, n, word, ?_⟩
    rw [← clampLine_eq] at clamped
    rw [← Int.ofNat.inj clamped]
    rfl

theorem ofShown_eq_error :
    ofShown message category file line = .error f ↔ FailsFirst message file line f := by
  simp only [ofShown, Except.bind_eq_error, Value.toWord_eq_error]
  constructor
  · rintro (unprinted | ⟨text, printed, unnamed | ⟨name, named, other | ⟨n, word, ⟨⟩⟩⟩⟩)
    · exact .message unprinted
    · exact .file printed unnamed
    · exact .line printed named other
  · rintro (unprinted | ⟨printed, unnamed⟩ | ⟨printed, named, other⟩)
    · exact .inl unprinted
    · exact .inr ⟨_, printed, .inl unnamed⟩
    · exact .inr ⟨_, printed, .inr ⟨_, named, .inl other⟩⟩

/-- Either a conversion fails or there is a record. -/
theorem failsFirst_iff : (∃ f, FailsFirst message file line f) ↔
    ¬ ∃ r, Converts message category file line r := by
  simp only [← ofShown_eq_ok, ← @ofShown_eq_error message file category]
  cases ofShown message category file line <;> simp

/-- Lines at or below zero become zero. -/
theorem Converts.line_eq_zero {n : Int} (converts : Converts message category file line r)
    (integer : line.asInt? = some n) (low : n ≤ 0) : r.line = 0 := by
  obtain ⟨_, _, _, m, word, clamped⟩ := converts
  have same : m = n := Option.some.inj (word.integer.symm.trans integer)
  omega

end Record

namespace Session
/-- What becomes of a record once it is counted. It is stored in a buffer; or dropped, with a
remark, while the observer's listener is running; or passed to the listener, once, with the observer
busy in the meantime. -/
inductive Delivers (react : Reaction) (s : Session) (o : Observer) (r : Record) :
    Attempt Unit → Prop where
  | stored : o.collector = .buffer name →
      (∀ other, t.pendingIn other = s.pendingIn other ++ if other = name then [r] else []) →
      t = { s with buffers := t.buffers, history := .stored name r :: .captured r :: s.history } →
      Delivers react s o r (.ok (), t)
  | dropped : o.collector = .listener name → o.id ∈ s.busy →
      Logged { s with history := .dropped o.id r :: .captured r :: s.history } t →
      Delivers react s o r (.ok (), t)
  | passed : o.collector = .listener name → o.id ∉ s.busy →
      react name r { s with
        busy := o.id :: s.busy
        history := .called name o.id r :: .captured r :: s.history } = (outcome, t) →
      Delivers react s o r (outcome, { t with
        busy := t.busy.erase o.id
        history := .returned o.id :: t.history })

variable {objects : HostObjects} {s : Session} {r : Record} {react : Reaction} {o : Observer}

theorem deliver_delivers : Delivers react s o r ((s.add (.captured r)).deliver react o r) := by
  unfold deliver
  split
  · rename_i name buffered
    exact .stored buffered (fun other => store_pendingIn _ name other r) rfl
  · rename_i name listened
    split
    · rename_i busy
      exact .dropped listened (List.contains_iff_mem.mp busy) (note_logged _ rfl)
    · rename_i idle
      have free : o.id ∉ s.busy := fun busy => idle (List.contains_iff_mem.mpr busy)
      cases reacted : react name r ((s.add (.captured r)).enterListener o name r) with
      | mk outcome t => exact .passed listened free reacted

/-- A record without a line stays wherever it is pending when a buffer is flushed with targets,
whatever these are. -/
theorem flush_spares_unplaced (unplaced : r.line = 0) (buffer : String)
    (argument : Except Fault (List String)) :
    (∀ taken, (s.flush objects buffer (some argument)).1 = .ok taken → r ∉ taken) ∧
      ∀ other, ((s.flush objects buffer (some argument)).2.pendingIn other).count r =
        (s.pendingIn other).count r := by
  cases argument with
  | error f => exact ⟨fun _ taken => (nomatch taken), fun _ => rfl⟩
  | ok names =>
    cases found : s.resolve objects names with
    | error err =>
      rw [flush_refused found]
      refine ⟨fun _ taken => (nomatch taken), fun other => ?_⟩
      rw [pendingIn_congr (s.report_remarked err).buffers other]
    | ok resolved =>
      obtain ⟨taken, left⟩ := flush_resolved buffer found
      have unclaimed : ¬ resolved.claimsRecord s.cwd r = true := by
        intro claimed
        have placed := Resolution.line_pos_of_claimsRecord found claimed
        omega
      rw [taken]
      constructor
      · rintro _ ⟨⟩ member
        exact unclaimed (List.mem_filter.mp member).2
      · intro other
        rw [left other]
        split
        · rename_i same
          rw [same]
          exact List.count_filter (by simpa using unclaimed)
        · rfl

/-- A call of an observer raises what the first conversion raises that fails, in the order message,
file, line, and then nothing at all has changed, and no listener was called; or all conversions
succeed, and the record that they make is counted once and delivered once. A record that was made
from a line at or below zero is taken by no flush with targets, whatever these are. -/
theorem conversion_is_exact_or_without_effect (react : Reaction) (s : Session) (o : Observer)
    (message : Printable) (category : Category) (file : Printable) (line : Value) :
    ((∃ f, Record.FailsFirst message file line f) ↔
      ¬ ∃ r, Record.Converts message category file line r) ∧
    (∀ f, Record.FailsFirst message file line f →
      s.callObserver react o message category file line = (.error f, s)) ∧
    (∀ r, Record.Converts message category file line r →
      Delivers react s o r (s.callObserver react o message category file line)) ∧
    ∀ r n, Record.Converts message category file line r → line.asInt? = some n → n ≤ 0 →
      ∀ objects u buffer argument,
        (∀ taken, (Session.flush objects u buffer (some argument)).1 = .ok taken → r ∉ taken) ∧
        ∀ other, ((Session.flush objects u buffer (some argument)).2.pendingIn other).count r =
          (u.pendingIn other).count r := by
  refine ⟨Record.failsFirst_iff, ?_, ?_, ?_⟩
  · intro f failed
    rw [callObserver, Record.ofShown_eq_error.mpr failed]
  · intro r converts
    rw [callObserver, Record.ofShown_eq_ok.mpr converts]
    exact deliver_delivers
  · intro r n converts integer low objects u buffer argument
    exact flush_spares_unplaced (converts.line_eq_zero integer low) buffer argument

/-- An exception of the host that a message raises when it is printed. -/
def mumble : Fault := .raised "RuntimeError" "mumble"

/-- An observer of the buffer that records are waiting in. -/
def collector : Observer := ⟨7, .buffer "buffer"⟩

/-- Listeners that do nothing. -/
def unmoved : Reaction := fun _ _ s => (.ok (), s)

/-- What is stored of a warning from below the first line of a file that holds a function. -/
def fromBelow : Record := ⟨"text", .warning, "/inner.py", 0⟩

/-- The session in which a warning from below the first line was stored. -/
def sunken : Session := (waiting.callObserver unmoved collector (.prints "text") .warning
  (.value (.text "/inner.py")) (.int (-3))).2

/-- A message that cannot be printed comes before a line that is no number. A warning from below the
first line is stored without a line, and a flush that takes what belongs to the functions of the
file leaves it. -/
theorem warning_below_the_first_line_stays :
    waiting.callObserver unmoved collector (.refuses mumble) .warning (.value (.text "/inner.py"))
      .null = (.error mumble, waiting) ∧
    Record.Converts (.prints "text") .warning (.value (.text "/inner.py")) (.int (-3)) fromBelow ∧
    (Value.int (-3)).asInt? = some (-3) ∧ (-3 : Int) ≤ 0 ∧
    Delivers unmoved waiting collector fromBelow (waiting.callObserver unmoved collector
      (.prints "text") .warning (.value (.text "/inner.py")) (.int (-3))) ∧
    (sunken.flush host "buffer" (some (.ok ["method"]))).1 = .ok [onInner, onInner, onOuter] ∧
    fromBelow ∉ [onInner, onInner, onOuter] ∧
    ((sunken.flush host "buffer" (some (.ok ["method"]))).2.pendingIn "buffer").count fromBelow =
      1 := by
  obtain ⟨_, fails, _⟩ := conversion_is_exact_or_without_effect unmoved waiting collector
    (.refuses mumble) .warning (.value (.text "/inner.py")) .null
  obtain ⟨_, _, delivers, stays⟩ := conversion_is_exact_or_without_effect unmoved waiting collector
    (.prints "text") .warning (.value (.text "/inner.py")) (.int (-3))
  have converts : Record.Converts (.prints "text") .warning (.value (.text "/inner.py"))
      (.int (-3)) fromBelow :=
    ⟨rfl, rfl, rfl, -3, ⟨rfl, by decide, by decide⟩, by decide⟩
  obtain ⟨spared, left⟩ :=
    stays fromBelow (-3) converts rfl (by decide) host sunken "buffer" (.ok ["method"])
  have taken : (sunken.flush host "buffer" (some (.ok ["method"]))).1 =
      .ok [onInner, onInner, onOuter] := by decide +kernel
  have stored : (sunken.pendingIn "buffer").count fromBelow = 1 := by decide +kernel
  exact ⟨fails mumble (.message rfl), converts, rfl, by decide, delivers fromBelow converts, taken,
    spared _ taken, (left "buffer").trans stored⟩

end Session
end WarningCapture
