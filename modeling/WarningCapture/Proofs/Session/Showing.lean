import WarningCapture.Proofs.Session.Booking

/-! Warnings while an observer is in force. The filter that shows every warning comes first and the
hook is the observer, so whatever can be emitted at all becomes a record and is delivered. -/
namespace WarningCapture

namespace Facility
variable {f g : Facility} {o : Observer} {message : String} {category : Category} {line : Int}

/-- Every warning is shown through the observer. -/
structure ShowsTo (f : Facility) (o : Observer) : Prop where
  hook : f.hook = some (.observer o)
  list : f.binding = .list
  first : ∃ rest, f.filterList = Filter.showAll :: rest

/-- What the emitting function makes a warning of: a message that a class of warnings takes, at a
line that it takes itself. -/
structure Takes (message : String) (category : Category) (line : Int) : Prop where
  below : Category.isBelow .warning category = true
  constructed : category.construct message = .ok ()
  line : checkLine line = .ok ()

theorem ShowsTo.of_leftAlone (shows : f.ShowsTo o) (same : f.LeftAlone g) : g.ShowsTo o where
  hook := same.hook.trans shows.hook
  list := same.binding.trans shows.list
  first := by rw [same.filterList]; exact shows.first

theorem checkLine_ok (accepted : checkLine line = .ok ()) :
    -0x80000000 ≤ line ∧ line < 0x80000000 := by
  unfold checkLine at accepted
  split at accepted
  · cases accepted
  · split at accepted
    · cases accepted
    · split at accepted
      · cases accepted
      · omega

/-- Neither the hook nor a filter has a say in what the emitting function refuses. -/
theorem emit_refused (f : Facility) {fault : Fault} (refused : checkLine line = .error fault ∨
    checkLine line = .ok () ∧ category.construct message = .error fault) :
    f.emit message category line = (.fails fault, f) := by
  unfold Facility.emit
  rcases refused with badLine | ⟨line, construct⟩
  · rw [badLine]
  · rw [line, construct]

/-- No later filter has a say. -/
theorem ShowsTo.emit (shows : f.ShowsTo o) (taken : Takes message category line) :
    f.emit message category line = (.shown (some (.observer o)), f.consult.2) := by
  obtain ⟨rest, first⟩ := shows.first
  have always : Filter.actionFor category f.filterList = .always := by
    simp only [first, Filter.actionFor, List.find?_cons, Filter.showAll, taken.below]
  have consulted : f.consult = (.ok f.filterList, { f with consultedTuple := false }) := by
    simp only [consult, shows.list]
  simp only [Facility.emit, taken.line, taken.constructed, decideWarning, consulted, always,
    shows.hook]

end Facility

theorem Record.ofShown_text {line : Int} (accepted : Facility.checkLine line = .ok ())
    (message : String) (category : Category) (file : String) :
    Record.ofShown (.value (.text message)) category (.value (.text file)) (.int line) =
      .ok ⟨message, category, file, line.toNat⟩ := by
  obtain ⟨lower, upper⟩ := Facility.checkLine_ok accepted
  have fits : fitsWord line = true := by simp [fitsWord]; omega
  have word : Value.toWord (.int line) = .ok line := by
    simp only [Value.toWord, Value.asInt?, fits, if_true]
  have clamped : clampLine line = line.toNat := by
    unfold clampLine
    omega
  simp only [Record.ofShown, Printable.text, Value.printed, word, bind, Except.bind, pure,
    Except.pure, clamped]

namespace Session
variable {react : Reaction} {s : Session} {o : Observer} {message file : String}
  {category : Category} {line : Int}

/-- A record goes into a buffer, or it is dropped because the listener is running under the
observer, or the listener is called with it. -/
theorem deliver_cases (react : Reaction) (s : Session) (o : Observer) (r : Record) :
    (∃ name, o.collector = .buffer name ∧ s.deliver react o r = (.ok (), s.store name r)) ∨
    (s.Remarked (s.deliver react o r).2 ∧ s.isBusy o = true) ∨
    ∃ name, o.collector = .listener name ∧ s.isBusy o = false ∧
      s.deliver react o r = ((react name r (s.enterListener o name r)).1,
        (react name r (s.enterListener o name r)).2.leaveListener o) := by
  unfold deliver
  split
  · rename_i name buffer
    exact .inl ⟨name, buffer, rfl⟩
  · rename_i name listener
    split
    · rename_i busy
      exact .inr (.inl ⟨(s.add_remarked rfl).trans (note_remarked _ _), busy⟩)
    · rename_i idle
      exact .inr (.inr ⟨name, listener, by simpa using idle, rfl⟩)

theorem emit_fails {f : Fault} (fails : s.sinks.facility.emit message category line =
    (.fails f, s.sinks.facility)) : s.emit react message category file line = (.error f, s) := by
  unfold emit
  rw [fails]
  rfl

/-- A warning that the emitting function takes comes to the observer in force, as a record with its
message, category and file, and with its line unless that is negative. -/
theorem emit_shown (shows : s.sinks.facility.ShowsTo o)
    (taken : Facility.Takes message category line) :
    s.emit react message category file line =
      ((s.withFacility s.sinks.facility.consult.2).add
          (.captured ⟨message, category, file, line.toNat⟩)).deliver react o
        ⟨message, category, file, line.toNat⟩ := by
  simp only [emit, shows.emit taken, callHook, callObserver, Record.ofShown_text taken.line]

end Session
end WarningCapture
