import Mathlib.Data.List.TakeWhile
import Mathlib.Data.Nat.Digits.Defs
import WarningCapture.Policy.Environment

/-! What policy updates ask for, and what becomes of a policy. A field that an update does not give
stays as it is. The environment gives the fields whose values are set to texts, and each of these
must mean something: a truth value, or a number of passes. -/
namespace WarningCapture

namespace Text

/-- Nothing but white space. -/
def Blank (text : String) : Prop := ∀ c ∈ text.toList, isBlank c = true

theorem allBlank_iff {text : String} : allBlank text = true ↔ Blank text := List.all_eq_true

theorem trimStart_eq_nil {cs : List Char} : trimStart cs = [] ↔ ∀ c ∈ cs, isBlank c = true := by
  rw [trimStart, List.dropWhile_eq_nil_iff]

/-- Nothing is left of a text once it is trimmed, just if it is blank. -/
theorem trim_isEmpty_iff {text : String} : (trim text).isEmpty = true ↔ Blank text := by
  rw [trim, String.isEmpty_iff, ← String.toList_inj, String.toList_ofList, trimChars, trimEnd]
  constructor
  · intro empty
    have reversed : ∀ c ∈ trimStart text.toList, isBlank c = true := by
      simpa [trimStart_eq_nil] using empty
    -- What the front was trimmed to starts with no blank, so it is empty.
    cases front : trimStart text.toList with
    | nil => exact trimStart_eq_nil.mp front
    | cons c rest =>
      have solid : isBlank c = false := by
        have first := List.head?_dropWhile_not isBlank text.toList
        rw [show text.toList.dropWhile isBlank = c :: rest from front] at first
        simpa using first
      have blank := reversed c (front ▸ List.mem_cons_self)
      rw [solid] at blank
      cases blank
  · intro blank
    rw [trimStart_eq_nil.mpr blank]
    rfl

end Text

namespace Policy

/-- What becomes of a field: it stays as it was if it is not given, and otherwise becomes what the
given value means. -/
def Becomes {α β : Type} (Means : α → β → Prop) (given : Option α) (before after : β) : Prop :=
  (given = none → after = before) ∧ ∀ value, given = some value → Means value after

/-- A level is taken without the blanks around it, and a blank one clears the field. -/
def MeansLevel (text : String) (level : Option String) : Prop :=
  (Text.Blank text → level = none) ∧ (¬ Text.Blank text → level = some (Text.trim text))

/-- A path is taken as it stands, and a blank one clears the field. -/
def MeansFile (text : String) (file : Option String) : Prop :=
  (Text.Blank text → file = none) ∧ (¬ Text.Blank text → file = some text)

namespace Update

/-- The second policy is the first with exactly the given fields set. -/
structure Sets (u : Update) (p q : Policy) : Prop where
  logLevel : Becomes MeansLevel u.logLevel p.logLevel q.logLevel
  logFile : Becomes MeansFile u.logFile p.logFile q.logFile
  jsonErrors : Becomes Eq u.jsonErrors p.jsonErrors q.jsonErrors
  scrubRegistry : Becomes Eq u.scrubRegistry p.scrubRegistry q.scrubRegistry
  maxScrubPasses : Becomes Eq u.maxScrubPasses p.maxScrubPasses q.maxScrubPasses
  replayUnflushed : Becomes Eq u.replayUnflushed p.replayUnflushed q.replayUnflushed

end Update

variable {p q : Policy} {u : Update}

theorem levelOf_means (text : String) : MeansLevel text (levelOf text) := by
  simp only [MeansLevel, levelOf, ← Text.trim_isEmpty_iff]
  exact ⟨fun blank => if_pos blank, fun kept => if_neg kept⟩

theorem fileOf_means (text : String) : MeansFile text (fileOf text) := by
  simp only [MeansFile, fileOf, ← Text.allBlank_iff]
  exact ⟨fun blank => if_pos blank, fun kept => if_neg kept⟩

theorem becomes_elim {α β : Type} {Means : α → β → Prop} {reads : α → β} {given : Option α}
    (means : ∀ value, given = some value → Means value (reads value)) (before : β) :
    Becomes Means given before (given.elim before reads) := by
  constructor
  · rintro rfl
    rfl
  · rintro value rfl
    exact means value rfl

theorem becomes_getD {α : Type} (given : Option α) (before : α) :
    Becomes Eq given before (given.getD before) := by
  have same : given.getD before = given.elim before id := by cases given <;> rfl
  rw [same]
  exact becomes_elim (fun _ _ => rfl) before

/-- Unless it allows no pass at all, an update sets exactly the fields that it gives. -/
theorem apply_sets (passes : u.maxScrubPasses ≠ some 0) (p : Policy) : u.Sets p (p.apply u) where
  logLevel := becomes_elim (fun text _ => levelOf_means text) _
  logFile := becomes_elim (fun text _ => fileOf_means text) _
  jsonErrors := becomes_getD _ _
  scrubRegistry := becomes_getD _ _
  maxScrubPasses := by
    refine becomes_elim (fun n given => ?_) _
    have positive : n ≠ 0 := fun zero => passes (zero ▸ given)
    exact (Nat.max_eq_right (Nat.one_le_iff_ne_zero.mpr positive)).symm
  replayUnflushed := becomes_getD _ _

/-- A policy that allows a scrub a pass goes on to do so. -/
theorem apply_maxScrubPasses (positive : 1 ≤ p.maxScrubPasses) (u : Update) :
    1 ≤ (p.apply u).maxScrubPasses := by
  rw [apply]
  cases u.maxScrubPasses with
  | none => exact positive
  | some n => exact Nat.le_max_left 1 n

end Policy

namespace Environment

/-- The variable is set, and what it holds is the text. -/
def Holds (values : String → Option ByteArray) (name text : String) : Prop :=
  values name = some text.toUTF8

/-- The words for a truth value. -/
def words : Bool → List String
  | true => ["1", "true", "t", "yes", "y"]
  | false => ["0", "false", "f", "no", "n"]

/-- The text is a word for the truth value, in any letter case and with blanks around it. -/
def MeansTruth (text : String) (b : Bool) : Prop := Text.lower (Text.trim text) ∈ words b

instance (text : String) (b : Bool) : Decidable (MeansTruth text b) :=
  inferInstanceAs (Decidable (_ ∈ _))

/-- The digits, in decimal notation, stand for the number. -/
structure StandsFor (digits : List Char) (n : Nat) : Prop where
  nonempty : digits ≠ []
  all : ∀ c ∈ digits, c.isDigit = true
  value : n = Nat.ofDigits 10 (digits.reverse.map fun c => c.toNat - '0'.toNat)

/-- The text is a positive number of 64 bits in decimal notation, with one plus sign in front or
none, and with blanks around it. -/
structure MeansPasses (text : String) (n : Nat) : Prop where
  written : ∃ digits, StandsFor digits n ∧
    ((Text.trim text).toList = digits ∨ (Text.trim text).toList = '+' :: digits)
  positive : 0 < n
  fits : n < 2 ^ 64

/-- The switches of the policy. -/
def switches : List String := [jsonErrors, scrubRegistry, replayUnflushed]

/-- A switch or the number of passes is set to a text that means none. -/
def Malformed (values : String → Option ByteArray) : Prop :=
  (∃ name ∈ switches, ∃ text, Holds values name text ∧ ∀ b, ¬ MeansTruth text b) ∨
    ∃ text, Holds values maxScrubPasses text ∧ ∀ n, ¬ MeansPasses text n

/-- The field is given just if the variable holds a text, and then as what the text means. -/
def Gives {α : Type} (values : String → Option ByteArray) (name : String)
    (Means : String → α → Prop) (given : Option α) : Prop :=
  ∀ value, given = some value ↔ ∃ text, Holds values name text ∧ Means text value

/-- The update gives the fields whose variables hold texts. -/
structure GivesAll (values : String → Option ByteArray) (u : Policy.Update) : Prop where
  logLevel : Gives values logLevel Eq u.logLevel
  logFile : Gives values logFile Eq u.logFile
  jsonErrors : Gives values jsonErrors MeansTruth u.jsonErrors
  scrubRegistry : Gives values scrubRegistry MeansTruth u.scrubRegistry
  maxScrubPasses : Gives values maxScrubPasses MeansPasses u.maxScrubPasses
  replayUnflushed : Gives values replayUnflushed MeansTruth u.replayUnflushed

variable {values : String → Option ByteArray} {name text : String} {u : Policy.Update} {n : Nat}
  {err : CaptureError}

theorem fromUTF8?_eq_some {bytes : ByteArray} :
    String.fromUTF8? bytes = some text ↔ bytes = text.toUTF8 := by
  unfold String.fromUTF8?
  constructor
  · intro read
    split at read
    · cases read
      rfl
    · cases read
  · rintro rfl
    exact dif_pos text.isValidUTF8

/-- The values that count as set are those that hold texts. -/
theorem get?_ofBytes : (ofBytes values).get? name = some text ↔ Holds values name text := by
  simp only [ofBytes, Option.bind_eq_some_iff, fromUTF8?_eq_some, Holds]
  constructor
  · rintro ⟨_, set, rfl⟩
    exact set
  · intro set
    exact ⟨_, set, rfl⟩

theorem words_apart {word : String} (no : word ∈ words false) : word ∉ words true := by
  simp only [words, List.mem_cons, List.not_mem_nil, or_false] at no
  rcases no with rfl | rfl | rfl | rfl | rfl <;> decide

theorem parseBool_eq_ok (name text : String) (b : Bool) :
    parseBool name text = .ok b ↔ MeansTruth text b := by
  rw [parseBool, MeansTruth]
  simp only [List.contains_iff_mem]
  generalize Text.lower (Text.trim text) = word
  constructor
  · intro read
    split at read
    · rename_i yes
      cases read
      exact yes
    · split at read
      · rename_i no
        cases read
        exact no
      · cases read
  · intro means
    cases b with
    | true => exact if_pos means
    | false => exact (if_neg (words_apart means)).trans (if_pos means)

theorem parseBool_code (failed : parseBool name text = .error err) :
    err.code = .invalidPolicyValue := by
  unfold parseBool at failed
  simp only at failed
  split at failed
  · cases failed
  · split at failed
    · cases failed
    · cases failed
      rfl

theorem digitsValue_eq (digits : List Char) : digitsValue digits =
    Nat.ofDigits 10 (digits.reverse.map fun c => c.toNat - '0'.toNat) := by
  rw [digitsValue, Nat.ofDigits_eq_foldr, List.foldl_eq_foldr_reverse, List.foldr_map]
  simp only [Nat.cast_id, Nat.add_comm]

/-- A sign in front is told from the digits behind it. -/
theorem signless_eq {cs digits : List Char} (plain : digits.head? ≠ some '+') :
    (if cs.head? = some '+' then cs.drop 1 else cs) = digits ↔
      cs = digits ∨ cs = '+' :: digits := by
  cases cs with
  | nil => simp
  | cons c rest =>
    by_cases signed : c = '+'
    · subst signed
      have other : '+' :: rest ≠ digits := by
        rintro rfl
        exact plain rfl
      simp [other]
    · simp [signed]

theorem StandsFor.plain {digits : List Char} (stands : StandsFor digits n) :
    digits.head? ≠ some '+' := by
  intro signed
  have digit := stands.all '+' (List.mem_of_head? signed)
  cases digit

theorem digits_eq_some {digits : List Char} :
    (if digits.isEmpty || !digits.all Char.isDigit then none
      else if digitsValue digits < UInt64.size then some (digitsValue digits) else none) = some n ↔
      n < 2 ^ 64 ∧ StandsFor digits n := by
  simp only [Bool.or_eq_true, List.isEmpty_iff, Bool.not_eq_true', UInt64.size]
  constructor
  · intro read
    split at read
    · cases read
    · rename_i wellFormed
      rw [not_or, Bool.not_eq_false, List.all_eq_true] at wellFormed
      split at read
      · rename_i fits
        cases read
        exact ⟨fits, wellFormed.1, wellFormed.2, digitsValue_eq digits⟩
      · cases read
  · rintro ⟨fits, nonempty, all, rfl⟩
    rw [← digitsValue_eq] at fits ⊢
    rw [if_neg (by simpa [nonempty] using all)]
    exact if_pos fits

theorem parseCount_eq_some : parseCount text = some n ↔ n < 2 ^ 64 ∧ ∃ digits,
    StandsFor digits n ∧ (text.toList = digits ∨ text.toList = '+' :: digits) := by
  have read : parseCount text = some n ↔ n < 2 ^ 64 ∧
      StandsFor (if text.toList.head? = some '+' then text.toList.drop 1 else text.toList) n :=
    digits_eq_some
  rw [read]
  refine and_congr_right fun _ => ⟨fun stands => ⟨_, stands, ?_⟩, ?_⟩
  · exact (signless_eq stands.plain).mp rfl
  · rintro ⟨digits, stands, shape⟩
    rwa [(signless_eq stands.plain).mpr shape]

theorem parsePasses_eq_ok (text : String) (n : Nat) :
    parsePasses text = .ok n ↔ MeansPasses text n := by
  unfold parsePasses
  simp only
  constructor
  · intro read
    split at read
    · rename_i m found
      cases read
      obtain ⟨fits, written⟩ := parseCount_eq_some.mp found
      exact ⟨written, Nat.succ_pos m, fits⟩
    · cases read
  · rintro ⟨written, positive, fits⟩
    obtain ⟨m, rfl⟩ : ∃ m, n = m + 1 := ⟨n - 1, by omega⟩
    rw [parseCount_eq_some.mpr ⟨fits, written⟩]

theorem parsePasses_code (failed : parsePasses text = .error err) :
    err.code = .invalidPolicyValue := by
  unfold parsePasses at failed
  simp only at failed
  split at failed
  · cases failed
  · cases failed
    rfl

section
variable {α : Type} {Means : String → α → Prop} {parse : String → Except CaptureError α}
  {given : Option α}

/-- If the variable holds a text, this means something. -/
def Meant (values : String → Option ByteArray) (name : String) (Means : String → α → Prop) : Prop :=
  ∀ text, Holds values name text → ∃ value, Means text value

theorem Gives.unique {other : Option α} (gives : Gives values name Means given)
    (again : Gives values name Means other) : given = other := by
  ext value
  rw [gives value, again value]

/-- A variable is read without fail if a text that it holds means something. -/
theorem optional_eq_ok (parses : ∀ text value, parse text = .ok value ↔ Means text value) :
    (ofBytes values).optional name parse = .ok given ↔
      Meant values name Means ∧ Gives values name Means given := by
  simp only [optional, Meant, Gives, ← get?_ofBytes, ← parses]
  cases (ofBytes values).get? name with
  | none => cases given <;> simp
  | some text =>
    cases read : parse text with
    | error err => cases given <;> simp [Except.map, read]
    | ok value => cases given <;> simp [Except.map, read, eq_comm]

theorem Meant.exists_gives (parses : ∀ text value, parse text = .ok value ↔ Means text value)
    (meant : Meant values name Means) : ∃ given, Gives values name Means given := by
  cases held : (ofBytes values).get? name with
  | none =>
    have unset (text : String) : ¬ Holds values name text := by simp [← get?_ofBytes, held]
    exact ⟨none, fun value => by simp [unset]⟩
  | some text =>
    obtain ⟨value, means⟩ := meant text (get?_ofBytes.mp held)
    have read := (parses text value).mpr means
    refine ⟨some value, fun other => ?_⟩
    simp only [← get?_ofBytes, held, ← parses, Option.some.injEq, exists_eq_left', read,
      Except.ok.injEq]

theorem optional_code (codes : ∀ text, parse text = .error err → err.code = .invalidPolicyValue)
    (failed : (ofBytes values).optional name parse = .error err) :
    err.code = .invalidPolicyValue := by
  unfold optional at failed
  split at failed
  · cases failed
  · rename_i text _
    cases read : parse text with
    | error other =>
      rw [read] at failed
      cases failed
      exact codes text read
    | ok value =>
      rw [read] at failed
      cases failed

end

theorem not_malformed_iff : ¬ Malformed values ↔
    Meant values jsonErrors MeansTruth ∧ Meant values scrubRegistry MeansTruth ∧
      Meant values replayUnflushed MeansTruth ∧ Meant values maxScrubPasses MeansPasses := by
  simp only [Malformed, Meant, switches, not_or, not_exists, not_and, not_forall, not_not,
    List.forall_mem_cons, List.not_mem_nil, IsEmpty.forall_iff, implies_true, and_true, and_assoc]

/-- A variable that is taken as it stands. -/
theorem gives_get? (name : String) : Gives values name Eq ((ofBytes values).get? name) := by
  simp [Gives, get?_ofBytes]

/-- An update is read from the environment just if all texts that variables hold mean something, and
then it gives the fields of these variables. -/
theorem policyUpdate_eq_ok :
    (ofBytes values).policyUpdate = .ok u ↔ ¬ Malformed values ∧ GivesAll values u := by
  simp only [policyUpdate, Except.bind_eq_ok, optional_eq_ok (parseBool_eq_ok _),
    optional_eq_ok parsePasses_eq_ok, not_malformed_iff]
  constructor
  · rintro ⟨json, ⟨meantJson, givesJson⟩, scrub, ⟨meantScrub, givesScrub⟩, n, ⟨meantPasses,
      givesPasses⟩, replay, ⟨meantReplay, givesReplay⟩, ⟨⟩⟩
    exact ⟨⟨meantJson, meantScrub, meantReplay, meantPasses⟩,
      ⟨gives_get? logLevel, gives_get? logFile, givesJson, givesScrub, givesPasses, givesReplay⟩⟩
  · rintro ⟨⟨meantJson, meantScrub, meantReplay, meantPasses⟩, gives⟩
    refine ⟨_, ⟨meantJson, gives.jsonErrors⟩, _, ⟨meantScrub, gives.scrubRegistry⟩, _,
      ⟨meantPasses, gives.maxScrubPasses⟩, _, ⟨meantReplay, gives.replayUnflushed⟩, ?_⟩
    rw [(gives_get? logLevel).unique gives.logLevel, (gives_get? logFile).unique gives.logFile]
    rfl

theorem exists_policyUpdate (wellFormed : ¬ Malformed values) :
    ∃ u, (ofBytes values).policyUpdate = .ok u := by
  obtain ⟨json, scrub, replay, passes⟩ := not_malformed_iff.mp wellFormed
  obtain ⟨_, givesJson⟩ := json.exists_gives (parseBool_eq_ok jsonErrors)
  obtain ⟨_, givesScrub⟩ := scrub.exists_gives (parseBool_eq_ok scrubRegistry)
  obtain ⟨_, givesReplay⟩ := replay.exists_gives (parseBool_eq_ok replayUnflushed)
  obtain ⟨_, givesPasses⟩ := passes.exists_gives parsePasses_eq_ok
  exact ⟨⟨_, _, _, _, _, _⟩, policyUpdate_eq_ok.mpr ⟨wellFormed, gives_get? logLevel,
    gives_get? logFile, givesJson, givesScrub, givesPasses, givesReplay⟩⟩

theorem GivesAll.passes (gives : GivesAll values u) : u.maxScrubPasses ≠ some 0 := by
  intro zero
  obtain ⟨_, _, means⟩ := (gives.maxScrubPasses 0).mp zero
  exact absurd means.positive (Nat.lt_irrefl 0)

theorem policyUpdate_code (failed : (ofBytes values).policyUpdate = .error err) :
    err.code = .invalidPolicyValue := by
  have truth (name text : String) (refused : parseBool name text = .error err) :
      err.code = .invalidPolicyValue := parseBool_code refused
  simp only [policyUpdate, Except.bind_eq_error] at failed
  rcases failed with json | ⟨_, _, scrub | ⟨_, _, passes | ⟨_, _, replay | ⟨_, _, failed⟩⟩⟩⟩
  · exact optional_code (truth _) json
  · exact optional_code (truth _) scrub
  · exact optional_code (fun _ => parsePasses_code) passes
  · exact optional_code (truth _) replay
  · cases failed

end Environment
end WarningCapture
