import Mathlib.Data.List.Forall2
import WarningCapture.Proofs.Log.Filters
import WarningCapture.Proofs.Text.Splitting

/-! What a filter specification says. Its parts stand between commas, and it is read just if each of
them is a level or has one after its first equals sign. For a target the part with the longest name
that covers it decides, of equally long ones the last, and where there is none the last bare level. -/
namespace WarningCapture.Log

/-- The name of a threshold in small letters. -/
def Threshold.word : Threshold → String
  | off => "off"
  | upTo .error => "error"
  | upTo .warn => "warn"
  | upTo .info => "info"
  | upTo .debug => "debug"
  | upTo .trace => "trace"

/-- The text is the name of the threshold, in small or capital letters. -/
def Threshold.Spells (t : Threshold) (text : List Char) : Prop :=
  text.map Char.toLower = t.word.toList

/-- What a part of a specification says: a level for all targets, or one for the target that is named
before the first equals sign. -/
inductive Part.Reads : List Char → Part → Prop where
  | bare : '=' ∉ text → t.Spells text → Reads text (.bare t)
  | override : '=' ∉ name → t.Spells (Text.trimChars level) →
      Reads (name ++ '=' :: level) (.override (String.ofList (Text.trimChars name)) t)

/-- The name is that of the target, or of one that the target lies below. -/
def Covers (name target : String) : Prop := target = name ∨ ∃ rest, target = name ++ "::" ++ rest

namespace Directives

/-- The parts of a specification, without the blanks around them. -/
def written (spec : String) : List (List Char) :=
  ((spec.toList.splitOn ',').map Text.trimChars).filter (· ≠ [])

/-- The threshold for the targets that are not named: the last bare one, or the given one if there
is none. -/
inductive Remaining (given : Threshold) (ps : List Part) : Threshold → Prop where
  | bare : ps = before ++ .bare t :: after → (∀ other, .bare other ∉ after) → Remaining given ps t
  | given : (∀ t, .bare t ∉ ps) → Remaining given ps given

/-- The threshold for a target: that of the last part among those with the longest name that covers
it, or the remaining one if no name covers it. -/
inductive Decides (given : Threshold) (ps : List Part) (target : String) : Threshold → Prop where
  | override : ps = before ++ .override name t :: after → Covers name target →
      (∀ other u, .override other u ∈ ps → Covers other target → other.length ≤ name.length) →
      (∀ other u, .override other u ∈ after → Covers other target → other.length < name.length) →
      Decides given ps target t
  | remaining : (∀ name t, .override name t ∈ ps → ¬ Covers name target) →
      Remaining given ps t → Decides given ps target t

end Directives

theorem Threshold.lower_name (t : Threshold) : Text.lower t.name = t.word := by
  cases t with
  | off => decide
  | upTo level => cases level <;> decide

theorem Threshold.word_injective {t u : Threshold} (same : t.word = u.word) : t = u := by
  revert same
  cases t with
  | off => cases u with
    | off => exact fun _ => rfl
    | upTo level => cases level <;> decide
  | upTo level => cases u with
    | off => cases level <;> decide
    | upTo other => cases level <;> cases other <;> decide

/-- Names of thresholds are read in any case of their letters, and nothing else is. -/
theorem Threshold.parse_eq_some {text : List Char} {t : Threshold} :
    Threshold.parse (String.ofList text) = some t ↔ t.Spells text := by
  have lowered : Text.lower (String.ofList text) = String.ofList (text.map Char.toLower) := by
    rw [Text.lower, String.toList_ofList]
  have spells (u : Threshold) :
      (Text.lower u.name == Text.lower (String.ofList text)) = true ↔ u.Spells text := by
    rw [beq_iff_eq, lower_name, lowered, Spells, ← String.toList_inj, String.toList_ofList, eq_comm]
  rw [Threshold.parse]
  constructor
  · intro found
    have named := List.find?_some found
    exact (spells t).mp named
  · intro spelled
    cases found : all.find? fun u => Text.lower u.name == Text.lower (String.ofList text) with
    | none => exact absurd ((spells t).mpr spelled) (List.find?_eq_none.mp found t (mem_all t))
    | some u =>
      have named := List.find?_some found
      have other := (spells u).mp named
      rw [word_injective (String.toList_inj.mp (other.symm.trans spelled))]

namespace Part

theorem parse_bare {text : List Char} (undivided : '=' ∉ text) :
    Part.parse text = (Threshold.parse (String.ofList text)).map bare := by
  rw [Part.parse, if_neg (by simpa using undivided)]

theorem parse_divided {name level : List Char} (first : '=' ∉ name) :
    Part.parse (name ++ '=' :: level) =
      (Threshold.parse (String.ofList (Text.trimChars level))).map
        (override (String.ofList (Text.trimChars name))) := by
  have before : ∀ c ∈ name, decide (c ≠ '=') = true := by
    intro c member
    rw [decide_eq_true_eq]
    rintro rfl
    exact first member
  have taken : (name ++ '=' :: level).takeWhile (· ≠ '=') = name := by
    rw [List.takeWhile_append_of_pos before]
    simp
  have dropped : (name ++ '=' :: level).dropWhile (· ≠ '=') = '=' :: level := by
    rw [List.dropWhile_append_of_pos before]
    simp
  rw [Part.parse, if_pos (by simp)]
  simp only [taken, dropped, List.drop_one, List.tail_cons, Text.trim, String.toList_ofList]

/-- A part is read just as it says. -/
theorem parse_eq_some {text : List Char} {p : Part} : Part.parse text = some p ↔ Reads text p := by
  constructor
  · intro parsed
    by_cases divided : '=' ∈ text
    · obtain ⟨name, level, rfl, first⟩ := List.eq_append_cons_of_mem divided
      rw [parse_divided first, Option.map_eq_some_iff] at parsed
      obtain ⟨t, named, rfl⟩ := parsed
      exact .override first (Threshold.parse_eq_some.mp named)
    · rw [parse_bare divided, Option.map_eq_some_iff] at parsed
      obtain ⟨t, named, rfl⟩ := parsed
      exact .bare divided (Threshold.parse_eq_some.mp named)
  · intro reads
    cases reads with
    | bare undivided spelled => rw [parse_bare undivided, Threshold.parse_eq_some.mpr spelled]; rfl
    | override first spelled => rw [parse_divided first, Threshold.parse_eq_some.mpr spelled]; rfl

def override? : Part → Option (String × Threshold)
  | bare _ => none
  | override name t => some (name, t)

def bare? : Part → Option Threshold
  | bare t => some t
  | override _ _ => none

theorem override?_eq_some {p : Part} {entry : String × Threshold} :
    p.override? = some entry ↔ p = .override entry.1 entry.2 := by
  obtain ⟨name, t⟩ := entry
  cases p <;> simp [override?]

theorem bare?_eq_some {p : Part} {t : Threshold} : p.bare? = some t ↔ p = .bare t := by
  cases p <;> simp [bare?]

end Part

theorem covers_iff {name target : String} :
    covers name.toList target.toList = true ↔ Covers name target := by
  rw [covers, Bool.or_eq_true, beq_iff_eq, String.toList_inj, List.isPrefixOf_iff_prefix, Covers]
  refine or_congr eq_comm ?_
  constructor
  · rintro ⟨rest, below⟩
    refine ⟨String.ofList rest, String.toList_inj.mp ?_⟩
    simpa using below.symm
  · rintro ⟨rest, rfl⟩
    exact ⟨rest.toList, by simp⟩

namespace Directives
variable {spec target : String} {given t : Threshold} {ps : List Part} {d : Directives}

theorem pieces_eq (sep : Char) (text : List Char) : pieces sep text = text.splitOn sep := by
  induction text with
  | nil => rfl
  | cons c rest ih =>
    rw [pieces, ih, Text.splitOn_cons]
    cases cut : rest.splitOn sep with
    | nil => exact absurd cut (Text.splitOn_ne_nil rest)
    | cons first others => rfl

theorem parts_eq (spec : String) : parts spec = written spec := by
  rw [parts, written, pieces_eq]
  refine List.filter_congr fun part _ => ?_
  cases part <;> rfl

theorem mapM_parse {texts : List (List Char)} :
    texts.mapM Part.parse = some ps ↔ List.Forall₂ Part.Reads texts ps := by
  induction texts generalizing ps with
  | nil => simp [List.forall₂_nil_left_iff, eq_comm]
  | cons text rest ih =>
    simp only [List.mapM_cons, Option.bind_eq_bind, Option.bind_eq_some_iff, Option.pure_def,
      Option.some.injEq, ih, Part.parse_eq_some, List.forall₂_cons_left_iff]
    constructor
    · rintro ⟨p, first, others, later, rfl⟩
      exact ⟨p, others, first, later, rfl⟩
    · rintro ⟨p, others, first, later, rfl⟩
      exact ⟨p, first, others, later, rfl⟩

theorem foldl_add (ps : List Part) (d : Directives) : ps.foldl add d =
    { fallback := (ps.filterMap Part.bare?).getLast?.getD d.fallback
      overrides := d.overrides ++ ps.filterMap Part.override? } := by
  induction ps generalizing d with
  | nil => simp
  | cons p rest ih =>
    rw [List.foldl_cons, ih]
    cases p with
    | bare t => simp [add, Part.bare?, Part.override?, List.filterMap_cons, List.getLast?_cons]
    | override name t => simp [add, Part.bare?, Part.override?, List.filterMap_cons]

theorem parse_eq_some : parse spec given = some d ↔
    ∃ ps, List.Forall₂ Part.Reads (written spec) ps ∧ d = ps.foldl add { fallback := given } := by
  simp only [parse, parts_eq, Option.map_eq_some_iff, mapM_parse, eq_comm (a := d)]

theorem parse_isSome : (parse spec given).isSome = true ↔
    ∀ part ∈ written spec, ∃ p, Part.Reads part p := by
  simp only [Option.isSome_iff_exists, parse_eq_some, exists_comm (α := Directives),
    exists_and_left, exists_eq, and_true]
  generalize written spec = texts
  induction texts with
  | nil => simp [List.forall₂_nil_left_iff]
  | cons text rest ih =>
    rw [List.forall_mem_cons, ← ih]
    simp only [List.forall₂_cons_left_iff]
    constructor
    · rintro ⟨_, p, others, first, later, rfl⟩
      exact ⟨⟨p, first⟩, others, later⟩
    · rintro ⟨⟨p, first⟩, others, later⟩
      exact ⟨p :: others, p, others, first, later, rfl⟩

theorem filterMap_bare?_eq_nil : ps.filterMap Part.bare? = [] ↔ ∀ t, .bare t ∉ ps := by
  rw [List.filterMap_eq_nil_iff]
  constructor
  · intro nothing t member
    cases nothing _ member
  · intro nothing p member
    cases p with
    | bare t => exact absurd member (nothing t)
    | override => rfl

/-- The last of the bare levels is what remains. -/
theorem remaining_getLast? (given : Threshold) (ps : List Part) :
    Remaining given ps ((ps.filterMap Part.bare?).getLast?.getD given) := by
  rcases List.eq_nil_or_concat (ps.filterMap Part.bare?) with nothing | ⟨front, t, last⟩
  · rw [nothing]
    exact .given (filterMap_bare?_eq_nil.mp nothing)
  · rw [List.concat_eq_append] at last
    rw [last, List.getLast?_concat, Option.getD_some]
    obtain ⟨before, rest, rfl, -, ends⟩ := List.filterMap_eq_append_iff.mp last
    obtain ⟨skipped, p, after, rfl, -, here, later⟩ := List.filterMap_eq_cons_iff.mp ends
    rw [Part.bare?_eq_some.mp here]
    exact .bare (List.append_assoc before skipped _).symm (filterMap_bare?_eq_nil.mp later)

theorem Remaining.eq {t : Threshold} (remaining : Remaining given ps t) :
    (ps.filterMap Part.bare?).getLast?.getD given = t := by
  cases remaining with
  | bare split unrepeated =>
    rw [split, List.filterMap_append, List.filterMap_cons]
    simp [Part.bare?, filterMap_bare?_eq_nil.mpr unrepeated]
  | given nothing =>
    rw [filterMap_bare?_eq_nil.mpr nothing]
    rfl

/-- A list that is not empty has a last element among those with the longest names. -/
theorem exists_last_longest {entries : List (String × Threshold)} (nonempty : entries ≠ []) :
    ∃ before entry after, entries = before ++ entry :: after ∧
      (∀ other ∈ entries, other.1.length ≤ entry.1.length) ∧
      ∀ other ∈ after, other.1.length < entry.1.length := by
  induction entries with
  | nil => exact absurd rfl nonempty
  | cons first rest ih =>
    by_cases alone : rest = []
    · subst alone
      exact ⟨[], first, [], rfl, by simp, by simp⟩
    · obtain ⟨before, entry, after, split, longest, last⟩ := ih alone
      by_cases longer : entry.1.length < first.1.length
      · refine ⟨[], first, rest, rfl, ?_, fun other member => ?_⟩
        · rw [List.forall_mem_cons]
          exact ⟨Nat.le_refl _, fun other member => ((longest other member).trans_lt longer).le⟩
        · exact (longest other member).trans_lt longer
      · refine ⟨first :: before, entry, after, by rw [split]; rfl, ?_, last⟩
        rw [List.forall_mem_cons]
        exact ⟨Nat.le_of_not_lt longer, longest⟩

/-- The last of the longest is what the search for the most specific comes to. -/
theorem foldl_moreSpecific {before after : List (String × Threshold)} {entry : String × Threshold}
    (longest : ∀ other ∈ before, other.1.length ≤ entry.1.length)
    (last : ∀ other ∈ after, other.1.length < entry.1.length) :
    (before ++ entry :: after).foldl moreSpecific none = some entry := by
  have stays : ∀ rest : List (String × Threshold), (∀ other ∈ rest, other.1.length < entry.1.length) →
      rest.foldl moreSpecific (some entry) = some entry := by
    intro rest shorter
    induction rest with
    | nil => rfl
    | cons other rest ih =>
      obtain ⟨here, later⟩ := List.forall_mem_cons.mp shorter
      rw [List.foldl_cons, moreSpecific, if_pos here, ih later]
  rw [List.foldl_append, List.foldl_cons]
  have taken : moreSpecific (before.foldl moreSpecific none) entry = some entry := by
    cases found : before.foldl moreSpecific none with
    | none => rfl
    | some best =>
      have member : best ∈ before := (mem_of_moreSpecific found).resolve_left nofun
      exact if_neg (Nat.not_lt.mpr (longest best member))
  rw [taken, stays after last]

/-- The overrides whose names cover a target, in the order of the parts. -/
def covering (ps : List Part) (target : String) : List (String × Threshold) :=
  ps.filterMap fun p => p.override?.filter fun entry => covers entry.1.toList target.toList

theorem mem_covering {name : String} {t : Threshold} :
    (name, t) ∈ covering ps target ↔ .override name t ∈ ps ∧ Covers name target := by
  simp only [covering, List.mem_filterMap, Option.filter_eq_some_iff, Part.override?_eq_some,
    covers_iff]
  constructor
  · rintro ⟨_, member, rfl, covered⟩
    exact ⟨member, covered⟩
  · rintro ⟨member, covered⟩
    exact ⟨_, member, rfl, covered⟩

theorem threshold_foldl_add (given : Threshold) (ps : List Part) (target : String) :
    (ps.foldl add { fallback := given }).threshold target =
      (((covering ps target).foldl moreSpecific none).map Prod.snd).getD
        ((ps.filterMap Part.bare?).getLast?.getD given) := by
  have listed : (ps.filterMap Part.override?).filter
      (fun entry => covers entry.1.toList target.toList) = covering ps target :=
    List.filter_filterMap
  rw [foldl_add, threshold]
  simp only [List.nil_append, listed]
  cases (covering ps target).foldl moreSpecific none <;> rfl

/-- What decides on a target is its threshold. -/
theorem Decides.eq {t : Threshold} (decides : Decides given ps target t) :
    (ps.foldl add { fallback := given }).threshold target = t := by
  rw [threshold_foldl_add]
  cases decides with
  | override split covered longest last =>
    rename_i before after name
    have chosen : covering ps target =
        covering before target ++ (name, t) :: covering after target := by
      have here : ((Part.override name t).override?.filter fun entry =>
          covers entry.1.toList target.toList) = some (name, t) :=
        Option.filter_eq_some_iff.mpr ⟨rfl, covers_iff.mpr covered⟩
      rw [split, covering, List.filterMap_append, List.filterMap_cons, here]
      rfl
    have earlier : ∀ other ∈ covering before target, other.1.length ≤ name.length := by
      rintro ⟨other, u⟩ member
      obtain ⟨member, covered⟩ := mem_covering.mp member
      exact longest other u (split ▸ List.mem_append_left _ member) covered
    have later : ∀ other ∈ covering after target, other.1.length < name.length := by
      rintro ⟨other, u⟩ member
      obtain ⟨member, covered⟩ := mem_covering.mp member
      exact last other u member covered
    rw [chosen, foldl_moreSpecific earlier later]
    rfl
  | remaining uncovered remains =>
    have nothing : covering ps target = [] := by
      refine List.eq_nil_iff_forall_not_mem.mpr fun ⟨name, u⟩ member => ?_
      obtain ⟨member, covered⟩ := mem_covering.mp member
      exact uncovered name u member covered
    rw [nothing]
    exact remains.eq

/-- For every target something decides. -/
theorem exists_decides (given : Threshold) (ps : List Part) (target : String) :
    ∃ t, Decides given ps target t := by
  by_cases uncovered : covering ps target = []
  · refine ⟨_, .remaining (fun name t member covered => ?_) (remaining_getLast? given ps)⟩
    have listed := mem_covering.mpr ⟨member, covered⟩
    rw [uncovered] at listed
    cases listed
  · obtain ⟨front, ⟨name, t⟩, back, split, longest, last⟩ := exists_last_longest uncovered
    obtain ⟨before, rest, rfl, -, ends⟩ := List.filterMap_eq_append_iff.mp split
    obtain ⟨skipped, p, after, rfl, -, here, later⟩ := List.filterMap_eq_cons_iff.mp ends
    obtain ⟨here, covered⟩ := Option.filter_eq_some_iff.mp here
    rw [Part.override?_eq_some.mp here] at longest ⊢
    refine ⟨t, .override (List.append_assoc before skipped _).symm (covers_iff.mp covered)
      (fun other u member covered => ?_) (fun other u member covered => ?_)⟩
    · exact longest (other, u) (mem_covering.mpr ⟨member, covered⟩)
    · refine last (other, u) ?_
      rw [← later]
      exact mem_covering.mpr ⟨member, covered⟩

theorem decides_iff {t : Threshold} : Decides given ps target t ↔
    (ps.foldl add { fallback := given }).threshold target = t := by
  constructor
  · exact Decides.eq
  · rintro rfl
    obtain ⟨t, decides⟩ := exists_decides given ps target
    rw [decides.eq]
    exact decides

end Directives
namespace Logger

/-- The threshold that a filter of the environment is read over: what remains in the default filter,
and warnings if that is malformed. -/
inductive DefaultRemains (defaultSpec : String) : Threshold → Prop where
  | read : Directives.parse defaultSpec (.upTo .warn) = some d → DefaultRemains defaultSpec d.fallback
  | malformed : Directives.parse defaultSpec (.upTo .warn) = none →
      DefaultRemains defaultSpec (.upTo .warn)

/-- The filter that a logger is installed with: that of the environment, if there is one that can be
read, else the default filter, if that can be read, else warnings for every target. -/
inductive InForce (defaultSpec : String) (environment : Option String) : Directives → Prop where
  | environment : environment = some spec → DefaultRemains defaultSpec given →
      Directives.parse spec given = some d → InForce defaultSpec environment d
  | default : (∀ spec given, environment = some spec → DefaultRemains defaultSpec given →
        Directives.parse spec given = none) →
      Directives.parse defaultSpec (.upTo .warn) = some d → InForce defaultSpec environment d
  | warnings : (∀ spec given, environment = some spec → DefaultRemains defaultSpec given →
        Directives.parse spec given = none) →
      Directives.parse defaultSpec (.upTo .warn) = none →
      (∀ target, d.threshold target = .upTo .warn) → InForce defaultSpec environment d

variable {defaultSpec : String} {environment : Option String}

theorem defaultRemains_iff {given : Threshold} :
    DefaultRemains defaultSpec given ↔ (defaultDirectives defaultSpec).fallback = given := by
  rw [defaultDirectives]
  cases read : Directives.parse defaultSpec (.upTo .warn) with
  | none =>
    constructor
    · intro remains
      cases remains with
      | read found => cases read.symm.trans found
      | malformed => rfl
    · rintro rfl
      exact .malformed read
  | some d =>
    constructor
    · intro remains
      cases remains with
      | read found => rw [Option.some.inj (read.symm.trans found)]; rfl
      | malformed nothing => cases read.symm.trans nothing
    · rintro rfl
      exact .read read

theorem install_inForce (defaultSpec : String) (environment : Option String) :
    InForce defaultSpec environment (install defaultSpec environment).current := by
  simp only [install]
  cases fromEnvironment : environment.bind fun spec =>
      Directives.parse spec (defaultDirectives defaultSpec).fallback with
  | some d =>
    obtain ⟨spec, named, read⟩ := Option.bind_eq_some_iff.mp fromEnvironment
    exact .environment named (defaultRemains_iff.mpr rfl) read
  | none =>
    have unread : ∀ spec given, environment = some spec → DefaultRemains defaultSpec given →
        Directives.parse spec given = none := by
      intro spec given named remains
      rw [← defaultRemains_iff.mp remains]
      exact Option.bind_eq_none_iff.mp fromEnvironment spec named
    rw [Option.getD_none]
    cases read : Directives.parse defaultSpec (.upTo .warn) with
    | some d =>
      rw [defaultDirectives, read]
      exact .default unread read
    | none =>
      rw [defaultDirectives, read]
      exact .warnings unread read fun target => rfl

/-- The ceiling of a fresh logger turns nothing away that its filter allows. -/
theorem install_write_ne_nil (defaultSpec : String) (environment : Option String) (n : Notice) :
    (install defaultSpec environment).write n ≠ [] ↔
      (install defaultSpec environment).current.allows n.target n.level = true := by
  have ceiling : (install defaultSpec environment).ceiling =
      (install defaultSpec environment).current.loudest := rfl
  have destination : (install defaultSpec environment).destination = .stderr := rfl
  rw [write, enabled, ceiling, destination]
  cases allowed : (install defaultSpec environment).current.allows n.target n.level with
  | false => simp
  | true => simp [(Directives.loudest_isLoudest _).admits allowed]

end Logger

namespace Directives

/-- A specification is read just if each of its parts is a level or has one after its first equals
sign. A target is then allowed the levels up to that of the part that decides on it. A fresh logger
writes what the filter of the environment allows, read over what remains of the default filter, or
what the default filter allows if there is none that can be read, or warnings if neither can. -/
theorem filters_follow_their_specification :
    (∀ spec given, (parse spec given).isSome = true ↔
      ∀ part ∈ written spec, ∃ p, Part.Reads part p) ∧
    (∀ spec given d, parse spec given = some d → ∃ ps,
      List.Forall₂ Part.Reads (written spec) ps ∧ Remaining given ps d.fallback ∧
      ∀ target t, (Decides given ps target t ↔ d.threshold target = t) ∧
        (Decides given ps target t →
          ∀ level, d.allows target level = true ↔ level.rank ≤ t.rank)) ∧
    ∀ defaultSpec environment, ∃ d, Logger.InForce defaultSpec environment d ∧
      ∀ n, (Logger.install defaultSpec environment).write n ≠ [] ↔
        d.allows n.target n.level = true := by
  refine ⟨fun _ _ => parse_isSome, ?_, fun defaultSpec environment =>
    ⟨_, Logger.install_inForce defaultSpec environment,
      Logger.install_write_ne_nil defaultSpec environment⟩⟩
  intro spec given d read
  obtain ⟨ps, reads, rfl⟩ := parse_eq_some.mp read
  refine ⟨ps, reads, ?_, fun target t => ⟨decides_iff, fun decides level => ?_⟩⟩
  · rw [foldl_add]
    exact remaining_getLast? given ps
  · rw [allows, decides.eq, Threshold.admits, decide_eq_true_eq]

/-- Of the two levels for one name the last decides, for it and for what is below it, and the last
bare level for what only begins with the same letters. -/
theorem mixed_specification_is_read : ∃ d ps,
    parse "trace, a=off,a::b = DEBUG,Warn,a::b=info,," (.upTo .error) = some d ∧
    List.Forall₂ Part.Reads (written "trace, a=off,a::b = DEBUG,Warn,a::b=info,,") ps ∧
    Decides (.upTo .error) ps "a::b::c" (.upTo .info) ∧ d.allows "a::b::c" .debug = false ∧
    Decides (.upTo .error) ps "a::bc" .off ∧ Decides (.upTo .error) ps "ab" (.upTo .warn) := by
  obtain ⟨_, decided, _⟩ := filters_follow_their_specification
  have read : parse "trace, a=off,a::b = DEBUG,Warn,a::b=info,," (.upTo .error) =
      some ⟨.upTo .warn, [("a", .off), ("a::b", .upTo .debug), ("a::b", .upTo .info)]⟩ := by
    decide +kernel
  obtain ⟨ps, reads, -, decides⟩ := decided _ _ _ read
  have below := (decides "a::b::c" (.upTo .info)).1.mpr (by decide +kernel)
  have allowed := (decides "a::b::c" (.upTo .info)).2 below .debug
  refine ⟨_, ps, read, reads, below, ?_, (decides "a::bc" .off).1.mpr (by decide +kernel),
    (decides "ab" (.upTo .warn)).1.mpr (by decide +kernel)⟩
  rw [← Bool.not_eq_true, allowed]
  decide

end Directives
end WarningCapture.Log
