import TurtleLogo.Shell.Surroundings
import TurtleLogo.Proofs.Doubles

/-!
# The rules for settings

Settings obey twelve rules, each about one setting, apart from the one for both sides of the canvas.
Every rule that is noticed to be broken gives one issue, in the order of the rules. A rule that asks
for a positive number does not notice a NaN; all other breaches are noticed.
-/

set_option autoImplicit false

namespace TurtleLogo

namespace Number

/-- What a comparison with zero notices. -/
def Falls (x : Float) : Prop :=
  isNaN x = false ∧ ¬Positive x

instance (x : Float) : Decidable (Falls x) :=
  decidable_of_iff (x ≤ 0) (le_zero_iff x)

theorem falls_iff_not_positive {x : Float} (number : isNaN x = false) :
    Falls x ↔ ¬Positive x :=
  and_iff_right number

theorem not_positive_of_isNaN {x : Float} (noNumber : isNaN x = true) : ¬Positive x := by
  have taken : parts x = .nan := by simpa [isNaN] using noNumber
  simp [Positive, taken, rational?_of_nan taken]

end Number

namespace Log.Level

def words : List Text :=
  [utf8 "debug", utf8 "info", utf8 "warn", utf8 "warning", utf8 "error"]

def Recognized (t : Text) : Prop :=
  t = [] ∨ ∃ word ∈ words, Text.spells t word = true

theorem recognized_iff (t : Text) : Recognized t ↔ (named? t).isSome = true := by
  simp only [Recognized, words, List.exists_mem_cons_iff, named?]
  grind

instance (t : Text) : Decidable (Recognized t) :=
  decidable_of_iff _ (recognized_iff t).symm

end Log.Level

namespace Settings

inductive Rule where
  | canvasSize
  | color
  | penWidth
  | stepDelay
  | maxDepth
  | path
  | retention
  | purgeInterval
  | cacheEntries
  | maxBodyBytes
  | renderTimeout
  | logLevel
  deriving DecidableEq

namespace Rule

def all : List Rule :=
  [canvasSize, color, penWidth, stepDelay, maxDepth, path, retention, purgeInterval, cacheEntries,
    maxBodyBytes, renderTimeout, logLevel]

def Obeyed (s : Settings) : Rule → Prop
  | canvasSize => Number.Positive s.canvas.width ∧ Number.Positive s.canvas.height
  | color => s.pen.color ≠ []
  | penWidth => Number.Positive s.pen.width
  | stepDelay => 0 ≤ s.running.stepDelay
  | maxDepth => 1 ≤ s.running.maxDepth
  | path => s.storage.path ≠ []
  | retention => 0 ≤ s.storage.retention
  | purgeInterval => 0 < s.storage.purgeInterval
  | cacheEntries => 0 ≤ s.serving.cacheEntries
  | maxBodyBytes => 0 < s.serving.maxBodyBytes
  | renderTimeout => 0 < s.serving.renderTimeout
  | logLevel => Log.Level.Recognized s.logging.level

def Noticed (s : Settings) : Rule → Prop
  | canvasSize => Number.Falls s.canvas.width ∨ Number.Falls s.canvas.height
  | penWidth => Number.Falls s.pen.width
  | rule => ¬rule.Obeyed s

instance (s : Settings) : (rule : Rule) → Decidable (rule.Noticed s)
  | canvasSize => inferInstanceAs (Decidable (_ ∨ _))
  | color => inferInstanceAs (Decidable (¬s.pen.color ≠ []))
  | penWidth => inferInstanceAs (Decidable (Number.Falls _))
  | stepDelay => inferInstanceAs (Decidable (¬0 ≤ s.running.stepDelay))
  | maxDepth => inferInstanceAs (Decidable (¬1 ≤ s.running.maxDepth))
  | path => inferInstanceAs (Decidable (¬s.storage.path ≠ []))
  | retention => inferInstanceAs (Decidable (¬0 ≤ s.storage.retention))
  | purgeInterval => inferInstanceAs (Decidable (¬0 < s.storage.purgeInterval))
  | cacheEntries => inferInstanceAs (Decidable (¬0 ≤ s.serving.cacheEntries))
  | maxBodyBytes => inferInstanceAs (Decidable (¬0 < s.serving.maxBodyBytes))
  | renderTimeout => inferInstanceAs (Decidable (¬0 < s.serving.renderTimeout))
  | logLevel => inferInstanceAs (Decidable (¬Log.Level.Recognized s.logging.level))

def issue (s : Settings) : Rule → Issue
  | canvasSize => .canvasSize s.canvas.width s.canvas.height
  | color => .emptyColor
  | penWidth => .penWidth s.pen.width
  | stepDelay => .stepDelay s.running.stepDelay
  | maxDepth => .maxDepth s.running.maxDepth
  | path => .emptyPath
  | retention => .retention s.storage.retention
  | purgeInterval => .purgeInterval s.storage.purgeInterval
  | cacheEntries => .cacheEntries s.serving.cacheEntries
  | maxBodyBytes => .maxBodyBytes s.serving.maxBodyBytes
  | renderTimeout => .renderTimeout s.serving.renderTimeout
  | logLevel => .logLevel s.logging.level

def sizes (s : Settings) : Rule → List Float
  | canvasSize => [s.canvas.width, s.canvas.height]
  | penWidth => [s.pen.width]
  | _ => []

theorem count_all (rule : Rule) : all.count rule = 1 := by
  cases rule <;> decide

theorem mem_all (rule : Rule) : rule ∈ all :=
  List.count_pos_iff.1 (count_all rule ▸ Nat.one_pos)

theorem Noticed.not_obeyed {s : Settings} {rule : Rule} (noticed : rule.Noticed s) :
    ¬rule.Obeyed s := by
  cases rule with
  | canvasSize =>
    rintro ⟨wide, high⟩
    rcases noticed with falls | falls
    · exact falls.2 wide
    · exact falls.2 high
  | penWidth => exact noticed.2
  | _ => exact noticed

/-- Only a NaN hides a breach, and only one of the numbers that the rule is about. -/
theorem noticed_iff {s : Settings} {rule : Rule}
    (numbers : ∀ x ∈ rule.sizes s, Number.isNaN x = false) : rule.Noticed s ↔ ¬rule.Obeyed s := by
  cases rule with
  | canvasSize =>
    have wide := Number.falls_iff_not_positive (numbers s.canvas.width (by simp [sizes]))
    have high := Number.falls_iff_not_positive (numbers s.canvas.height (by simp [sizes]))
    rw [Noticed, Obeyed, wide, high, not_and_or]
  | penWidth => exact Number.falls_iff_not_positive (numbers s.pen.width (by simp [sizes]))
  | _ => exact Iff.rfl

end Rule

theorem filter_map_eq_flatMap_raise (s : Settings) (rules : List Rule) :
    (rules.filter fun rule => rule.Noticed s).map (·.issue s)
      = rules.flatMap fun rule => raise (rule.Noticed s) (rule.issue s) := by
  induction rules with
  | nil => rfl
  | cons rule rules ih =>
    rw [List.flatMap_cons, ← ih]
    by_cases noticed : rule.Noticed s <;> simp [raise, noticed]

theorem issues_eq (s : Settings) :
    s.issues = (Rule.all.filter fun rule => rule.Noticed s).map (·.issue s) := by
  have falls (x : Float) : Number.Falls x ↔ x ≤ 0 := (Number.le_zero_iff x).symm
  have level : decide (Rule.logLevel.Noticed s) = (Log.Level.named? s.logging.level).isNone := by
    rw [Bool.eq_iff_iff, decide_eq_true_iff]
    simp [Rule.Noticed, Rule.Obeyed, Log.Level.recognized_iff]
  simp only [filter_map_eq_flatMap_raise, Rule.all, List.flatMap_cons, level]
  simp [issues, raise, Rule.Noticed, Rule.Obeyed, Rule.issue, falls]

theorem issues_eq_nil_iff (s : Settings) : s.issues = [] ↔ ∀ rule : Rule, ¬rule.Noticed s := by
  simp [issues_eq, Rule.mem_all]

theorem checked_of_issues_nil {s : Settings} (fine : s.issues = []) : s.checked = .ok s := by
  simp [checked, fine]

theorem checked_of_issues_ne_nil {s : Settings} (faulty : s.issues ≠ []) :
    s.checked = .error (.outOfRange s.issues) := by
  simp [checked, faulty]

theorem issues_eq_nil_of_checked {s found : Settings} (passed : s.checked = .ok found) :
    found.issues = [] := by
  by_cases fine : s.issues = []
  · rw [checked_of_issues_nil fine] at passed
    cases passed
    exact fine
  · rw [checked_of_issues_ne_nil fine] at passed
    cases passed

theorem issues_standard : standard.issues = [] := by
  rw [issues_eq_nil_iff]
  intro rule
  cases rule <;> decide +kernel

/-- A file gives settings only through the check. -/
theorem issues_eq_nil_of_ofFile {t : Text} {s : Settings} (read : ofFile t = .ok s) :
    s.issues = [] := by
  unfold ofFile at read
  split at read
  · cases read
  · exact issues_eq_nil_of_checked read
  · split at read
    · cases read
    · exact issues_eq_nil_of_checked read
    · cases read

end Settings

namespace Shell

/-- Settings that are loaded, from whatever surroundings, have no issues. -/
theorem issues_eq_nil_of_loadSettings {m : Type → Type} [Surroundings m] [LawfulMonad m]
    (path : Text) :
    SatisfiesM (fun found : Except Text Settings => ∀ s, found = .ok s → s.issues = [])
      (loadSettings path : m (Except Text Settings)) := by
  have given {s : Settings} (fine : s.issues = []) :
      SatisfiesM (fun found : Except Text Settings => ∀ s, found = .ok s → s.issues = [])
        (pure (.ok s) : m (Except Text Settings)) := by
    refine .pure ?_
    rintro found ⟨⟩
    exact fine
  have refused (message : Text) :
      SatisfiesM (fun found : Except Text Settings => ∀ s, found = .ok s → s.issues = [])
        (pure (.error message) : m (Except Text Settings)) := by
    refine .pure ?_
    rintro found ⟨⟩
  rw [loadSettings]
  split
  · exact given Settings.issues_standard
  refine SatisfiesM.bind .trivial fun file _ => ?_
  cases file with
  | error fault =>
    dsimp only
    split_ifs
    · exact given Settings.issues_standard
    · exact refused _
    · exact refused _
  | ok t =>
    dsimp only
    split
    · exact refused _
    · next s read => exact given (Settings.issues_eq_nil_of_ofFile read)

end Shell

namespace Settings

/-- Checking gives one issue for every rule that is noticed to be broken, in the order of the rules, and
passes settings on if there is none. What is noticed is broken indeed, and what is broken is noticed
unless one of the numbers that the rule is about is a NaN. So no settings that come from a text, or are
loaded, are noticed to break a rule. -/
theorem breaches_are_reported_unless_nan (s : Settings) :
    s.issues = (Rule.all.filter fun rule => rule.Noticed s).map (·.issue s) ∧
    (∀ rule : Rule, Rule.all.count rule = 1) ∧
    (s.checked = .ok s ∧ (∀ rule : Rule, ¬rule.Noticed s) ∨
      s.checked = .error (.outOfRange s.issues) ∧ ∃ rule : Rule, rule.Noticed s) ∧
    (∀ rule : Rule, (rule.Noticed s → ¬rule.Obeyed s) ∧
      ((∀ x ∈ rule.sizes s, Number.isNaN x = false) → ¬rule.Obeyed s → rule.Noticed s)) ∧
    (∀ t, ofFile t = .ok s → ∀ rule : Rule, ¬rule.Noticed s) ∧
    ∀ (m : Type → Type) [Shell.Surroundings m] [LawfulMonad m] (path : Text),
      SatisfiesM (fun found : Except Text Settings =>
          ∀ loaded, found = .ok loaded → ∀ rule : Rule, ¬rule.Noticed loaded)
        (Shell.loadSettings path : m (Except Text Settings)) := by
  refine ⟨issues_eq s, Rule.count_all, ?_, ?_, ?_, ?_⟩
  · by_cases fine : s.issues = []
    · exact .inl ⟨checked_of_issues_nil fine, (issues_eq_nil_iff s).1 fine⟩
    · refine .inr ⟨checked_of_issues_ne_nil fine, ?_⟩
      simpa [issues_eq_nil_iff] using fine
  · intro rule
    exact ⟨Rule.Noticed.not_obeyed, fun numbers => (Rule.noticed_iff numbers).2⟩
  · intro t read
    exact (issues_eq_nil_iff s).1 (issues_eq_nil_of_ofFile read)
  · intro m _ _ path
    simpa only [issues_eq_nil_iff] using Shell.issues_eq_nil_of_loadSettings (m := m) path

/-- Three settings out of range give three issues, none of which a NaN could have hidden. A file
gives settings that are not noticed to break a rule. -/
theorem breaches_are_reported_unless_nan_three :
    let s := { standard with
      canvas := { standard.canvas with width := -1 }
      running := { standard.running with maxDepth := 0 }
      logging := { standard.logging with level := utf8 "loud" } }
    s.issues = [.canvasSize s.canvas.width s.canvas.height, .maxDepth 0, .logLevel (utf8 "loud")] ∧
      ¬Rule.canvasSize.Obeyed s ∧ Rule.canvasSize.Noticed s ∧
      ∃ found, ofFile (utf8 "run:\n  max_depth: 3\n") = .ok found ∧
        ∀ rule : Rule, ¬rule.Noticed found := by
  intro s
  obtain ⟨issues, _, _, rules, _⟩ := breaches_are_reported_unless_nan s
  have broken : (Rule.all.filter fun rule => rule.Noticed s)
      = [.canvasSize, .maxDepth, .logLevel] := by decide +kernel
  have numbers : ∀ x ∈ Rule.canvasSize.sizes s, Number.isNaN x = false := by decide +kernel
  have disobeyed : ¬Rule.canvasSize.Obeyed s := (rules _).1 (by decide +kernel)
  have reported := congrArg (List.map (·.issue s)) broken
  refine ⟨issues.trans reported, disobeyed, (rules _).2 numbers disobeyed, ?_⟩
  have accepted : (ofFile (utf8 "run:\n  max_depth: 3\n")).isOk = true := by decide +kernel
  cases read : ofFile (utf8 "run:\n  max_depth: 3\n") with
  | error e =>
    rw [read] at accepted
    cases accepted
  | ok found =>
    obtain ⟨_, _, _, _, passed, _⟩ := breaches_are_reported_unless_nan found
    exact ⟨found, rfl, passed _ read⟩

/-- A file can ask for a pen whose width is no number. -/
theorem nan_width_is_not_reported :
    ∃ s, ofFile (utf8 "turtle:\n  pen_width: .nan\n") = .ok s ∧ ¬Rule.penWidth.Obeyed s := by
  have width : (match ofFile (utf8 "turtle:\n  pen_width: .nan\n") with
      | .ok s => Number.isNaN s.pen.width
      | .error _ => false) = true := by decide +kernel
  split at width
  · next s read => exact ⟨s, read, Number.not_positive_of_isNaN width⟩
  · cases width

end Settings

end TurtleLogo
