import TurtleLogo.Proofs.Literals

/-!
# Where diagnostics point

A head that fails raises a diagnostic, which takes its line from the head or from an argument. Where
that line is not known, the diagnostic takes the first known one on its way outwards: that of the head,
then those on which the open frames were opened. Tokens of a source text have known lines, so in a run
of a source text the diagnostic keeps its own.
-/

set_option autoImplicit false

namespace TurtleLogo

def knownLine? (lines : List Int) : Option Int :=
  lines.find? fun line => decide (0 < line)

section KnownLine

variable {line : Int} (lines : List Int)

theorem knownLine?_known (known : 0 < line) : knownLine? (line :: lines) = some line := by
  simp [knownLine?, known]

theorem knownLine?_unknown (unknown : line ≤ 0) : knownLine? (line :: lines) = knownLine? lines := by
  have skipped : ¬0 < line := by omega
  simp [knownLine?, skipped]

end KnownLine

theorem Diagnostic.foldl_withLine (lines : List Int) (d : Diagnostic) :
    lines.foldl withLine d = ⟨d.cause, (knownLine? (d.line :: lines)).getD d.line⟩ := by
  induction lines generalizing d with
  | nil =>
    by_cases known : 0 < d.line
    · rw [knownLine?_known [] known]
      rfl
    · rw [knownLine?_unknown [] (by omega)]
      rfl
  | cons line lines ih =>
    rw [List.foldl_cons, ih, cause_withLine]
    by_cases known : 0 < d.line
    · have kept : d.withLine line = d := if_neg (by omega)
      rw [kept, knownLine?_known _ known, knownLine?_known _ known]
    · rw [knownLine?_unknown (line :: lines) (by omega)]
      by_cases found : 0 < line
      · have taken : (d.withLine line).line = line := by
          rw [withLine, if_pos (by omega)]
        rw [taken, knownLine?_known lines found, Option.getD_some, Option.getD_some]
      · have kept : d.withLine line = d := if_neg (by omega)
        rw [kept, knownLine?_unknown lines (by omega), knownLine?_unknown lines (by omega)]

theorem Refused.line_eq {tables : Tables} {head : Token} {rest : Program} {d : Diagnostic}
    (refused : Refused tables head rest d) :
    ∃ t ∈ head :: head.arguments rest, d.line = t.line := by
  cases refused with
  | missing | missingEnd | loopWithoutBlock | unclosedLoop | unknownCommand =>
    exact ⟨head, List.mem_cons_self, rfl⟩
  | unknownVariable argument | notANumber argument =>
    exact ⟨_, List.mem_cons_of_mem _ argument, rfl⟩

namespace Machine

theorem tagged_eq (d : Diagnostic) (line : Int) (frames : List Frame) :
    tagged d line frames =
      ⟨d.cause, (knownLine? (d.line :: line :: frames.map Frame.opened)).getD d.line⟩ := by
  rw [← Diagnostic.foldl_withLine, List.foldl_cons, List.foldl_map]
  rfl

theorem tagged_of_known {d : Diagnostic} (known : 0 < d.line) (line : Int) (frames : List Frame) :
    tagged d line frames = d := by
  rw [tagged_eq, knownLine?_known _ known, Option.getD_some]

/-- The diagnostic that dispatching a head raises, with the line it is given there. -/
def raised? (m : Machine) (focus : Focus) : Option Diagnostic :=
  match interpret m.tables focus.head focus.rest with
  | .error d => some d
  | .ok (.enter _ _, _) =>
    if m.limit ≤ focus.outer.length + 1 then some ⟨.tooDeep m.limit, focus.head.line⟩ else none
  | .ok _ => none

section Step

variable {m m' : Machine} {d : Diagnostic}

theorem raised_of_failed (step : m.step = (.failed d, m')) :
    ∃ focus raised, next? m.frames = some focus ∧ m.raised? focus = some raised ∧
      d = tagged raised focus.head.line (focus.frame :: focus.outer) := by
  cases stepped_of_step step with
  | refused found interpreted =>
    exact ⟨_, _, found, by simp only [raised?, interpreted], rfl⟩
  | blocked found interpreted full =>
    exact ⟨_, _, found, by simp only [raised?, interpreted, if_pos full], rfl⟩

theorem line_of_raised {focus : Focus} (raised : m.raised? focus = some d) :
    ∃ t ∈ focus.head :: focus.head.arguments focus.rest, d.line = t.line := by
  unfold raised? at raised
  split at raised
  · rename_i d' interpreted
    cases raised
    exact (refused_of_interpret interpreted).line_eq
  · split at raised
    · cases raised
      exact ⟨focus.head, List.mem_cons_self, rfl⟩
    · cases raised
  · cases raised

end Step

/-! ## Source texts -/

/-- The head that fails in a run of a source text, and its arguments, are tokens of the text. -/
theorem Traced.mem_scan {m : Machine} {src : Text} {focus : Focus} {t : Token}
    (traced : m.Traced [src]) (found : next? m.frames = some focus)
    (member : t ∈ focus.head :: focus.head.arguments focus.rest) : t ∈ Token.scan src := by
  obtain ⟨src', loaded, part⟩ := (next?_holds traced.carries.frames found).1
  rw [List.mem_singleton.mp loaded] at part
  apply part.subset
  rcases List.mem_cons.mp member with rfl | argument
  · exact List.mem_cons_self
  · exact List.mem_cons_of_mem _ (List.mem_of_mem_take argument)

/-- A diagnostic says what the head raised, and carries the first known line of the raised one, of the
head, and of the open frames from the innermost outwards; if none is known, it keeps what it was
raised with. In a run of a source text on a fresh machine it therefore carries a line of the text,
which is that of the head being dispatched or of one of its arguments. -/
theorem diagnostics_carry_first_known_line :
    (∀ (m m' : Machine) (d : Diagnostic), m.step = (.failed d, m') →
      ∃ focus raised, next? m.frames = some focus ∧ m.raised? focus = some raised ∧
        d.cause = raised.cause ∧
        d.line = (knownLine? (raised.line :: focus.head.line ::
          (focus.frame :: focus.outer).map Frame.opened)).getD raised.line) ∧
    ∀ (maxDepth : Int) (src : Text) (waits : Waits) (d : Diagnostic),
      Program.fault? (Token.scan src) = none →
      ((fresh maxDepth).run src waits).error = some (.diagnosed d) →
      1 ≤ d.line ∧ d.line ≤ 1 + src.count Text.newline ∧
        ∃ loaded k is before after focus t, (fresh maxDepth).load (Token.scan src) = .ok loaded ∧
          loaded.Moves k is before ∧ before.step = (.failed d, after) ∧
          next? before.frames = some focus ∧
          t ∈ focus.head :: focus.head.arguments focus.rest ∧ d.line = t.line := by
  refine ⟨?_, ?_⟩
  · intro m m' d step
    obtain ⟨focus, raised, found, raises, rfl⟩ := raised_of_failed step
    rw [tagged_eq]
    exact ⟨focus, raised, found, raises, rfl, rfl⟩
  · intro maxDepth src waits d balanced failed
    have load := load_of_balanced (fresh maxDepth) balanced
    obtain ⟨k, is, before, after, moves, step⟩ := (proceeds_run load waits).step_of_failed failed
    have traced := ((Reached.fresh.loaded load).moves moves).traced
    obtain ⟨focus, raised, found, raises, rfl⟩ := raised_of_failed step
    obtain ⟨t, member, line⟩ := line_of_raised raises
    obtain ⟨least, greatest⟩ := Token.line_of_mem_scanFrom (traced.mem_scan found member)
    -- A token of the text has a known line, so nothing is taken from around.
    rw [tagged_of_known (by omega)] at step ⊢
    rw [line]
    exact ⟨least, greatest, _, k, is, before, after, focus, t, load, moves, step, found, member, rfl⟩

/-- A procedure whose tokens have no lines fails on the line of its call. In a source text the line is
that of the argument that does not do. -/
theorem diagnostics_carry_first_known_line_calls :
    let word (name : String) (line : Int) : Token := ⟨.word, utf8 name, line⟩
    let p : Program := [word "DEF" 5, word "A" 5, word "X" 0, word "END" 5, word "A" 7]
    let start : Machine := { fresh 4 with frames := [.start p 0 0] }
    let called := start.step.2.step.2
    let src := utf8 "PU FD\n:X"
    (∃ d m', called.step = (.failed d, m') ∧ d.cause = .unknownCommand (utf8 "X") ∧ d.line = 7) ∧
    ∃ d, ((fresh 4).run src Waits.never).error = some (.diagnosed d) ∧
      1 ≤ d.line ∧ d.line ≤ 1 + src.count Text.newline ∧
      ∃ loaded k is before after focus t, (fresh 4).load (Token.scan src) = .ok loaded ∧
        loaded.Moves k is before ∧ before.step = (.failed d, after) ∧
        next? before.frames = some focus ∧
        t ∈ focus.head :: focus.head.arguments focus.rest ∧ d.line = t.line := by
  intro word p start called src
  obtain ⟨anywhere, fromText⟩ := diagnostics_carry_first_known_line
  constructor
  · have fails : ∃ d m', called.step = (.failed d, m') := ⟨_, _, rfl⟩
    obtain ⟨d, m', step⟩ := fails
    obtain ⟨focus, raised, found, raises, cause, line⟩ := anywhere called m' d step
    have head : next? called.frames =
        some ⟨word "X" 0, [], ⟨[word "X" 0], [word "X" 0], 0, 7⟩, [⟨p, [], 0, 0⟩]⟩ := rfl
    rw [head] at found
    cases found
    cases raises
    exact ⟨d, m', step, cause, line⟩
  · have balanced : Program.fault? (Token.scan src) = none := by decide +kernel
    have failed : ((fresh 4).run (utf8 "PU FD\n:X") Waits.never).error =
        some (.diagnosed ⟨.unknownVariable (utf8 "X"), 2⟩) := by cbv
    exact ⟨_, failed, fromText 4 src Waits.never _ balanced failed⟩

end Machine

end TurtleLogo
