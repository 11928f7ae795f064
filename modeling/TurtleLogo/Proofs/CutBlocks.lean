import TurtleLogo.Proofs.Literals
import TurtleLogo.Proofs.Brackets
import TurtleLogo.Proofs.Layout

/-!
# Where structural failures come from

The brackets of a program are checked once, when it is loaded. Later a machine looks for the ends of
blocks in parts of the program, and these are balanced as well: the rest of a part holds all blocks
that start in it, and the inside of a block is balanced. Only the body of a procedure can be cut out
so that a block starts in it and ends behind it, since `DEF` and `END` do not look at brackets. Where
no source text does this, no step fails for the structure of a program.
-/

set_option autoImplicit false

namespace TurtleLogo

/-! ## Definitions are words -/

namespace Token

open Text

theorem Spelled.all_isAscii {kind : Kind} {text : Text} (spelled : Spelled kind text) :
    text.all isAscii = true := by
  have digit : ∀ b, isDigit b = true → isAscii b = true := by
    intro b
    grind [isDigit, isAscii]
  have part : ∀ b, isNamePart b = true → isAscii b = true := by
    intro b
    grind [isNamePart, isNameStart, isLower, isUpper, isDigit, isAscii]
  have digits : ∀ t, IsDigits t → t.all isAscii = true := by
    rintro _ ⟨first, others⟩
    grind
  have name : ∀ t, IsName t → t.all isAscii = true := by
    rintro _ ⟨starts, continues⟩
    grind [isNamePart]
  cases spelled with
  | opening | closing => rfl
  | whole number => exact digits _ number
  | fractional number behind => simp [digits _ number, digits _ behind, isAscii]
  | word named => exact name _ named
  | quote named | colon named => simp [name _ named, isAscii]

/-- Nothing but a word has a letter in front. -/
theorem Spelled.word_of_upper {kind : Kind} {text rest : Text} {b : UInt8}
    (spelled : Spelled kind text) (capital : upper text = b :: rest) (letter : isUpper b = true) :
    kind = .word := by
  have ascii := spelled.all_isAscii
  rw [upper, if_pos ascii] at capital
  have digit : ∀ c, isDigit c = true → capitalByte c = b → False := by
    intro c
    grind [isDigit, isLower, isUpper, capitalByte]
  cases spelled with
  | word => rfl
  | opening | closing | quote | colon =>
    cases capital
    cases letter
  | whole number =>
    cases number with
    | intro first others =>
      exact (digit _ first (List.cons.inj capital).1).elim
  | fractional number behind =>
    cases number with
    | intro first others =>
      exact (digit _ first (List.cons.inj capital).1).elim

end Token

namespace Command

theorem mem_of_named? {name : Text} {command : Command} (named : named? name = some command) :
    (name, command) ∈ spellings := by
  obtain ⟨before, behind, shape, _⟩ := List.lookup_eq_some_iff.mp named
  rw [shape]
  simp

end Command

theorem Token.isDef_of_command {src : Text} {t : Token} (member : t ∈ Token.scan src)
    (command : t.command? = some .define) : t.isDef = true := by
  have capital : Text.upper t.text = utf8 "DEF" := by
    have listed := Command.mem_of_named? command
    simpa [Command.spellings] using listed
  have spelled := (wellFormed_scanFrom 1 src).spelled t member
  have word : t.kind = .word := spelled.word_of_upper capital rfl
  simp [isDef, isWord, word, capital]

/-! ## Bodies that cut blocks -/

namespace Program

def cutsAt (p : Program) (i : Nat) : Bool :=
  p[i]?.any Token.isDef && (p.definitionAt (i + 2)).found &&
    (fault? (p.definitionAt (i + 2)).body).isSome

/-- Some definition of a program has a body with unbalanced brackets. -/
def CutsBlock (p : Program) : Prop :=
  ∃ i < p.length, p.cutsAt i = true

instance (p : Program) : Decidable (CutsBlock p) :=
  inferInstanceAs (Decidable (∃ i < p.length, p.cutsAt i = true))

/-- The body of a definition in a part of a program is that of the same definition in the whole. -/
theorem fault?_of_uncut {p before behind tokens body after : Program} {head name : Token}
    (uncut : ¬CutsBlock p) (shape : before ++ (head :: name :: tokens) ++ behind = p)
    (isDef : head.isDef = true) (found : definition? tokens = some (body, after)) :
    fault? body = none := by
  have short : before.length < p.length := by
    rw [← shape]
    simp
  have here : p[before.length]? = some head := by
    rw [← shape]
    simp
  have tail : p.drop (before.length + 2) = tokens ++ behind := by
    rw [← shape, ← List.drop_drop]
    simp
  have whole : (p.definitionAt (before.length + 2)).found = true ∧
      (p.definitionAt (before.length + 2)).body = body := by
    rw [definitionAt, tail, definition?_append found]
    exact ⟨rfl, rfl⟩
  by_contra unbalanced
  apply uncut
  refine ⟨before.length, short, ?_⟩
  simp [cutsAt, here, isDef, whole, Option.isSome_iff_ne_none, unbalanced]

/-- A part of a source text that holds all blocks which start in it. -/
structure Intact (sources : List Text) (p : Program) : Prop where
  slice : Storage.Slice sources p
  closes : ClosesBlocks p

theorem inherited_intact {sources : List Text}
    (uncut : ∀ src ∈ sources, ¬CutsBlock (Token.scan src)) : Inherited (Intact sources) where
  rest intact ends := ⟨(inherited_slice sources).rest intact.slice ends, intact.closes.rest ends⟩
  block intact found :=
    ⟨(inherited_slice sources).block intact.slice found,
      closesBlocks_of_faultFrom (fault?_of_block? found)⟩
  definition := by
    intro head name p body after command intact found
    refine ⟨(inherited_slice sources).definition command intact.slice found, ?_⟩
    obtain ⟨src, loaded, before, behind, shape⟩ := intact.slice
    have member : head ∈ Token.scan src := by
      rw [← shape]
      simp
    have isDef := Token.isDef_of_command member command
    exact closesBlocks_of_faultFrom (fault?_of_uncut (uncut src loaded) shape isDef found)

end Program

namespace Machine

/-! ## Structural failures -/

/-- A step that fails for the structure of a program meets a block that does not end where it
starts. -/
theorem unclosed_of_step {m m' : Machine} {d : Diagnostic} (step : m.step = (.failed d, m'))
    (structural : d.kind = .structural) :
    d.cause = .unclosedLoop ∧ ∃ focus t tokens, next? m.frames = some focus ∧
      focus.rest = t :: tokens ∧ Program.startsBlock tokens = true ∧
      Program.block? tokens = none := by
  cases stepped_of_step step with
  | @blocked head rest after body f outer again found interpreted full =>
    rw [Diagnostic.kind, cause_tagged] at structural
    cases structural
  | @refused head rest f outer d' found interpreted =>
    rw [Diagnostic.kind, cause_tagged] at structural
    rw [cause_tagged]
    cases refused_of_interpret interpreted with
    | unclosedLoop command starts unclosed =>
      exact ⟨rfl, _, _, _, found, rfl, starts, unclosed⟩
    | missing | unknownVariable | notANumber | missingEnd | loopWithoutBlock | unknownCommand =>
      cases structural

section Reached

variable {maxDepth : Int} {sources : List Text} {m : Machine}

theorem Carries.not_structural {m' : Machine} {d : Diagnostic}
    (carries : m.Carries (Program.Intact sources)) (step : m.step = (.failed d, m')) :
    d.kind ≠ .structural := by
  intro structural
  obtain ⟨_, focus, t, tokens, found, behind, starts, unclosed⟩ := unclosed_of_step step structural
  have intact := (next?_holds carries.frames found).1
  have inside : tokens <:+ focus.head :: focus.rest := by
    rw [behind]
    exact ⟨[focus.head, t], rfl⟩
  have closed := intact.closes tokens inside starts
  rw [unclosed] at closed
  cases closed

theorem Reached.intact (reached : Reached maxDepth sources m)
    (uncut : ∀ src ∈ sources, ¬Program.CutsBlock (Token.scan src)) :
    m.Carries (Program.Intact sources) := by
  have upheld : Upheld maxDepth (· ∈ sources) (Carries (Program.Intact sources)) := by
    apply upheld_carries (Program.inherited_intact uncut)
    intro src loaded balanced
    exact ⟨⟨src, loaded, List.infix_refl _⟩, Program.closesBlocks_of_faultFrom balanced⟩
  exact upheld.reached reached fun _ loaded => loaded

/-- A step fails for the structure of a program only where a definition cuts a block. If no text that
was loaded has a definition whose body is unbalanced, then no step fails so, whatever was loaded, run,
stepped and reset before, nor does a run of another such text. A step that fails so nevertheless has
met a loop whose block does not end, and one of the texts has such a definition. -/
theorem structural_failures_need_cut_blocks (reached : Reached maxDepth sources m) :
    ((∀ src ∈ sources, ¬Program.CutsBlock (Token.scan src)) →
        (∀ d m', m.step = (.failed d, m') → d.kind ≠ .structural) ∧
        ∀ src waits d, Program.fault? (Token.scan src) = none →
          ¬Program.CutsBlock (Token.scan src) →
          (m.run src waits).error = some (.diagnosed d) → d.kind ≠ .structural) ∧
      ∀ d m', m.step = (.failed d, m') → d.kind = .structural →
        d.cause = .unclosedLoop ∧ ∃ src ∈ sources, Program.CutsBlock (Token.scan src) := by
  refine ⟨?_, ?_⟩
  · intro uncut
    refine ⟨?_, ?_⟩
    · intro d m' step
      exact (reached.intact uncut).not_structural step
    · intro src waits d balanced whole failed
      obtain ⟨before, after, reached', step⟩ := reached.step_of_failed_run balanced failed
      have uncut' : ∀ text ∈ src :: sources, ¬Program.CutsBlock (Token.scan text) :=
        List.forall_mem_cons.mpr ⟨whole, uncut⟩
      exact (reached'.intact uncut').not_structural step
  · intro d m' step structural
    refine ⟨(unclosed_of_step step structural).1, ?_⟩
    by_contra noCut
    have uncut : ∀ src ∈ sources, ¬Program.CutsBlock (Token.scan src) := by
      intro src loaded cuts
      exact noCut ⟨src, loaded, cuts⟩
    exact (reached.intact uncut).not_structural step structural

end Reached

/-- A procedure whose body starts a block and does not end it fails when it is called, and one that
holds its block does not. -/
theorem structural_failures_need_cut_blocks_split :
    let cut := utf8 "DEF A REPEAT 2 [ END A ]"
    let whole := utf8 "DEF A REPEAT 2 [ PU ] END A"
    (∃ m d m', Reached 512 [cut] m ∧ m.step = (.failed d, m') ∧ d.kind = .structural ∧
      d.cause = .unclosedLoop ∧ Program.CutsBlock (Token.scan cut)) ∧
    ∃ m, Reached 512 [whole] m ∧ ¬Program.CutsBlock (Token.scan whole) ∧
      ∀ d m', m.step = (.failed d, m') → d.kind ≠ .structural := by
  intro cut whole
  constructor
  · let word (name : String) : Token := ⟨.word, utf8 name, 1⟩
    let p : Program := [word "DEF", word "A", word "REPEAT", ⟨.number, utf8 "2", 1⟩,
      ⟨.opening, utf8 "[", 1⟩, word "END", word "A", ⟨.closing, utf8 "]", 1⟩]
    have scanned : Token.scan cut = p := by decide +kernel
    let start : Machine := { fresh 512 with frames := [.start p 0 0] }
    have load : (fresh 512).load (Token.scan cut) = .ok start := by
      rw [scanned]
      rfl
    have defined : Reached 512 [cut] start.step.2 := (Reached.fresh.loaded load).stepped rfl
    have called : Reached 512 [cut] start.step.2.step.2 := defined.stepped rfl
    have fails : ∃ d m', start.step.2.step.2.step = (.failed d, m') ∧ d.kind = .structural :=
      ⟨_, _, rfl, rfl⟩
    obtain ⟨d, m', step, structural⟩ := fails
    obtain ⟨cause, src, loaded, cuts⟩ :=
      (structural_failures_need_cut_blocks called).2 d m' step structural
    rw [List.mem_singleton.mp loaded] at cuts
    exact ⟨_, d, m', called, step, structural, cause, cuts⟩
  · have uncut : ¬Program.CutsBlock (Token.scan whole) := by decide +kernel
    have balanced : Program.fault? (Token.scan whole) = none := by decide +kernel
    have reached := Reached.fresh.loaded (load_of_balanced (fresh 512) balanced)
    have sound : ∀ src ∈ [whole], ¬Program.CutsBlock (Token.scan src) := by
      intro src loaded
      rw [List.mem_singleton.mp loaded]
      exact uncut
    exact ⟨_, reached, uncut, ((structural_failures_need_cut_blocks reached).1 sound).1⟩

end Machine

end TurtleLogo
