import TurtleLogo.Proofs.Literals

/-!
# Reading variables back

`VAR` files a value under the whole text of its name. A token that is not a variable reads the entry
of its whole text, so that such a name gives the value back, until another `VAR` changes the entry or
the machine is reset. A variable reads the entry of its text without the colon, and no token of any
source text reads an entry whose name starts with one: what `VAR :X 5` files is out of reach.
-/

set_option autoImplicit false

namespace TurtleLogo

/-! ## What a token reads -/

def Token.key (t : Token) : Text :=
  if t.kind = .variable then t.text.drop 1 else t.text

theorem Token.key_of_plain {t : Token} (plain : t.kind ≠ .variable) : t.key = t.text :=
  if_neg plain

/-- No token reads an entry whose name starts with a colon. -/
theorem Token.key_ne_colon {src : Text} {t : Token} (member : t ∈ Token.scan src) (name : Text) :
    t.key ≠ 0x3A :: name := by
  have spelled := (wellFormed_scanFrom 1 src).spelled t member
  obtain ⟨kind, text, line⟩ := t
  have starts {b : UInt8} {rest : Text} (start : Text.isNameStart b = true) :
      b :: rest ≠ 0x3A :: name := by
    rintro ⟨⟩
    cases start
  have digits {b : UInt8} {rest : Text} (digit : Text.isDigit b = true) :
      b :: rest ≠ 0x3A :: name := by
    rintro ⟨⟩
    cases digit
  simp only at spelled
  cases spelled with
  | opening | closing => rintro ⟨⟩
  | whole number =>
    cases number with
    | intro digit others => exact digits digit
  | fractional number behind =>
    cases number with
    | intro digit others => exact digits digit
  | word named =>
    cases named with
    | intro start continues => exact starts start
  | quote named => rintro ⟨⟩
  | colon named =>
    cases named with
    | intro start continues => exact starts start

/-- A variable is written as a colon and the name that it reads. -/
theorem Token.text_of_variable {src : Text} {t : Token} (member : t ∈ Token.scan src)
    (kind : t.kind = .variable) : t.text = 0x3A :: t.key := by
  have spelled := (wellFormed_scanFrom 1 src).spelled t member
  obtain ⟨_, text, line⟩ := t
  subst kind
  cases spelled with
  | colon named => rfl

namespace Tables

theorem evaluate_eq_number_iff {tables : Tables} {t : Token} {x : Float} :
    tables.evaluate t = .ok (.number x) ↔ tables.values.get? t.key = some x := by
  by_cases kind : t.kind = .variable <;> simp only [evaluate, Token.key, kind, if_true, if_false]
  · cases tables.values.get? (t.text.drop 1) <;> simp
  · cases tables.values.get? t.text <;> simp

theorem evaluate_congr {tables tables' : Tables} {t : Token}
    (same : tables.values.get? t.key = tables'.values.get? t.key) :
    tables.evaluate t = tables'.evaluate t := by
  by_cases kind : t.kind = .variable
  · simp only [Token.key, kind, if_true] at same
    simp only [evaluate, kind, if_true, same]
  · simp only [Token.key, kind, if_false] at same
    simp only [evaluate, kind, if_false, same]

end Tables

namespace Machine

/-! ## Assignments -/

/-- `m.Assigns name x`: the next step of `m` carries out a `VAR` that gives `name` the value `x`. -/
def Assigns (m : Machine) (name : Token) (x : Float) : Prop :=
  ∃ focus t rest, next? m.frames = some focus ∧ focus.head.command? = some .makeVariable ∧
    focus.rest = name :: t :: rest ∧ numberArgument m.tables (utf8 "VAR") t = .ok x

def Spares (m : Machine) (text : Text) : Prop :=
  ∀ name x, m.Assigns name x → name.text ≠ text

/-- `m.Leads text m'`: loading, stepping and running lead from `m` to `m'`, and no step on the way is
a `VAR` whose name has this text. -/
inductive Leads (text : Text) (m : Machine) : Machine → Prop
  | here : Leads text m m
  | loaded {before loaded : Machine} {src : Text} (leads : Leads text m before)
      (load : before.load (Token.scan src) = .ok loaded) : Leads text m loaded
  | stepped {before after : Machine} {progress : Progress} (leads : Leads text m before)
      (spares : before.Spares text) (step : before.step = (progress, after)) : Leads text m after
  | ran {before loaded : Machine} {src : Text} {waits : Waits} (leads : Leads text m before)
      (load : before.load (Token.scan src) = .ok loaded)
      (spares : ∀ k is passed, k < (before.run src waits).waits → loaded.Moves k is passed →
        passed.Spares text) :
      Leads text m (before.run src waits).machine

section Steps

variable {m m' : Machine} {text : Text}

theorem step_of_assigns {name : Token} {x : Float} (assigns : m.Assigns name x) :
    m.step.1 = .moved none ∧
      m.step.2.tables = { m.tables with values := m.tables.values.set name.text x } := by
  obtain ⟨⟨head, _, f, outer⟩, t, rest, found, command, rfl, number⟩ := assigns
  have named : Command.named? (Text.upper head.text) = some .makeVariable := command
  have interpreted : interpret m.tables head (name :: t :: rest)
      = .ok (.assign name.text x, rest) := by
    simp only [interpret, named, interpretCommand, interpretVariable, argument, number]
  rw [step, found]
  simp only [interpreted]
  exact ⟨rfl, rfl⟩

theorem assigns_of_interpreted {head : Token} {rest after : Program} {f : Frame} {outer : List Frame}
    {text : Text} {x : Float} (done : Interpreted m.tables head rest (.assign text x) after)
    (found : next? m.frames = some ⟨head, rest, f, outer⟩) :
    ∃ name, name.text = text ∧ m.Assigns name x := by
  cases done with
  | @assignment name t after x command number =>
    exact ⟨name, rfl, _, t, after, found, command, rfl, number⟩
  | bare named acts =>
    rename_i command
    cases command <;> cases acts

theorem Spares.step {progress : Progress} (spares : m.Spares text)
    (step : m.step = (progress, m')) :
    m'.tables.values.get? text = m.tables.values.get? text := by
  cases stepped_of_step step with
  | ended | refused | blocked | opened => rfl
  | @carriedOut head rest after f outer effect found interpreted plain =>
    cases effect with
    | nothing | draw | define | enter => rfl
    | assign name x =>
      obtain ⟨t, rfl, assigns⟩ := assigns_of_interpreted (interpreted_of_interpret interpreted) found
      have other := spares t x assigns
      simp only [Effect.update, Table.get?_set, if_neg other.symm]

theorem Moves.value_of_spares {k : Nat} {is : List Instruction} (moves : m.Moves k is m')
    (spares : ∀ j js passed, j < k → m.Moves j js passed → passed.Spares text) :
    m'.tables.values.get? text = m.tables.values.get? text := by
  induction moves with
  | zero m => rfl
  | @succ m middle m' i k is step later ih =>
    have first := spares 0 [] m k.succ_pos (.zero m)
    rw [← first.step step]
    apply ih
    intro j js passed early reaches
    exact spares (j + 1) _ passed (Nat.succ_lt_succ early) (.succ step reaches)

theorem Proceeds.value_of_spares {waits : Waits} {drawn : List Instruction} {made : Nat} {r : Run}
    (proceeds : Proceeds waits m drawn made r)
    (spares : ∀ j js passed, made + j < r.waits → m.Moves j js passed → passed.Spares text) :
    r.machine.tables.values.get? text = m.tables.values.get? text := by
  cases proceeds with
  | @ended k is fault last m' moves well step =>
    have kept : last.tables.values.get? text = m.tables.values.get? text := by
      apply moves.value_of_spares
      intro j js passed early
      exact spares j js passed (Nat.add_lt_add_left early made)
    have ending : m'.tables = last.tables := by
      cases fault <;> cases stepped_of_step step <;> rfl
    rw [← kept]
    simp only [ending]
  | @brokenOff k is i last m' reason moves well step fails =>
    have kept : last.tables.values.get? text = m.tables.values.get? text := by
      apply moves.value_of_spares
      intro j js passed early
      exact spares j js passed (by simp only; omega)
    have spared := spares k is last (by simp only; omega) moves
    rw [← kept, ← spared.step step]

theorem Leads.value (leads : m.Leads text m') :
    m'.tables.values.get? text = m.tables.values.get? text := by
  induction leads with
  | here => rfl
  | loaded leads load ih =>
    rw [eq_of_load load]
    exact ih
  | stepped leads spares step ih => rw [spares.step step, ih]
  | @ran before loaded src waits leads load spares ih =>
    have along : ∀ j js passed, 0 + j < (before.run src waits).waits → loaded.Moves j js passed →
        passed.Spares text := by
      intro j js passed early
      rw [Nat.zero_add] at early
      exact spares j js passed early
    rw [(proceeds_run load waits).value_of_spares along, eq_of_load load]
    exact ih

end Steps

section Reached

variable {maxDepth : Int} {sources : List Text} {m : Machine} {name : Token} {x : Float}

theorem Reached.listed_of_assigns (reached : Reached maxDepth sources m)
    (assigns : m.Assigns name x) : ∃ src ∈ sources, name ∈ Token.scan src := by
  obtain ⟨focus, t, rest, found, _, behind, _⟩ := assigns
  have slice := (next?_holds reached.traced.carries.frames found).1
  exact slice.listed (by simp [behind])

/-- A variable that is made under a name with a colon cannot be read. -/
theorem Reached.evaluate_of_colon (reached : Reached maxDepth sources m)
    (assigns : m.Assigns name x) (kind : name.kind = .variable) {src : Text} {t : Token}
    (member : t ∈ Token.scan src) : m.step.2.tables.evaluate t = m.tables.evaluate t := by
  obtain ⟨_, _, listed⟩ := reached.listed_of_assigns assigns
  have colon := Token.text_of_variable listed kind
  apply Tables.evaluate_congr
  rw [(step_of_assigns assigns).2, Table.get?_set, colon, if_neg (Token.key_ne_colon member _)]

/-- `VAR` is carried out, and files the value under the text of the name, where it stays whatever is
loaded, stepped and run, as long as no other `VAR` has a name with that text. Any name but a variable
reads it back, all that time. A name that is a variable does not: for every token of every source text
nothing changes, so that such a name reads back only the value that it has already. -/
theorem plain_names_read_back (reached : Reached maxDepth sources m) (assigns : m.Assigns name x) :
    m.step.1 = .moved none ∧
    (∀ later, m.step.2.Leads name.text later →
      later.tables.values.get? name.text = some x ∧
      (name.kind ≠ .variable → later.tables.evaluate name = .ok (.number x))) ∧
    (name.kind = .variable → ∀ src, ∀ t ∈ Token.scan src,
      m.step.2.tables.evaluate t = m.tables.evaluate t) ∧
    (m.step.2.tables.evaluate name = .ok (.number x) ↔
      name.kind ≠ .variable ∨ m.tables.values.get? (name.text.drop 1) = some x) := by
  obtain ⟨moved, tables⟩ := step_of_assigns assigns
  have filed : ∀ later, m.step.2.Leads name.text later →
      later.tables.values.get? name.text = some x := by
    intro later leads
    rw [leads.value, tables, Table.get?_set, if_pos rfl]
  have plain : ∀ later, m.step.2.Leads name.text later → name.kind ≠ .variable →
      later.tables.evaluate name = .ok (.number x) := by
    intro later leads plain
    rw [Tables.evaluate_eq_number_iff, Token.key_of_plain plain]
    exact filed later leads
  refine ⟨moved, fun later leads => ⟨filed later leads, plain later leads⟩, ?_, ?_⟩
  · intro kind src t member
    exact reached.evaluate_of_colon assigns kind member
  · by_cases kind : name.kind = .variable
    · obtain ⟨src, _, listed⟩ := reached.listed_of_assigns assigns
      rw [reached.evaluate_of_colon assigns kind listed, Tables.evaluate_eq_number_iff, Token.key,
        if_pos kind]
      simp [kind]
    · simp [kind, plain _ .here kind]

end Reached

/-- A word reads its value back, also after the step that uses it. -/
theorem plain_names_read_back_later :
    let src := utf8 "VAR X 5 FD X"
    let name : Token := ⟨.word, utf8 "X", 1⟩
    ∃ m x later, Reached 512 [src] m ∧ m.Assigns name x ∧ m.step.2.Leads name.text later ∧
      later = m.step.2.step.2 ∧ later.tables.evaluate name = .ok (.number x) := by
  intro src name
  let p : Program := [⟨.word, utf8 "VAR", 1⟩, name, ⟨.number, utf8 "5", 1⟩, ⟨.word, utf8 "FD", 1⟩,
    ⟨.word, utf8 "X", 1⟩]
  have scanned : Token.scan src = p := by decide +kernel
  let m := { fresh 512 with frames := [.start p 0 0] }
  have load : (fresh 512).load (Token.scan src) = .ok m := by
    rw [scanned]
    rfl
  have reached : Reached 512 [src] m := Reached.fresh.loaded load
  have given : ∃ x, numberArgument m.tables (utf8 "VAR") ⟨.number, utf8 "5", 1⟩ = .ok x := ⟨_, rfl⟩
  obtain ⟨x, number⟩ := given
  have assigns : m.Assigns name x := ⟨_, _, _, rfl, rfl, rfl, number⟩
  have spares : m.step.2.Spares name.text := by
    rintro other y ⟨focus, _, _, found, command, _⟩
    have forward : focus.head.command? = some .forward := by
      cases found
      rfl
    rw [forward] at command
    cases command
  have leads : m.step.2.Leads name.text m.step.2.step.2 := .stepped .here spares rfl
  obtain ⟨_, back, _⟩ := plain_names_read_back reached assigns
  exact ⟨m, x, _, reached, assigns, leads, rfl, (back _ leads).2 (by decide)⟩

/-- `VAR :X 5` makes no variable that `:X` could read. -/
theorem colon_name_does_not_read_back :
    let src := utf8 "VAR :X 5"
    let name : Token := ⟨.variable, utf8 ":X", 1⟩
    ∃ m x, Reached 512 [src] m ∧ m.Assigns name x ∧
      m.step.2.tables.evaluate name = .error ⟨.unknownVariable (utf8 "X"), 1⟩ := by
  intro src name
  let p : Program := [⟨.word, utf8 "VAR", 1⟩, name, ⟨.number, utf8 "5", 1⟩]
  have scanned : Token.scan src = p := by decide +kernel
  let m := { fresh 512 with frames := [.start p 0 0] }
  have load : (fresh 512).load (Token.scan src) = .ok m := by
    rw [scanned]
    rfl
  have given : ∃ x, numberArgument m.tables (utf8 "VAR") ⟨.number, utf8 "5", 1⟩ = .ok x := ⟨_, rfl⟩
  obtain ⟨x, number⟩ := given
  exact ⟨m, x, Reached.fresh.loaded load, ⟨_, _, _, rfl, rfl, rfl, number⟩, rfl⟩

end Machine

end TurtleLogo
