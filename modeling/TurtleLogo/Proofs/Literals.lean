import TurtleLogo.Proofs.Counts
import TurtleLogo.Proofs.Inheritance
import TurtleLogo.Proofs.Spelling

/-!
# Where numbers come from

A program cannot compute. The value of a variable is copied from another variable or read from a
number token, and so is the number of every instruction, so that all numbers in a machine go back to
number tokens of the texts that were loaded. A literal has no sign and reads as a finite double.
Only `BK` and `BACK` turn a sign, on the way to the turtle and never into a variable.
-/

set_option autoImplicit false

namespace TurtleLogo

/-! ## Literals read as magnitudes -/

namespace Number

open Float.Model in
theorem toBits_ofBits {b : UInt64} (finite : b.toNat / 2 ^ 52 % 2 ^ 11 ≠ 2047) :
    (Float.ofBits b).toBits = b := by
  have exponent : @UnpackedFloat.unpackExponent Format.binary64 b.toBitVec ≠ -1#11 := by
    intro full
    have value := congrArg BitVec.toNat full
    rw [UnpackedFloat.unpackExponent_def, BitVec.extractLsb'_toNat, UInt64.toNat_toBitVec,
      Nat.shiftRight_eq_div_pow] at value
    exact finite value
  have number : @UnpackedFloat.isNaNBits Format.binary64 b.toBitVec = false := by
    rw [UnpackedFloat.isNaNBits, decide_eq_false_iff_not]
    intro full
    exact exponent full.1
  have packed := @UnpackedFloat.pack_unpack Format.binary64 b.toBitVec (by decide)
  rw [number] at packed
  exact UInt64.toBitVec_inj.mp packed

def IsMagnitude (x : Float) : Prop :=
  ∃ m q, parts x = .finite false m q

/-- The exponent is any number here; that of a ratio must not be computed when types are compared. -/
theorem bits_lt_of_scaled {num den bits unit : Nat} {q : Int}
    (found :
      (let (n, d) := scaleRatio num den (-q)
      let m := roundRatio n d
      let bits := (q + 1074).toNat * unit + m
      if bits < 2047 * unit then some bits else none) = some bits) :
    bits < 2047 * unit := by
  simp only at found
  split at found
  · rename_i small
    rw [← Option.some.inj found]
    exact small
  · cases found

theorem bitsOfRatio?_lt {num den bits : Nat} (found : bitsOfRatio? num den = some bits) :
    bits < 2047 * Nat.pow 2 52 := by
  unfold bitsOfRatio? at found
  by_cases zero : num = 0
  · rw [if_pos zero] at found
    rw [← Option.some.inj found]
    exact Nat.mul_pos (by decide) (Nat.two_pow_pos 52)
  · rw [if_neg zero] at found
    exact bits_lt_of_scaled found

theorem isMagnitude_of_bits {bits : Nat} (small : bits < 2047 * Nat.pow 2 52) :
    IsMagnitude (Float.ofBits (UInt64.ofNat bits)) := by
  simp only [Nat.pow_eq] at small
  have whole : (UInt64.ofNat bits).toNat = bits := by
    rw [UInt64.toNat_ofNat']
    omega
  have exponent : bits / 2 ^ 52 % 2 ^ 11 ≠ 2047 := by omega
  have positive : ¬2 ^ 63 ≤ bits := by omega
  have back : (Float.ofBits (UInt64.ofNat bits)).toBits.toNat = bits := by
    rw [toBits_ofBits (by rwa [whole]), whole]
  rw [IsMagnitude, parts, back, partsOfBits]
  simp only [Nat.pow_eq]
  rw [if_neg exponent, decide_eq_false positive]
  split
  · exact ⟨_, _, rfl⟩
  · exact ⟨_, _, rfl⟩

theorem isMagnitude_of_ofRatio? {num den : Nat} {x : Float}
    (found : ofRatio? false num den = some x) : IsMagnitude x := by
  obtain ⟨bits, read, rfl⟩ := Option.map_eq_some_iff.mp found
  exact isMagnitude_of_bits (bitsOfRatio?_lt read)

theorem isMagnitude_of_ofDecimal? {digits : Nat} {e : Int} {x : Float}
    (found : ofDecimal? false digits e = some x) : IsMagnitude x := by
  cases e with
  | ofNat k => exact isMagnitude_of_ofRatio? found
  | negSucc k => exact isMagnitude_of_ofRatio? found

theorem isMagnitude_of_ofBinary? {digits : Nat} {e : Int} {x : Float}
    (found : ofBinary? false digits e = some x) : IsMagnitude x := by
  cases e with
  | ofNat k => exact isMagnitude_of_ofRatio? found
  | negSucc k => exact isMagnitude_of_ofRatio? found

theorem isMagnitude_of_decimal? {t : Text} {x : Float} (found : decimal? false t = some x) :
    IsMagnitude x := by
  simp only [decimal?] at found
  split at found
  · cases found
  · split at found
    · cases found
    · split at found
      · exact isMagnitude_of_ofDecimal? found
      · split at found
        · obtain ⟨e, _, scaled⟩ := Option.bind_eq_some_iff.mp found
          exact isMagnitude_of_ofDecimal? scaled
        · cases found

theorem isMagnitude_of_hexadecimal? {t : Text} {x : Float}
    (found : hexadecimal? false t = some x) : IsMagnitude x := by
  simp only [hexadecimal?] at found
  split at found
  · cases found
  · split at found
    · cases found
    · split at found
      · split at found
        · obtain ⟨e, _, scaled⟩ := Option.bind_eq_some_iff.mp found
          exact isMagnitude_of_ofBinary? scaled
        · cases found
      · cases found

theorem isMagnitude_of_read? {t : Text} {x : Float} (found : read? t = some x) :
    IsMagnitude x := by
  unfold read? unsigned? at found
  split at found
  · split at found
    · exact isMagnitude_of_hexadecimal? found
    · exact isMagnitude_of_decimal? found
  · exact isMagnitude_of_decimal? found

end Number

namespace Value

theorem isMagnitude_of_word {text : Text} {x : Float} (number : (Value.word text).float? = some x) :
    Number.IsMagnitude x := by
  cases text with
  | nil => cases number
  | cons b rest =>
    rw [float?] at number
    split at number
    · exact Number.isMagnitude_of_read? number
    · cases number

theorem float?_number {x y : Float} (number : (Value.number x).float? = some y) : y = x := by
  rw [float?] at number
  split at number
  · cases number
  · exact (Option.some.inj number).symm

theorem int?_nonneg {v : Value} {x : Float} {count : Int} (number : v.float? = some x)
    (magnitude : Number.IsMagnitude x) (counts : v.int? = some count) : 0 ≤ count := by
  obtain ⟨m, q, finite⟩ := magnitude
  have known : v.rational? = some ((m : ℚ) * 2 ^ q) := by
    rw [rational?, number]
    exact Number.rational?_of_finite finite
  rw [int?_of_rational? known] at counts
  rw [← Option.some.inj counts]
  exact saturated_nonneg (by positivity)

end Value

/-! ## Values come from literals -/

def Literal (sources : List Text) (x : Float) : Prop :=
  ∃ src ∈ sources, ∃ t ∈ Token.scan src, t.kind = .number ∧ (Value.word t.text).float? = some x

theorem Literal.isMagnitude {sources : List Text} {x : Float} (literal : Literal sources x) :
    Number.IsMagnitude x := by
  obtain ⟨_, _, t, _, _, number⟩ := literal
  exact Value.isMagnitude_of_word number

theorem Token.number_of_float? {src : Text} {t : Token} {x : Float} (member : t ∈ Token.scan src)
    (number : (Value.word t.text).float? = some x) : t.kind = .number := by
  have spelled := (wellFormed_scanFrom 1 src).spelled t member
  obtain ⟨kind, text, line⟩ := t
  simp only at spelled number ⊢
  -- No other spelling starts with a digit.
  cases spelled with
  | whole | fractional => rfl
  | opening | closing | quote | colon => cases number
  | word named =>
    cases named with
    | intro starts continues =>
      rw [Value.float?, Text.not_isDigit_of_isNameStart starts] at number
      cases number

theorem Tables.evaluate_cases {tables : Tables} {t : Token} {v : Value}
    (value : tables.evaluate t = .ok v) :
    (∃ name x, tables.values.get? name = some x ∧ v = .number x) ∨ v = .word t.text := by
  simp only [evaluate] at value
  split at value
  · split at value
    · rename_i x known
      cases value
      exact .inl ⟨_, x, known, rfl⟩
    · cases value
  · split at value
    · rename_i x known
      cases value
      exact .inl ⟨_, x, known, rfl⟩
    · cases value
      exact .inr rfl

section Arguments

variable {sources : List Text} {tables : Tables} {t : Token}
  (literals : ∀ name x, tables.values.get? name = some x → Literal sources x)
  (listed : ∃ src ∈ sources, t ∈ Token.scan src)

include literals listed

theorem literal_of_evaluate {v : Value} {x : Float} (value : tables.evaluate t = .ok v)
    (number : v.float? = some x) : Literal sources x := by
  rcases Tables.evaluate_cases value with ⟨name, y, known, rfl⟩ | rfl
  · rw [Value.float?_number number]
    exact literals name y known
  · obtain ⟨src, loaded, member⟩ := listed
    exact ⟨src, loaded, t, member, Token.number_of_float? member number, number⟩

theorem literal_of_numberArgument {command : Text} {x : Float}
    (number : numberArgument tables command t = .ok x) : Literal sources x := by
  unfold numberArgument at number
  cases value : tables.evaluate t with
  | error d => simp [value] at number
  | ok v =>
    cases reads : v.float? with
    | none => simp [value, reads] at number
    | some y =>
      simp only [value, reads] at number
      cases number
      exact literal_of_evaluate literals listed value reads

end Arguments

/-- Where the number of an instruction comes from, which a head gives. Only the commands for going
back turn the sign of a number. -/
def Instruction.Sourced (sources : List Text) (head : Token) : Instruction → Prop
  | .advance x =>
    (head.command? = some .forward ∧ Literal sources x) ∨
      (head.command? = some .back ∧ ∃ y, Literal sources y ∧ x = -y)
  | .turn x _ => Literal sources x
  | .pen _ | .color _ | .reset => True

/-! ## One head -/

section Heads

variable {sources : List Text} {tables : Tables} {head : Token} {rest after : Program}
  (literals : ∀ name x, tables.values.get? name = some x → Literal sources x)
  (slice : Storage.Slice sources (head :: rest))

theorem Storage.Slice.listed {p : Program} {t : Token} (part : Storage.Slice sources p)
    (member : t ∈ p) : ∃ src ∈ sources, t ∈ Token.scan src := by
  obtain ⟨src, loaded, whole⟩ := part
  exact ⟨src, loaded, whole.subset member⟩

include literals slice

theorem Interpreted.literal_of_assign {name : Text} {x : Float}
    (done : Interpreted tables head rest (.assign name x) after) : Literal sources x := by
  cases done with
  | assignment command number =>
    exact literal_of_numberArgument literals (slice.listed (by simp)) number
  | bare named acts =>
    rename_i command
    cases command <;> cases acts

theorem Interpreted.sourced_of_draw {i : Instruction}
    (done : Interpreted tables head rest (.draw i) after) : i.Sourced sources head := by
  cases done with
  | @motion command instruction t _ x named moves number =>
    have literal : Literal sources x :=
      literal_of_numberArgument literals (slice.listed (by simp)) number
    cases command <;> cases moves
    · exact .inl ⟨named, literal⟩
    · exact .inr ⟨named, x, literal, rfl⟩
    · exact literal
    · exact literal
  | color command => trivial
  | bare named acts =>
    rename_i command
    cases command <;> cases acts <;> trivial

end Heads

theorem Effect.value_of_update {tables : Tables} {effect : Effect} {name : Text} {x : Float}
    (known : (effect.update tables).values.get? name = some x) :
    effect = .assign name x ∨ tables.values.get? name = some x := by
  cases effect with
  | assign other y =>
    simp only [update, Table.get?_set] at known
    by_cases same : name = other
    · rw [if_pos same] at known
      cases known
      exact .inl (same ▸ rfl)
    · rw [if_neg same] at known
      exact .inr known
  | nothing | draw | define | enter => exact .inr known

theorem Program.inherited_slice (sources : List Text) : Inherited (Storage.Slice sources) where
  rest slice ends := slice.part ends.isInfix
  block := by
    intro p body after slice found
    obtain ⟨opening, close, shape⟩ := block?_shape found
    exact slice.part ⟨[opening], close :: after, by simp [shape]⟩
  definition := by
    intro head name p body after _ slice found
    obtain ⟨close, shape⟩ := definition?_shape found
    exact slice.part ⟨[head, name], close :: after, by simp [shape]⟩

namespace Machine

/-! ## All reachable machines -/

structure Traced (sources : List Text) (m : Machine) : Prop where
  carries : m.Carries (Storage.Slice sources)
  literals : ∀ name x, m.tables.values.get? name = some x → Literal sources x

theorem Traced.step {sources : List Text} {m : Machine} (traced : m.Traced sources) :
    m.step.2.Traced sources := by
  refine ⟨traced.carries.step (Program.inherited_slice sources), ?_⟩
  have stepped := step_stepped m
  generalize m.step.1 = progress at stepped
  generalize m.step.2 = m' at stepped
  cases stepped with
  | ended | refused | blocked | opened => exact traced.literals
  | @carriedOut head rest after f outer effect found interpreted plain =>
    have slice := (next?_holds traced.carries.frames found).1
    have done := interpreted_of_interpret interpreted
    intro name x known
    rcases Effect.value_of_update known with rfl | before
    · exact done.literal_of_assign traced.literals slice
    · exact traced.literals name x before

theorem upheld_traced (maxDepth : Int) (sources : List Text) :
    Upheld maxDepth (· ∈ sources) (Traced sources) := by
  have carries : Upheld maxDepth (· ∈ sources) (Carries (Storage.Slice sources)) := by
    apply upheld_carries (Program.inherited_slice sources)
    intro src loaded _
    exact ⟨src, loaded, List.infix_refl _⟩
  refine ⟨⟨carries.fresh, nofun⟩, ?_, Traced.step, ?_, ?_⟩
  · intro m loaded src this traced load
    refine ⟨carries.load this traced.carries load, ?_⟩
    rw [eq_of_load load]
    exact traced.literals
  · intro m traced
    exact ⟨carries.closed traced.carries, traced.literals⟩
  · intro m traced
    exact ⟨carries.reset traced.carries, nofun⟩

section Reached

variable {maxDepth : Int} {sources : List Text} {m : Machine}

theorem Reached.traced (reached : Reached maxDepth sources m) : m.Traced sources :=
  (upheld_traced maxDepth sources).reached reached fun _ loaded => loaded

theorem Traced.sourced {m' : Machine} {i : Instruction} (traced : m.Traced sources)
    (step : m.step = (.moved (some i), m')) :
    ∃ focus, next? m.frames = some focus ∧ i.Sourced sources focus.head := by
  have stepped := stepped_of_step step
  generalize given : some i = instruction at stepped
  cases stepped with
  | opened => cases given
  | @carriedOut head rest after f outer effect found interpreted plain =>
    have slice := (next?_holds traced.carries.frames found).1
    cases effect with
    | draw j =>
      cases given
      exact ⟨_, found, (interpreted_of_interpret interpreted).sourced_of_draw traced.literals slice⟩
    | nothing | assign | define | enter => cases given

theorem Traced.count_nonneg {focus : Focus} {t : Token} {rest : Program} {v : Value} {count : Int}
    (traced : m.Traced sources) (found : next? m.frames = some focus) (behind : focus.rest = t :: rest)
    (value : m.tables.evaluate t = .ok v) (counts : v.int? = some count) : 0 ≤ count := by
  have slice := (next?_holds traced.carries.frames found).1
  have listed := slice.listed (t := t) (by simp [behind])
  cases number : v.float? with
  | none =>
    rw [Value.int?, number] at counts
    cases counts
  | some x =>
    have literal := literal_of_evaluate traced.literals listed value number
    exact Value.int?_nonneg number literal.isMagnitude counts

/-- All numbers in a machine go back to literals, whatever was loaded, run, stepped and reset to reach
it. A variable holds what a number token of a loaded text reads as, which is finite and has no sign.
An instruction takes such a number, with its sign turned by `BK` and `BACK` only, whether a single step
gives it or a run. The count of a loop is never negative. -/
theorem numbers_come_from_literals (reached : Reached maxDepth sources m) :
    (∀ name x, m.tables.values.get? name = some x → Literal sources x ∧ Number.IsMagnitude x) ∧
      (∀ i m', m.step = (.moved (some i), m') →
        ∃ focus, next? m.frames = some focus ∧ i.Sourced sources focus.head) ∧
      (∀ src waits i, i ∈ (m.run src waits).instructions →
        ∃ before after focus, Reached maxDepth (src :: sources) before ∧
          before.step = (.moved (some i), after) ∧ next? before.frames = some focus ∧
          i.Sourced (src :: sources) focus.head) ∧
      ∀ focus t rest v count, next? m.frames = some focus →
        focus.head.command? = some .loop → focus.rest = t :: rest →
        m.tables.evaluate t = .ok v → v.int? = some count → 0 ≤ count := by
  have traced := reached.traced
  refine ⟨?_, ?_, ?_, ?_⟩
  · intro name x known
    have literal := traced.literals name x known
    exact ⟨literal, literal.isMagnitude⟩
  · intro i m' step
    exact traced.sourced step
  · intro src waits i given
    obtain ⟨before, after, reached', step⟩ := reached.step_of_mem_run given
    obtain ⟨focus, found, sourced⟩ := reached'.traced.sourced step
    exact ⟨before, after, focus, reached', step, found, sourced⟩
  · intro focus t rest v count found _ behind value counts
    exact traced.count_nonneg found behind value counts

end Reached

/-- Going back by a variable: its value is the literal, and the sign is turned on the way out. -/
theorem numbers_come_from_literals_backwards :
    let src := utf8 "VAR x 2.5 BK :x"
    ∃ m i after focus, Reached 512 [src] m ∧ m.step = (.moved (some i), after) ∧
      next? m.frames = some focus ∧ focus.head.command? = some .back ∧
      i.Sourced [src] focus.head ∧
      ∃ x, m.tables.values.get? (utf8 "x") = some x ∧ Literal [src] x ∧ Number.IsMagnitude x := by
  intro src
  let p : Program := [⟨.word, utf8 "VAR", 1⟩, ⟨.word, utf8 "x", 1⟩, ⟨.number, utf8 "2.5", 1⟩,
    ⟨.word, utf8 "BK", 1⟩, ⟨.variable, utf8 ":x", 1⟩]
  have scanned : Token.scan src = p := by decide +kernel
  have load : (fresh 512).load (Token.scan src) = .ok { fresh 512 with frames := [.start p 0 0] } := by
    rw [scanned]
    rfl
  let m := { fresh 512 with frames := [.start p 0 0] }.step.2
  have reached : Reached 512 [src] m := (Reached.fresh.loaded load).stepped rfl
  have literals := numbers_come_from_literals reached
  have draws : ∃ i, m.step = (.moved (some i), m.step.2) := ⟨_, rfl⟩
  obtain ⟨i, step⟩ := draws
  obtain ⟨focus, found, sourced⟩ := literals.2.1 i _ step
  have known : ∃ x, m.tables.values.get? (utf8 "x") = some x := ⟨_, rfl⟩
  obtain ⟨x, known⟩ := known
  have back : focus.head.command? = some .back := by
    cases found
    rfl
  exact ⟨m, i, _, focus, reached, step, found, back, sourced, x, known, literals.1 _ x known⟩

end Machine

end TurtleLogo
