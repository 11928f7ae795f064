import TurtleLogo.Proofs.Transcript
import TurtleLogo.Proofs.Brackets

/-!
# Loops and calls mean their bodies

A head that enters a body can be replaced by the body, written out as often as it is to run. The
body is then evaluated one level higher up, where more levels are left, and in front of whatever
follows it. More levels change nothing unless the levels ran out, and a copy that succeeds reaches
for no token behind its end. What is saved is one step, that of the head.
-/

set_option autoImplicit false

namespace TurtleLogo

open Outcome

/-! ## More levels -/

def Outcome.Fits (o : Outcome) : Prop :=
  ∀ d, o.fault = some d → d.kind ≠ .recursionLimit

namespace Outcome

variable {o : Outcome} {f g : Tables → Outcome}

theorem fits_of_done (done : o.fault = none) : o.Fits := by
  intro d failed
  rw [done] at failed
  cases failed

theorem Fits.first (fits : (o.andThen f).Fits) : o.Fits := by
  intro d failed
  rw [andThen_of_failed failed] at fits
  exact fits d failed

theorem Fits.second (fits : (o.andThen f).Fits) (done : o.fault = none) : (f o.tables).Fits := by
  intro d failed
  have later : (o.andThen f).fault = some d := by
    simp only [andThen, done]
    exact failed
  exact fits d later

theorem Fits.of_tagged {line : Int} (fits : (o.tagged line).Fits) : o.Fits := by
  intro d failed
  have later : (o.tagged line).fault = some (d.withLine line) := by
    simp only [tagged, failed, Option.map_some]
  have kept := fits _ later
  rwa [Diagnostic.kind, Diagnostic.cause_withLine] at kept

/-- A continuation only matters where the outcome in front of it arrives. -/
theorem Fits.andThen_eq (fits : (o.andThen f).Fits)
    (same : (f o.tables).Fits → g o.tables = f o.tables) : o.andThen g = o.andThen f := by
  cases fault : o.fault with
  | some d => rw [andThen_of_failed fault, andThen_of_failed fault]
  | none => exact andThen_congr (same (fits.second fault))

theorem Fits.times_eq {n : Nat} {tables : Tables} (fits : (times n f tables).Fits)
    (same : ∀ tables, (f tables).Fits → g tables = f tables) :
    times n g tables = times n f tables := by
  induction n generalizing tables with
  | zero => rfl
  | succ n ih =>
    rw [times] at fits
    rw [times, times, same tables fits.first]
    exact fits.andThen_eq ih

end Outcome

namespace Machine

/-- What fits in some levels comes to the same where at least as many are left. -/
theorem evaluate_of_room {limit depth limit' depth' : Nat} (room : limit - depth ≤ limit' - depth')
    {tables : Tables} {p : Program} (fits : (evaluate limit depth tables p).Fits) :
    evaluate limit' depth' tables p = evaluate limit depth tables p := by
  cases p with
  | nil => rw [evaluate_nil, evaluate_nil]
  | cons head rest =>
    cases interpreted : interpret tables head rest with
    | error d => rw [evaluate_of_error interpreted, evaluate_of_error interpreted]
    | ok taken =>
      obtain ⟨effect, after⟩ := taken
      have shorter := interpret_length interpreted
      rw [evaluate_of_ok interpreted] at fits
      rw [evaluate_of_ok interpreted, evaluate_of_ok interpreted]
      have first : carryOut limit' depth' tables head effect =
          carryOut limit depth tables head effect := by
        have fitsFirst := fits.first
        cases effect with
        | nothing | draw | assign | define => rfl
        | enter body again =>
          by_cases deeper : depth < limit
          · have deeper' : depth' < limit' := by omega
            rw [carryOut, if_pos deeper] at fitsFirst
            rw [carryOut, carryOut, if_pos deeper, if_pos deeper']
            have passes : ((moved tables none).andThen
                (times (again + 1) fun tables => evaluate limit (depth + 1) tables body)).Fits :=
              fitsFirst.of_tagged
            have inside : limit - (depth + 1) ≤ limit' - (depth' + 1) := by omega
            congr 1
            refine passes.andThen_eq fun fitsAll => ?_
            exact fitsAll.times_eq fun tables fitsOnce => evaluate_of_room inside fitsOnce
          · rw [carryOut, if_neg deeper] at fitsFirst
            have fails := fitsFirst _ rfl
            rw [Diagnostic.kind, Diagnostic.cause_withLine] at fails
            exact absurd rfl fails
      rw [first]
      exact fits.andThen_eq fun fitsRest => evaluate_of_room room fitsRest
termination_by (limit - depth, p.length)
decreasing_by
  · exact Prod.Lex.left _ _ (by omega)
  · subst p
    exact Prod.Lex.right _ (Nat.lt_succ_of_le shorter)

/-! ## Copies of a body -/

theorem fault?_copies {body : Program} (balanced : body.fault? = none) (n : Nat) :
    Program.fault? (List.replicate n body).flatten = none := by
  induction n with
  | zero => rfl
  | succ n ih =>
    rw [List.replicate_succ, List.flatten_cons]
    exact Program.fault?_append balanced ih

/-- Passes that all succeed come to the same as the body written out once for each of them. -/
theorem evaluate_copies {limit depth n : Nat} {tables : Tables} {body : Program}
    (done : (times n (fun tables => evaluate limit depth tables body) tables).fault = none) :
    evaluate limit depth tables (List.replicate n body).flatten =
      times n (fun tables => evaluate limit depth tables body) tables := by
  induction n generalizing tables with
  | zero => rw [List.replicate_zero, List.flatten_nil, evaluate_nil, times]
  | succ n ih =>
    rw [times] at done ⊢
    obtain ⟨once, others⟩ := andThen_done.mp done
    rw [List.replicate_succ, List.flatten_cons, evaluate_append once]
    exact andThen_congr (ih others)

/-- A head that enters a body, with success, can be replaced by copies of the body. -/
theorem evaluate_inlined {limit depth again : Nat} {tables : Tables} {head : Token}
    {rest body after : Program}
    (interpreted : interpret tables head rest = .ok (.enter body again, after))
    (done : (evaluate limit depth tables (head :: rest)).fault = none) :
    evaluate limit depth tables (head :: rest) =
      (moved tables none).andThen fun tables =>
        evaluate limit depth tables ((List.replicate (again + 1) body).flatten ++ after) := by
  rw [evaluate_of_ok interpreted] at done ⊢
  obtain ⟨entered, _⟩ := andThen_done.mp done
  by_cases room : depth < limit
  · rw [carryOut, if_pos room] at entered ⊢
    have passed : ((moved tables none).andThen
        (times (again + 1) fun tables => evaluate limit (depth + 1) tables body)).fault = none :=
      Option.map_eq_none_iff.mp entered
    obtain ⟨_, passes⟩ := andThen_done.mp passed
    have higher : times (again + 1) (fun tables => evaluate limit depth tables body) tables =
        times (again + 1) (fun tables => evaluate limit (depth + 1) tables body) tables :=
      (fits_of_done passes).times_eq fun tables fits => evaluate_of_room (by omega) fits
    have copies := evaluate_copies (higher ▸ passes)
    rw [tagged_of_done passed, andThen_assoc]
    apply andThen_congr
    change (times _ _ tables).andThen _ = evaluate limit depth tables _
    rw [evaluate_append (copies ▸ higher ▸ passes), copies, higher]
  · rw [carryOut, if_neg room] at entered
    cases entered

/-! ## Runs -/

/-- One run does all that another one does, with success and in one step less. -/
structure SavesStep (short long : Run) : Prop where
  success : short.error = none
  instructions : short.instructions = long.instructions
  tables : short.machine.tables = long.machine.tables
  steps : short.machine.steps + 1 = long.machine.steps

theorem savesStep_of_enter {m : Machine} {head : Token} {rest body : Program} {again : Nat}
    (interpreted : interpret m.tables head rest = .ok (.enter body again, []))
    (balanced : body.fault? = none)
    (success : (m.runProgram (head :: rest) Waits.never).error = none) :
    SavesStep (m.runProgram (List.replicate (again + 1) body).flatten Waits.never)
      (m.runProgram (head :: rest) Waits.never) := by
  obtain ⟨_, ran⟩ := runProgram_evaluate m (balanced_of_success success)
  obtain ⟨_, ranCopies⟩ := runProgram_evaluate m (fault?_copies balanced (again + 1))
  rw [ran] at success
  have done : (evaluate m.limit 1 m.tables (head :: rest)).fault = none :=
    Option.map_eq_none_iff.mp success
  have inlined := evaluate_inlined interpreted done
  rw [List.append_nil] at inlined
  rw [inlined] at done
  obtain ⟨_, doneCopies⟩ := andThen_done.mp done
  rw [ran, ranCopies, inlined]
  exact {
    success := Option.map_eq_none_iff.mpr doneCopies
    instructions := rfl
    tables := rfl
    steps := Nat.add_comm _ _ }

/-- Loops and calls mean their bodies: for every body with balanced brackets, a loop over it that is
run with success does what as many copies of it do, and so does the call of a procedure that stands
for it with a single copy. Only the step of the head is saved. -/
theorem loops_and_calls_mean_their_bodies (m : Machine) (body : Program)
    (balanced : body.fault? = none) :
    (∀ (head count opening close : Token) (v : Value) (n : Int),
      head.command? = some .loop → opening.kind = .opening → close.kind = .closing → body ≠ [] →
      m.tables.evaluate count = .ok v → v.int? = some n → 1 ≤ n →
      let looped := m.runProgram (head :: count :: opening :: (body ++ [close])) Waits.never
      looped.error = none →
        SavesStep (m.runProgram (List.replicate n.toNat body).flatten Waits.never) looped) ∧
    ∀ head : Token, head.command? = none →
      m.tables.procedures.get? (Text.upper head.text) = some body →
      let called := m.runProgram [head] Waits.never
      called.error = none → SavesStep (m.runProgram body Waits.never) called := by
  constructor
  · intro head count opening close v n command opens closes nonempty value counts positive looped
      success
    have found : Program.block? (opening :: (body ++ [close])) = some (body, []) :=
      Program.block?_of_balanced opens balanced closes []
    have busy : ¬(n ≤ 0 ∨ body = []) := by
      rintro (idle | empty)
      · omega
      · exact nonempty empty
    have saves := savesStep_of_enter
      (interpret_of_interpreted (.loop command value counts found busy)) balanced success
    have passes : n.toNat - 1 + 1 = n.toNat := by omega
    rwa [passes] at saves
  · intro head named known called success
    have saves := savesStep_of_enter (interpret_of_interpreted (.call named known)) balanced success
    have single : (List.replicate (0 + 1) body).flatten = body := by simp
    rwa [single] at saves

/-- A body that redefines a procedure it calls, in a loop and in a call. -/
theorem loops_and_calls_mean_their_bodies_redefinition :
    let word (name : String) : Token := ⟨.word, utf8 name, 1⟩
    let body := [word "A", word "DEF", word "A", word "PU", word "END"]
    let procedures := (Table.empty.set (utf8 "A") [word "PD"]).set (utf8 "B") body
    let m : Machine := { fresh 3 with tables := ⟨.empty, procedures⟩ }
    let loop := [word "REPEAT", ⟨.number, utf8 "2", 1⟩, ⟨.opening, utf8 "[", 1⟩] ++ body ++
      [⟨.closing, utf8 "]", 1⟩]
    SavesStep (m.runProgram (body ++ body) Waits.never) (m.runProgram loop Waits.never) ∧
      SavesStep (m.runProgram body Waits.never) (m.runProgram [word "B"] Waits.never) := by
  intro word body procedures m loop
  have meaning := loops_and_calls_mean_their_bodies m body rfl
  have ran : (m.runProgram loop Waits.never).error = none := by
    have ends : ∃ k is m', { m with frames := [.start loop 0 0] }.Ends k is none m' :=
      ⟨_, _, _, .succ rfl (.succ rfl (.succ rfl (.succ rfl (.succ rfl (.succ rfl (.succ rfl
        ⟨_, .zero _, rfl⟩))))))⟩
    obtain ⟨k, is, m', ends⟩ := ends
    rw [runProgram_never rfl ends]
    rfl
  have called : (m.runProgram [word "B"] Waits.never).error = none := by
    have ends : ∃ k is m', { m with frames := [.start [word "B"] 0 0] }.Ends k is none m' :=
      ⟨_, _, _, .succ rfl (.succ rfl (.succ rfl (.succ rfl ⟨_, .zero _, rfl⟩)))⟩
    obtain ⟨k, is, m', ends⟩ := ends
    rw [runProgram_never rfl ends]
    rfl
  constructor
  · exact meaning.1 (word "REPEAT") ⟨.number, utf8 "2", 1⟩ ⟨.opening, utf8 "[", 1⟩
      ⟨.closing, utf8 "]", 1⟩ (.word (utf8 "2")) 2 rfl rfl rfl (List.cons_ne_nil _ _) rfl
      rfl (by decide) ran
  · exact meaning.2 (word "B") rfl rfl called

end Machine

end TurtleLogo
