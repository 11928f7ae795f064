import TurtleLogo.Proofs.Scanning

/-!
# Transcripts

A transcript is the list of source texts that were run one after another on a machine, all of them
with success. Joined with newlines it is a single source text. Running that from the same tables
repeats the whole session: no token, argument, block or definition reaches across a join, and the
lines that differ are looked at by nothing but diagnostics.
-/

set_option autoImplicit false

namespace TurtleLogo

/-- The tokens of joined texts are those of the texts one after another, apart from their lines. -/
theorem unlined_scan_join (srcs : List Text) :
    Program.unlined (Token.scan (Text.join [Text.newline] srcs)) =
      Program.unlined (srcs.flatMap Token.scan) := by
  induction srcs with
  | nil => simp [Text.join, Token.scan, Token.scanFrom]
  | cons src rest ih =>
    cases rest with
    | nil => simp [Text.join]
    | cons next rest =>
      have joined : Text.join [Text.newline] (src :: next :: rest) =
          src ++ Text.newline :: Text.join [Text.newline] (next :: rest) := by
        simp [Text.join]
      rw [joined, Token.scan, Token.scanFrom_append_break Text.isBreak_newline,
        Token.scanFrom_newline, Program.unlined_append, Token.unlined_scanFrom (1 + _ + 1) 1]
      rw [List.flatMap_cons, Program.unlined_append, ← ih]
      rfl

namespace Machine

/-- Runs source texts one after another, each on the machine that the one before it leaves. -/
def runEach (m : Machine) : List Text → List Run
  | [] => []
  | src :: rest => m.run src Waits.never :: runEach (m.run src Waits.never).machine rest

def afterEach (m : Machine) : List Text → Machine
  | [] => m
  | src :: rest => afterEach (m.run src Waits.never).machine rest

theorem runProgram_evaluate (m : Machine) {p : Program} (balanced : p.fault? = none) :
    ∃ waits, m.runProgram p Waits.never =
      ⟨m.left (evaluate m.limit 1 m.tables p), (evaluate m.limit 1 m.tables p).instructions, waits,
        (evaluate m.limit 1 m.tables p).fault.map .diagnosed⟩ := by
  have load := load_of_balanced m balanced
  obtain ⟨waits, ends⟩ := ends_evaluate load
  exact ⟨waits, runProgram_never load ends⟩

theorem balanced_of_success {m : Machine} {p : Program}
    (success : (m.runProgram p Waits.never).error = none) : p.fault? = none := by
  cases load : m.load p with
  | ok loaded => exact balanced_of_load load
  | error d =>
    rw [runProgram_refused load] at success
    cases success

/-- Source texts that are all run with success evaluate with success as one program. -/
theorem evaluate_transcript (m : Machine) (srcs : List Text)
    (success : ∀ r ∈ m.runEach srcs, r.error = none) :
    Program.fault? (srcs.flatMap Token.scan) = none ∧
      evaluate m.limit 1 m.tables (srcs.flatMap Token.scan) =
        ⟨(m.afterEach srcs).tables, (m.runEach srcs).flatMap Run.instructions,
          ((m.runEach srcs).map fun r => r.machine.steps).sum, none⟩ := by
  induction srcs generalizing m with
  | nil => exact ⟨rfl, evaluate_nil⟩
  | cons src rest ih =>
    simp only [runEach, List.mem_cons, forall_eq_or_imp] at success
    obtain ⟨first, others⟩ := success
    have balanced := balanced_of_success first
    obtain ⟨waits, ran⟩ := runProgram_evaluate m balanced
    obtain ⟨balancedRest, evaluatedRest⟩ := ih _ others
    have done : (evaluate m.limit 1 m.tables (Token.scan src)).fault = none := by
      rw [run, ran] at first
      exact Option.map_eq_none_iff.mp first
    rw [List.flatMap_cons]
    refine ⟨Program.fault?_append balanced balancedRest, ?_⟩
    rw [evaluate_append done]
    simp only [runEach, afterEach, run, ran] at evaluatedRest ⊢
    generalize evaluate m.limit 1 m.tables (Token.scan src) = o at done evaluatedRest ⊢
    have goesOn : evaluate m.limit 1 o.tables (rest.flatMap Token.scan) =
        ⟨((m.left o).afterEach rest).tables, ((m.left o).runEach rest).flatMap Run.instructions,
          (((m.left o).runEach rest).map fun r => r.machine.steps).sum, none⟩ := evaluatedRest
    simp [Outcome.andThen, done, goesOn, left]

/-- Replaying a transcript repeats the session: source texts that are all run with success, one
after another, are also run with success when they are joined with newlines and run at once, on any
machine with the same tables and the same limit. That run gives all their instructions, takes all
their steps, and leaves the same variables and, up to the lines of their tokens, the same
procedures. -/
theorem run_transcript (m fresh : Machine) (tables : fresh.tables = m.tables)
    (depth : fresh.maxDepth = m.maxDepth) (srcs : List Text)
    (success : ∀ r ∈ m.runEach srcs, r.error = none) :
    let whole := fresh.run (Text.join [Text.newline] srcs) Waits.never
    whole.error = none ∧
      whole.instructions = (m.runEach srcs).flatMap Run.instructions ∧
      whole.machine.steps = ((m.runEach srcs).map fun r => r.machine.steps).sum ∧
      whole.machine.tables.values = (m.afterEach srcs).tables.values ∧
      whole.machine.tables.procedures.map Program.unlined =
        (m.afterEach srcs).tables.procedures.map Program.unlined := by
  intro whole
  obtain ⟨balanced, evaluated⟩ := evaluate_transcript m srcs success
  have limit : fresh.limit = m.limit := by rw [Machine.limit, Machine.limit, depth]
  have joined := unlined_scan_join srcs
  have balancedJoin : Program.fault? (Token.scan (Text.join [Text.newline] srcs)) = none := by
    rw [← Program.fault?_unlined_eq_none, joined, Program.fault?_unlined_eq_none]
    exact balanced
  obtain ⟨waits, ran⟩ := runProgram_evaluate fresh balancedJoin
  have same := evaluate_unlined m.limit 1 m.tables (Token.scan (Text.join [Text.newline] srcs))
  rw [joined, evaluate_unlined, evaluated] at same
  have ranWhole : whole = fresh.runProgram (Token.scan (Text.join [Text.newline] srcs)) Waits.never :=
    rfl
  rw [ranWhole, ran, limit, tables]
  generalize evaluate m.limit 1 m.tables (Token.scan (Text.join [Text.newline] srcs)) = o at same
  simp only [Outcome.unlined, Tables.unlined, Outcome.mk.injEq, Tables.mk.injEq] at same
  obtain ⟨⟨values, procedures⟩, instructions, steps, fault⟩ := same
  refine ⟨?_, instructions.symm, steps.symm, values.symm, procedures.symm⟩
  rw [Option.map_none, eq_comm, Option.map_eq_none_iff] at fault
  rw [fault]
  rfl

/-- A procedure that is called before and after it is redefined, in three runs and in one. -/
theorem run_transcript_redefined :
    let srcs := [utf8 "DEF A PU END", utf8 "A DEF A PD END", utf8 "A"]
    let whole := (fresh 2).run (Text.join [Text.newline] srcs) Waits.never
    (∀ r ∈ (fresh 2).runEach srcs, r.error = none) ∧ whole.error = none ∧
      whole.instructions = ((fresh 2).runEach srcs).flatMap Run.instructions := by
  intro srcs whole
  have success : ∀ r ∈ (fresh 2).runEach srcs, r.error = none := by
    intro r member
    simp only [srcs, runEach, List.mem_cons, List.not_mem_nil, or_false] at member
    rcases member with rfl | rfl | rfl <;> cbv
  have replayed := run_transcript (fresh 2) (fresh 2) rfl rfl srcs success
  exact ⟨success, replayed.1, replayed.2.1⟩

end Machine

end TurtleLogo
