import Mathlib
import TurtleLogo.Shell.Repl

/-!
# Chunks of a conversation

The lines of a conversation are divided into chunks, and no line is lost or used twice. A chunk
starts behind the one before it, or behind an interruption, and ends at the first line with which it
is whole: a directive, or a program that leaves nothing open. Lines that make no chunk are those
that were pending at an interruption or at the end. A conversation goes from chunk to chunk.
-/

set_option autoImplicit false

namespace TurtleLogo

namespace Shell

/-! ## Groups of lines -/

def joined (lines : List Text) : Text :=
  Text.join (utf8 "\n") lines

def Whole (lines : List Text) : Prop :=
  (Text.trim (joined lines)).head? = some 0x3A ∨
    Program.incomplete (Token.scan (joined lines)) = false

/-- None of the lines completes those in front of it. -/
def Pending (lines : List Text) : Prop :=
  ∀ first, first ≠ [] → first <+: lines →
    Program.incomplete (Token.scan (joined first)) = true ∧
      (Text.trim (joined first)).head? ≠ some 0x3A

/-- Consecutive lines: those of a chunk, or those in front of an interruption. -/
inductive Group where
  | chunk (lines : List Text)
  | aborted (lines : List Text)

namespace Group

def answers : Group → List Answer
  | .chunk lines => lines.map .line
  | .aborted lines => lines.map .line ++ [.aborted]

def chunk? : Group → Option Text
  | .chunk lines => some (joined lines)
  | .aborted _ => none

/-- The lines of a chunk are whole with the last one and not before. -/
def Sound : Group → Prop
  | .chunk lines => lines ≠ [] ∧ Whole lines ∧ Pending lines.dropLast
  | .aborted lines => Pending lines

end Group

/-- The answers to the prompts are those of the groups, followed by lines that are still pending at
the end. -/
structure Division (answers : List Answer) (groups : List Group) (pending : List Text) : Prop where
  covers : answers = groups.flatMap Group.answers ++ pending.map .line
  sound : ∀ group ∈ groups, group.Sound
  pending : Pending pending

/-- `Reads answers chunks`: the chunks are read one after another until there are no more. -/
inductive Reads : List Answer → List Text → Prop
  | nothing {answers : List Answer} (ended : nextChunk? [] answers = none) : Reads answers []
  | chunk {answers rest : List Answer} {src : Text} {chunks : List Text}
      (next : nextChunk? [] answers = some (src, rest)) (later : Reads rest chunks) :
      Reads answers (src :: chunks)

/-! ## Collecting lines -/

section

variable {lines held : List Text}

theorem isWhole_iff (lines : List Text) : isWhole (joined lines) = true ↔ Whole lines := by
  simp [isWhole, isDirective, Whole]

theorem not_whole_iff (lines : List Text) :
    ¬Whole lines ↔ Program.incomplete (Token.scan (joined lines)) = true ∧
      (Text.trim (joined lines)).head? ≠ some 0x3A := by
  rw [Whole, not_or, Bool.not_eq_false]
  exact and_comm

theorem pending_nil : Pending [] := by
  intro first filled front
  exact absurd (List.prefix_nil.mp front) filled

theorem Pending.not_whole (pending : Pending lines) (filled : lines ≠ []) : ¬Whole lines :=
  (not_whole_iff lines).mpr (pending lines filled (List.prefix_refl lines))

theorem Pending.concat (pending : Pending held) {line : Text}
    (unfinished : ¬Whole (held ++ [line])) : Pending (held ++ [line]) := by
  intro first filled front
  rcases List.prefix_concat_iff.mp front with rfl | front
  · exact (not_whole_iff _).mp unfinished
  · exact pending first filled front

theorem Pending.of_prefix (pending : Pending lines) (front : held <+: lines) : Pending held := by
  intro first filled inner
  exact pending first filled (inner.trans front)

theorem joined_concat (filled : held ≠ []) (line : Text) :
    joined (held ++ [line]) = joined held ++ utf8 "\n" ++ line := by
  induction held with
  | nil => exact absurd rfl filled
  | cons first others ih =>
    cases others with
    | nil => rfl
    | cons next others =>
      have tail := ih (List.cons_ne_nil next others)
      simp only [joined, List.cons_append, Text.join] at tail ⊢
      simp only [tail, List.append_assoc]

/-- Lines that leave something open are not blank, so the text collected from them is not mistaken
for that of no lines. -/
theorem Pending.collect (pending : Pending held) (line : Text) :
    collect (joined held) line = joined (held ++ [line]) := by
  cases held with
  | nil => rfl
  | cons first others =>
    have filled : first :: others ≠ [] := List.cons_ne_nil first others
    have left : joined (first :: others) ≠ [] := by
      intro empty
      have incomplete := (pending _ filled (List.prefix_refl _)).1
      simp [empty, Token.scan, Token.scanFrom, Program.incomplete, Program.incompleteFrom] at incomplete
    rw [joined_concat filled, Shell.collect, if_neg (by simpa using left)]

theorem Pending.take_of_whole (pending : Pending held) {line : Text}
    (whole : Whole (held ++ [line])) :
    take (joined held) (.line line) = .whole (joined (held ++ [line])) := by
  simp only [take]
  rw [pending.collect, if_pos ((isWhole_iff _).mpr whole)]

theorem Pending.take_of_unfinished (pending : Pending held) {line : Text}
    (unfinished : ¬Whole (held ++ [line])) :
    take (joined held) (.line line) = .pending (joined (held ++ [line])) := by
  simp only [take]
  rw [pending.collect, if_neg (mt (isWhole_iff _).mp unfinished)]

/-- Lines that complete nothing are all collected. -/
theorem nextChunk?_of_pending (held : List Text) (pending : Pending (held ++ lines))
    (more : List Answer) :
    nextChunk? (joined held) (lines.map .line ++ more) =
      nextChunk? (joined (held ++ lines)) more := by
  induction lines generalizing held with
  | nil => simp
  | cons line lines ih =>
    have unfinished : ¬Whole (held ++ [line]) :=
      (pending.of_prefix ⟨lines, by simp⟩).not_whole (by simp)
    have before : Pending held := pending.of_prefix (List.prefix_append held _)
    rw [List.map_cons, List.cons_append, nextChunk?, before.take_of_unfinished unfinished]
    simpa using ih (held ++ [line]) (by simpa using pending)

end

namespace Group

theorem nextChunk?_chunk {lines : List Text} (sound : (chunk lines).Sound) (more : List Answer) :
    nextChunk? [] ((chunk lines).answers ++ more) = some (joined lines, more) := by
  obtain ⟨filled, whole, pending⟩ := sound
  have split : lines = lines.dropLast ++ [lines.getLast filled] :=
    (List.dropLast_concat_getLast filled).symm
  generalize lines.dropLast = front, lines.getLast filled = last at split pending
  subst split
  calc nextChunk? [] ((front ++ [last]).map .line ++ more)
    _ = nextChunk? [] (front.map .line ++ .line last :: more) := by simp
    _ = nextChunk? (joined front) (.line last :: more) := nextChunk?_of_pending [] pending _
    _ = some (joined (front ++ [last]), more) := by rw [nextChunk?, pending.take_of_whole whole]

theorem nextChunk?_aborted {lines : List Text} (sound : (aborted lines).Sound)
    (more : List Answer) :
    nextChunk? [] ((aborted lines).answers ++ more) = nextChunk? [] more := by
  have collected := nextChunk?_of_pending [] sound (.aborted :: more)
  rw [answers, List.append_assoc]
  exact collected

end Group

/-! ## Reading -/

theorem Reads.of_next {answers more : List Answer} {chunks : List Text} (reads : Reads more chunks)
    (same : nextChunk? [] answers = nextChunk? [] more) : Reads answers chunks := by
  cases reads with
  | nothing ended => exact .nothing (same.trans ended)
  | chunk next later => exact .chunk (same.trans next) later

theorem Reads.unique {answers : List Answer} {chunks others : List Text}
    (reads : Reads answers chunks) (again : Reads answers others) : chunks = others := by
  induction reads generalizing others with
  | nothing ended =>
    cases again with
    | nothing => rfl
    | chunk next _ => simp [ended] at next
  | chunk next later ih =>
    cases again with
    | nothing ended => simp [ended] at next
    | chunk next' later' =>
      obtain ⟨rfl, rfl⟩ : _ = _ ∧ _ = _ := by simpa using next.symm.trans next'
      rw [ih later']

theorem reads_flatMap {groups : List Group} {pending : List Text}
    (sound : ∀ group ∈ groups, group.Sound) (left : Pending pending) :
    Reads (groups.flatMap Group.answers ++ pending.map .line) (groups.filterMap Group.chunk?) := by
  induction groups with
  | nil =>
    have collected := nextChunk?_of_pending [] left []
    rw [List.append_nil] at collected
    exact .nothing collected
  | cons group groups ih =>
    have first := sound group List.mem_cons_self
    have later := ih fun other member => sound other (List.mem_cons_of_mem group member)
    rw [List.flatMap_cons, List.append_assoc]
    cases group with
    | chunk lines => exact .chunk (Group.nextChunk?_chunk first _) later
    | aborted lines => exact later.of_next (Group.nextChunk?_aborted first _)

/-- Whatever is held, it and the answers that follow can be divided. -/
theorem exists_division (held : List Text) (before : Pending held) (answers : List Answer) :
    ∃ groups pending, Division (held.map .line ++ answers) groups pending := by
  induction answers generalizing held with
  | nil => exact ⟨[], held, by simp, by simp, before⟩
  | cons answer answers ih =>
    cases answer with
    | aborted =>
      obtain ⟨groups, pending, covers, sound, left⟩ := ih [] pending_nil
      have covers : answers = groups.flatMap Group.answers ++ pending.map .line := covers
      refine ⟨.aborted held :: groups, pending, ?_, ?_, left⟩
      · simp [covers, Group.answers]
      · exact List.forall_mem_cons.mpr ⟨before, sound⟩
    | line line =>
      by_cases whole : Whole (held ++ [line])
      · obtain ⟨groups, pending, covers, sound, left⟩ := ih [] pending_nil
        have covers : answers = groups.flatMap Group.answers ++ pending.map .line := covers
        have chunk : (Group.chunk (held ++ [line])).Sound :=
          ⟨by simp, whole, by simpa using before⟩
        refine ⟨.chunk (held ++ [line]) :: groups, pending, ?_, ?_, left⟩
        · simp [covers, Group.answers]
        · exact List.forall_mem_cons.mpr ⟨chunk, sound⟩
      · simpa using ih (held ++ [line]) (before.concat whole)

/-- Every series of answers is read to its end. The chunks are the joined lines of the groups of a
division, in order, and no other chunks are read. -/
theorem chunks_are_first_whole_groups (answers : List Answer) :
    (∃ chunks, Reads answers chunks) ∧
      ∀ chunks, Reads answers chunks ↔
        ∃ groups pending,
          Division answers groups pending ∧ chunks = groups.filterMap Group.chunk? := by
  obtain ⟨groups, pending, division⟩ : ∃ groups pending, Division answers groups pending :=
    exists_division [] pending_nil answers
  have reads : Reads answers (groups.filterMap Group.chunk?) :=
    division.covers ▸ reads_flatMap division.sound division.pending
  refine ⟨⟨_, reads⟩, fun chunks => ⟨?_, ?_⟩⟩
  · intro found
    exact ⟨groups, pending, division, found.unique reads⟩
  · rintro ⟨groups, pending, ⟨covers, sound, left⟩, rfl⟩
    exact covers ▸ reads_flatMap sound left

example :
    nextChunk? [] [.line (utf8 "DEF a ["), .aborted, .line (utf8 "REPEAT 2 ["), .line [],
      .line (utf8 "FD 1 ]"), .line (utf8 "PU")] =
      some (utf8 "REPEAT 2 [\n\nFD 1 ]", [.line (utf8 "PU")]) := by
  decide +kernel

/-! ## Conversations -/

namespace Repl

variable {m : Type → Type} [Surroundings m]

def ask (pending : Text) : List Answer → m Unit
  | [] => Surroundings.print (prompt pending)
  | answer :: answers => do
    Surroundings.print (prompt pending)
    match take pending answer with
    | .whole _ => pure ()
    | .pending src => ask src answers

def proceed (r : Repl) : Option (Text × List Answer) → m Unit
  | none => r.leaveAtEnd
  | some (src, rest) => do
    let r ← { r with pending := [] }.obey src
    if r.ended then r.leave else r.converse rest

theorem proceed_pending (r : Repl) (src : Text) (next : Option (Text × List Answer)) :
    { r with pending := src }.proceed (m := m) next = r.proceed next := by
  cases next <;> rfl

/-- A conversation asks for the next chunk and obeys it, and so on with the answers behind it. -/
theorem converse_eq [LawfulMonad m] (r : Repl) (going : r.ended = false) (answers : List Answer) :
    r.converse (m := m) answers =
      ask r.pending answers >>= fun _ => r.proceed (nextChunk? r.pending answers) := by
  induction answers generalizing r with
  | nil => rfl
  | cons answer answers ih =>
    rw [converse, ask, nextChunk?, hear]
    cases take r.pending answer with
    | whole src => simp [proceed]
    | pending src =>
      simp only [pure_bind, bind_assoc]
      rw [if_neg (by simp [going]), ih { r with pending := src } going, proceed_pending]

end Repl

end Shell

end TurtleLogo
