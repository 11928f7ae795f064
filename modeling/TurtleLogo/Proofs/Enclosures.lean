import TurtleLogo.Proofs.Completion
import TurtleLogo.Command

/-!
# What is enclosed at a place

The block or procedure body that starts at a place of a program is the one part of it that is nested
and has its closing token behind it. It is found wherever there is one, and the place behind it
follows from its length. A program with balanced brackets has a block at every `[`, balanced again;
a program that needs no more input has a body behind the name of every `DEF`.
-/

set_option autoImplicit false

namespace TurtleLogo

namespace Program

def StartsWithBlock (p body : Program) : Prop :=
  ∃ left right rest, p = left :: (body ++ right :: rest) ∧ left.isOpening = true ∧
    right.isClosing = true ∧ Nested Token.isOpening Token.isClosing body

def StartsWithDefinition (p body : Program) : Prop :=
  ∃ right rest, p = body ++ right :: rest ∧ right.isEnd = true ∧ Nested Token.isDef Token.isEnd body

/-! ## Places -/

section

variable {p front after : Program} {start : Nat}

theorem place_behind (shape : p.drop start = front ++ after) (nonempty : front ≠ []) :
    p.length - after.length = start + front.length := by
  have lengths := congrArg List.length shape
  rw [List.length_drop, List.length_append] at lengths
  have positive := List.length_pos_iff.mpr nonempty
  omega

theorem drop_place_behind (ends : after <:+ p.drop start) :
    p.drop (p.length - after.length) = after :=
  (List.suffix_iff_eq_drop.mp (ends.trans (List.drop_suffix start p))).symm

end

/-- Two tokens next to each other stand in front of what is left behind them. -/
theorem drop_eq_cons_cons {p : Program} {i : Nat} {head name : Token} (here : p[i]? = some head)
    (next : p[i + 1]? = some name) : p.drop i = head :: name :: p.drop (i + 2) := by
  obtain ⟨short, rfl⟩ := List.getElem?_eq_some_iff.mp here
  obtain ⟨short', rfl⟩ := List.getElem?_eq_some_iff.mp next
  rw [List.drop_eq_getElem_cons short, List.drop_eq_getElem_cons short']

/-! ## Blocks -/

section

variable {p body body' : Program} {start next : Nat}

theorem block?_eq_some_iff {after : Program} :
    block? p = some (body, after) ↔
      ∃ left right, p = left :: (body ++ right :: after) ∧ left.isOpening = true ∧
        right.isClosing = true ∧ Nested Token.isOpening Token.isClosing body := by
  cases p with
  | nil => simp [block?]
  | cons t rest =>
    rw [block?, splitBlock_eq]
    constructor
    · intro found
      split at found
      · rename_i opening
        obtain ⟨nested, right, closing, shape⟩ :=
          (splitClosing_eq_some_iff not_isOpening_of_isClosing).mp found
        exact ⟨t, right, by rw [shape], by simp [Token.isOpening, opening], closing, nested⟩
      · cases found
    · rintro ⟨left, right, shape, opening, closing, nested⟩
      cases shape
      rw [if_pos (by simpa [Token.isOpening] using opening)]
      exact (splitClosing_eq_some_iff not_isOpening_of_isClosing).mpr ⟨nested, right, closing, rfl⟩

theorem startsWithBlock_iff : StartsWithBlock p body ↔ ∃ after, block? p = some (body, after) := by
  simp only [block?_eq_some_iff]
  constructor
  · rintro ⟨left, right, rest, starts⟩
    exact ⟨rest, left, right, starts⟩
  · rintro ⟨rest, left, right, starts⟩
    exact ⟨left, right, rest, starts⟩

theorem place_of_block? {after : Program} (found : block? (p.drop start) = some (body, after)) :
    p.length - after.length = start + body.length + 2 := by
  obtain ⟨left, right, shape, _⟩ := block?_eq_some_iff.mp found
  have whole : p.drop start = (left :: (body ++ [right])) ++ after := by simp [shape]
  rw [place_behind whole (List.cons_ne_nil _ _)]
  simp [Nat.add_assoc]

theorem blockAt_eq_iff :
    blockAt p start = ⟨body, next, true⟩ ↔
      StartsWithBlock (p.drop start) body ∧ next = start + body.length + 2 := by
  rw [startsWithBlock_iff]
  constructor
  · intro extent
    rw [blockAt] at extent
    split at extent
    · rename_i inner after found
      cases extent
      exact ⟨⟨after, found⟩, place_of_block? found⟩
    · cases extent
  · rintro ⟨⟨after, found⟩, rfl⟩
    rw [blockAt, found]
    simp only [place_of_block? found]

theorem StartsWithBlock.unique (one : StartsWithBlock p body) (other : StartsWithBlock p body') :
    body = body' := by
  obtain ⟨after, found⟩ := startsWithBlock_iff.mp one
  obtain ⟨after', found'⟩ := startsWithBlock_iff.mp other
  cases found.symm.trans found'
  rfl

/-- Where the brackets are balanced, a balanced block is found at every `[`. -/
theorem blockAt_of_balanced (balanced : fault? p = none) {t : Token} (here : p[start]? = some t)
    (opening : t.isOpening = true) :
    ∃ body next, blockAt p start = ⟨body, next, true⟩ ∧ fault? body = none := by
  obtain ⟨short, rfl⟩ := List.getElem?_eq_some_iff.mp here
  have starts : startsBlock (p.drop start) = true := by
    rw [List.drop_eq_getElem_cons short]
    exact opening
  have closed : (block? (p.drop start)).isSome :=
    closesBlocks_of_faultFrom balanced (p.drop start) (List.drop_suffix start p) starts
  obtain ⟨⟨body, after⟩, found⟩ := Option.isSome_iff_exists.mp closed
  refine ⟨body, p.length - after.length, ?_, fault?_of_block? found⟩
  rw [blockAt, found]

/-! ## Procedure bodies -/

theorem definition?_eq_some_iff {after : Program} :
    definition? p = some (body, after) ↔
      ∃ right, p = body ++ right :: after ∧ right.isEnd = true ∧
        Nested Token.isDef Token.isEnd body := by
  rw [definition?, splitDefinition_eq, splitClosing_eq_some_iff not_isDef_of_isEnd]
  constructor
  · rintro ⟨nested, right, ends, shape⟩
    exact ⟨right, shape, ends, nested⟩
  · rintro ⟨right, shape, ends, nested⟩
    exact ⟨nested, right, ends, shape⟩

theorem startsWithDefinition_iff :
    StartsWithDefinition p body ↔ ∃ after, definition? p = some (body, after) := by
  simp only [definition?_eq_some_iff]
  exact exists_comm

theorem place_of_definition? {after : Program}
    (found : definition? (p.drop start) = some (body, after)) :
    p.length - after.length = start + body.length + 1 := by
  obtain ⟨right, shape, _⟩ := definition?_eq_some_iff.mp found
  have whole : p.drop start = (body ++ [right]) ++ after := by simp [shape]
  rw [place_behind whole (by simp)]
  simp [Nat.add_assoc]

theorem definitionAt_eq_iff :
    definitionAt p start = ⟨body, next, true⟩ ↔
      StartsWithDefinition (p.drop start) body ∧ next = start + body.length + 1 := by
  rw [startsWithDefinition_iff]
  constructor
  · intro extent
    rw [definitionAt] at extent
    split at extent
    · rename_i inner after found
      cases extent
      exact ⟨⟨after, found⟩, place_of_definition? found⟩
    · cases extent
  · rintro ⟨⟨after, found⟩, rfl⟩
    rw [definitionAt, found]
    simp only [place_of_definition? found]

theorem StartsWithDefinition.unique (one : StartsWithDefinition p body)
    (other : StartsWithDefinition p body') : body = body' := by
  obtain ⟨after, found⟩ := startsWithDefinition_iff.mp one
  obtain ⟨after', found'⟩ := startsWithDefinition_iff.mp other
  cases found.symm.trans found'
  rfl

end

/-- A block is found at a place exactly if one starts there, and so is a procedure body: the tokens
inside are nested, at most one part of the program will do, and the place behind it is just behind
its closing token. In a program with balanced brackets a block is found at every `[`, and its inside
has balanced brackets. -/
theorem extents_are_nested_and_unique (p : Program) (start : Nat) :
    (∀ body next, blockAt p start = ⟨body, next, true⟩ ↔
        StartsWithBlock (p.drop start) body ∧ next = start + body.length + 2) ∧
      (∀ body body', StartsWithBlock (p.drop start) body →
        StartsWithBlock (p.drop start) body' → body = body') ∧
      (∀ body next, definitionAt p start = ⟨body, next, true⟩ ↔
        StartsWithDefinition (p.drop start) body ∧ next = start + body.length + 1) ∧
      (∀ body body', StartsWithDefinition (p.drop start) body →
        StartsWithDefinition (p.drop start) body' → body = body') ∧
      (fault? p = none → ∀ t, p[start]? = some t → t.isOpening = true →
        ∃ body next, blockAt p start = ⟨body, next, true⟩ ∧ fault? body = none) := by
  refine ⟨?_, ?_, ?_, ?_, ?_⟩
  · intro body next
    exact blockAt_eq_iff
  · intro body body' one other
    exact one.unique other
  · intro body next
    exact definitionAt_eq_iff
  · intro body body' one other
    exact one.unique other
  · intro balanced t here opening
    exact blockAt_of_balanced balanced here opening

/-- A block inside a loop, found from the `[` of the loop although a block stands in front of it. -/
theorem extents_are_nested_and_unique_loop :
    let p : Program := Token.scan (utf8 "[ ] REPEAT 2 [ FD 1 [ RT 2 ] ] end")
    fault? p = none ∧ StartsWithBlock (p.drop 4) ((p.drop 5).take 6) ∧
      StartsWithDefinition (p.drop 5) ((p.drop 5).take 7) ∧
      ∃ body next, blockAt p 4 = ⟨body, next, true⟩ ∧ fault? body = none := by
  intro p
  have balanced : fault? p = none := by decide +kernel
  have block : blockAt p 4 = ⟨(p.drop 5).take 6, 12, true⟩ := by decide +kernel
  have definition : definitionAt p 5 = ⟨(p.drop 5).take 7, 13, true⟩ := by decide +kernel
  obtain ⟨blocks, _, _, _, balancedBlocks⟩ := extents_are_nested_and_unique p 4
  obtain ⟨_, _, definitions, _⟩ := extents_are_nested_and_unique p 5
  exact ⟨balanced, ((blocks _ _).mp block).1, ((definitions _ _).mp definition).1,
    balancedBlocks balanced ⟨.opening, utf8 "[", 1⟩ (by decide +kernel) (by decide +kernel)⟩

/-! ## Programs that need no more input -/

theorem noExtra_of_prefixes {p : Program}
    (noStray : ∀ q, q <+: p → q.countP Token.isClosing ≤ q.countP Token.isOpening) :
    NoExtra 0 p := by
  rintro before t after rfl ⟨_, more⟩
  have counted := noStray (before ++ [t]) ⟨after, by simp⟩
  omega

/-- A token that neither starts nor ends a definition, as a name is, may be left out of a search. -/
theorem definition?_of_cons {name : Token} {rest : Program} (noDef : name.isDef = false)
    (noEnd : name.isEnd = false) (found : (definition? (name :: rest)).isSome) :
    (definition? rest).isSome := by
  rw [definition?, splitDefinition_eq] at found ⊢
  simpa [splitClosing, noDef, noEnd] using found

/-- Behind the name of every `DEF` a complete program has its body. -/
theorem exists_definition_of_complete {p : Program} (noExtra : NoExtra 0 p)
    (complete : incomplete p = false) {i : Nat} {head name : Token} (here : p[i]? = some head)
    (defines : head.isDef = true) (named : p[i + 1]? = some name) (noDef : name.isDef = false)
    (noEnd : name.isEnd = false) :
    ∃ body after, definition? (p.drop (i + 2)) = some (body, after) := by
  have closed : ¬Unclosed Token.isDef Token.isEnd p := by
    intro unclosed
    exact (incomplete_eq_false_iff p).mp complete ⟨noExtra, .inr unclosed⟩
  -- The count over the whole program says that no `DEF` at all is left open, so this one is not.
  have behind : (definition? (name :: p.drop (i + 2))).isSome := by
    rw [definition?, splitDefinition_eq, Option.isSome_iff_ne_none]
    intro unsplit
    apply closed
    refine ⟨p.take i, head, name :: p.drop (i + 2), ?_, defines, ?_⟩
    · rw [← drop_eq_cons_cons here named, List.take_append_drop]
    · exact (splitClosing_eq_none_iff not_isDef_of_isEnd).mp unsplit
  obtain ⟨⟨body, after⟩, found⟩ :=
    Option.isSome_iff_exists.mp (definition?_of_cons noDef noEnd behind)
  exact ⟨body, after, found⟩

/-- Once no more input is asked for, and no `]` closes nothing, the body of every `DEF` with a name
is found, and running the `DEF` defines a procedure with this body and goes on behind it. -/
theorem complete_programs_have_whole_definitions (p : Program)
    (noStray : ∀ q, q <+: p → q.countP Token.isClosing ≤ q.countP Token.isOpening)
    (complete : incomplete p = false) (i : Nat) (head name : Token) (here : p[i]? = some head)
    (defines : head.isDef = true) (named : p[i + 1]? = some name) (noDef : name.isDef = false)
    (noEnd : name.isEnd = false) :
    (definitionAt p (i + 2)).found = true ∧
      interpretDefinition head.line (p.drop (i + 1)) =
        .ok (.define (Text.upper name.text) (definitionAt p (i + 2)).body,
          p.drop (definitionAt p (i + 2)).next) := by
  have noExtra := noExtra_of_prefixes noStray
  obtain ⟨body, after, found⟩ :=
    exists_definition_of_complete noExtra complete here defines named noDef noEnd
  have extent : definitionAt p (i + 2) = ⟨body, p.length - after.length, true⟩ := by
    rw [definitionAt, found]
  have behind : p.drop (i + 1) = name :: p.drop (i + 2) := by
    rw [← List.tail_drop, drop_eq_cons_cons here named, List.tail_cons]
  have left : p.drop (p.length - after.length) = after := drop_place_behind (definition?_ends found)
  rw [extent]
  refine ⟨rfl, ?_⟩
  rw [behind, left]
  simp [interpretDefinition, argument, found]

/-- An `END` that closes nothing, in front of a definition inside another one. -/
theorem complete_programs_have_whole_definitions_nested :
    let p : Program := Token.scan (utf8 "END DEF a def b END [ FD 1 ] End END")
    incomplete p = false ∧ (definitionAt p 3).found = true ∧ (definitionAt p 5).found = true := by
  intro p
  have counted : ∀ q ∈ p.inits, q.countP Token.isClosing ≤ q.countP Token.isOpening := by
    decide +kernel
  have noStray : ∀ q, q <+: p → q.countP Token.isClosing ≤ q.countP Token.isOpening := by
    intro q starts
    exact counted q ((List.mem_inits q p).mpr starts)
  have complete : incomplete p = false := by decide +kernel
  have outer := complete_programs_have_whole_definitions p noStray complete 1
    ⟨.word, utf8 "DEF", 1⟩ ⟨.word, utf8 "a", 1⟩ (by decide +kernel) (by decide +kernel)
    (by decide +kernel) (by decide +kernel) (by decide +kernel)
  have inner := complete_programs_have_whole_definitions p noStray complete 3
    ⟨.word, utf8 "def", 1⟩ ⟨.word, utf8 "b", 1⟩ (by decide +kernel) (by decide +kernel)
    (by decide +kernel) (by decide +kernel) (by decide +kernel)
  exact ⟨complete, outer.1, inner.1⟩

end Program

end TurtleLogo
