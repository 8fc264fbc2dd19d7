import FuzzCoverage.Proofs.Scan.SignatureBraces
import FuzzCoverage.Proofs.Scan.Surroundings

/-! # Declarations without a body

A scan knows a declaration without a body by its last row: the row ends in a semicolon, and no row of
the declaration has an opening brace.  What else stands on these rows counts with it.  So a
declaration is dropped exactly when nothing around it on its rows opens a brace and its last row
ends in a semicolon (`drops_iff`); otherwise it gets a block, or waits for the next brace of the file
and takes the rows up to there. -/

namespace FuzzCoverage.Scan

open Solidity Trace

/-- The lines of a declaration that ends with a semicolon and has no brace of its own; `before` and
    `after` are what else stands on them, and no other unit begins in `before`. -/
structure IsDeclaration (unit : Heading) (front : List Line) (last : Line)
    (before signature after : Text) : Prop where
  own : Heading.of? signature = some unit
  alone : Heading.of? before = none
  begins : Begins unit (front ++ [last])
  unended : ∀ line ∈ front, line.endsInSemicolon = false
  text : textOf (front ++ [last]) = before ++ (signature ++ ';' :: after)
  noBrace : '\x7b' ∉ signature

/-- Whatever rows come after these, a scan finds what it would find if it had been outside of every
    block after them and had counted none of them. -/
def State.Drops (s : State) (rows : List Row) : Prop :=
  ∀ rest : List Row,
    (s.run (rows ++ rest)).blocks =
        (({ s with phase := .outside, inComment := commentAfter s.inComment rows } : State).run
          rest).blocks ∧
      (s.run (rows ++ rest)).residue? =
        (({ s with phase := .outside, inComment := commentAfter s.inComment rows } : State).run
          rest).residue?

/-! ## Lines with an opening brace -/

theorem mem_textOf_iff {lines : List Line} :
    '\x7b' ∈ textOf lines ↔ ∃ line ∈ lines, 0 < line.braces.opens := by
  simp only [textOf, List.mem_flatMap]
  refine exists_congr fun line => and_congr_right fun _ => ?_
  cases hcode : line.code with
  | none => simp [Line.braces, hcode]
  | some code => simp [Line.braces, hcode, Braces.of_eq_count, List.count_pos_iff]

theorem exists_first_brace {lines : List Line} (h : ∃ line ∈ lines, 0 < line.braces.opens) :
    ∃ before brace after, lines = before ++ brace :: after ∧
      (∀ line ∈ before, line.braces.opens = 0) ∧ 0 < brace.braces.opens := by
  induction lines with
  | nil => simp at h
  | cons line lines ih =>
    by_cases hline : 0 < line.braces.opens
    · exact ⟨[], line, lines, rfl, by simp, hline⟩
    · obtain ⟨line', hmem, hopens⟩ := h
      have hlines : line' ∈ lines := by
        rcases List.mem_cons.1 hmem with rfl | hmem
        · exact absurd hopens hline
        · exact hmem
      obtain ⟨before, brace, after, rfl, hbefore, hbrace⟩ := ih ⟨line', hlines, hopens⟩
      refine ⟨line :: before, brace, after, rfl, ?_, hbrace⟩
      exact List.forall_mem_cons.2 ⟨Nat.eq_zero_of_not_pos hline, hbefore⟩

/-! ## Blocks that a scan has found stay -/

namespace State

variable {s : State}

theorem blocks_of_notBody (hs : ∀ block depth, s.phase ≠ .body block depth) : s.blocks = s.closed := by
  unfold blocks
  split
  · next block depth hphase => exact absurd hphase (hs block depth)
  · rfl

theorem length_closed_le (s : State) : s.closed.length ≤ s.blocks.length := by
  unfold blocks
  split <;> simp

theorem length_blocks_stepLine (s : State) (line : Line) :
    s.blocks.length ≤ (s.stepLine line).blocks.length := by
  cases hphase : s.phase with
  | outside =>
    rw [blocks_of_notBody (by simp [hphase])]
    exact (s.closed_stepLine line).length_le.trans (length_closed_le _)
  | heading block =>
    rw [blocks_of_notBody (by simp [hphase])]
    exact (s.closed_stepLine line).length_le.trans (length_closed_le _)
  | body block depth =>
    -- a block in its body goes on, or is closed
    have hsettle : ∀ (block : Block) (depth : Nat) (braces : Braces),
        s.closed.length + 1 ≤ (s.settle block depth braces).blocks.length := by
      intro block depth braces
      unfold settle
      split
      · exact Nat.le_of_eq (by simp [close, blocks])
      · exact Nat.le_of_eq (by simp [blocks])
    have hblocks : s.blocks.length = s.closed.length + 1 := by simp [blocks, hphase]
    rw [hblocks]
    cases hcode : line.code with
    | none => simp [stepLine, hcode, stepBlank, hphase, blocks]
    | some code =>
      simp only [stepLine, hcode, stepCode, hphase, Phase.enter, stepBody]
      exact hsettle _ _ _

theorem length_blocks_runLines (s : State) (lines : List Line) :
    s.blocks.length ≤ (s.runLines lines).blocks.length := by
  induction lines generalizing s with
  | nil => exact Nat.le_refl _
  | cons line lines ih => exact (s.length_blocks_stepLine line).trans (ih _)

theorem length_blocks_of_begins {unit : Heading} {heading : List Line} {brace : Line}
    (hs : ∀ block depth, s.phase ≠ .body block depth) (begins : Begins unit (heading ++ [brace]))
    (goesOn : ∀ line ∈ heading, line.goesOn) (opens : 0 < brace.braces.opens)
    (rest : List Line) :
    s.closed.length < (s.runLines (heading ++ brace :: rest)).blocks.length := by
  -- a definition has a block from its first brace on, and keeps it
  obtain ⟨body, after, rfl, hdefinition⟩ := exists_definition begins goesOn opens rest
  have hsplit : heading ++ brace :: (body ++ after) = (heading ++ brace :: body) ++ after := by simp
  have hfound : s.closed.length < (s.runLines (heading ++ brace :: body)).blocks.length := by
    rw [runLines_definition hs hdefinition]
    split
    · simp [close, blocks]
    · simp [blocks]
  rw [hsplit, runLines_append]
  exact Nat.lt_of_lt_of_le hfound (length_blocks_runLines _ after)

theorem runLines_of_noBrace {unit : Heading} {front : List Line} {last : Line}
    (hs : ∀ block depth, s.phase ≠ .body block depth) (begins : Begins unit (front ++ [last]))
    (unended : ∀ line ∈ front, line.endsInSemicolon = false)
    (noBrace : ∀ line ∈ front ++ [last], line.braces.opens = 0) :
    ∃ block, s.runLines (front ++ [last]) =
      { s with phase := if last.endsInSemicolon then .outside else .heading block } := by
  obtain ⟨hfront, hlast⟩ := List.forall_mem_append.1 noBrace
  have goesOn : ∀ line ∈ front, line.goesOn := by
    intro line hline
    simp [Line.goesOn, hfront line hline, unended line hline]
  refine ⟨(((unit.block.mark front).readAll front).mark [last]).read last, ?_⟩
  rw [runLines_begins hs begins goesOn, declare, if_neg (by simp [hlast last (by simp)])]
  split
  · rfl
  · rfl

/-- A heading that is still open becomes a block with the next brace. -/
theorem blocks_of_heading {block : Block} (hs : s.phase = .heading block) :
    (s.run [silentRow "*/ \x7b".toList]).blocks ≠
      (({ s with phase := .outside } : State).run [silentRow "*/ \x7b".toList]).blocks := by
  obtain ⟨code, hcode, hbrace⟩ := exists_isBrace s.inComment
  have hlines : linesOf s.inComment [silentRow "*/ \x7b".toList] =
      [⟨silentRow "*/ \x7b".toList, some code⟩] := by
    rw [← hcode]
    rfl
  have houtside := stepLine_outside (s := { s with phase := .outside }) rfl hbrace.heading?
  rw [run_eq_runLines, run_eq_runLines, hlines, runLines_cons, runLines_nil, runLines_cons,
    runLines_nil, stepLine_heading hs hbrace.heading?, houtside, declare, hbrace.braces,
    if_pos Nat.one_pos, settle_of_lt Nat.one_pos]
  simp [blocks]

end State

/-- **When a declaration without a body is dropped.**  Exactly when nothing else on its rows opens a
    brace, and the last of them ends in a semicolon. -/
theorem drops_iff {s : State} {rows : List Row} {unit : Heading} {front : List Line} {last : Line}
    {before signature after : Text} (hs : ∀ block depth, s.phase ≠ .body block depth)
    (hlines : linesOf s.inComment rows = front ++ [last])
    (h : IsDeclaration unit front last before signature after) :
    s.Drops rows ↔ '\x7b' ∉ before ∧ '\x7b' ∉ after ∧ last.endsInSemicolon := by
  have hbraces : (∀ line ∈ front ++ [last], line.braces.opens = 0) ↔ '\x7b' ∉ before ∧ '\x7b' ∉ after := by
    have htext : '\x7b' ∈ textOf (front ++ [last]) ↔ '\x7b' ∈ before ∨ '\x7b' ∈ after := by
      simp [h.text, h.noBrace]
    rw [← not_or, ← htext, mem_textOf_iff]
    simp only [not_exists, not_and, Nat.not_lt, Nat.le_zero]
  rw [← and_assoc, ← hbraces]
  have hrun := State.run_eq_runLines s rows
  rw [hlines] at hrun
  constructor
  · intro hdrops
    have hnone : ∀ line ∈ front ++ [last], line.braces.opens = 0 := by
      refine Classical.byContradiction fun hsome => ?_
      have hsome : ∃ line ∈ front ++ [last], 0 < line.braces.opens := by
        simpa only [Nat.pos_iff_ne_zero, not_forall, exists_prop] using hsome
      -- the line with the first brace begins a body, whose block is found
      obtain ⟨heading, brace, rest, hsplit, hheading, hopens⟩ := exists_first_brace hsome
      have hbegins : Begins unit (heading ++ [brace]) := by
        have hall := h.begins
        rw [hsplit, ← List.singleton_append, ← List.append_assoc] at hall
        exact hall.of_append (by simp)
      have goesOn : ∀ line ∈ heading, line.goesOn := by
        intro line hline
        have hfront : line ∈ front := by
          have hinit := congrArg List.dropLast hsplit
          rw [List.dropLast_concat, List.dropLast_append_of_ne_nil (by simp)] at hinit
          exact hinit ▸ List.mem_append_left _ hline
        simp [Line.goesOn, hheading line hline, h.unended line hfront]
      have hblocks := congrArg List.length (hdrops []).1
      have hfound := State.length_blocks_of_begins hs hbegins goesOn hopens rest
      rw [List.append_nil, hrun, State.run_nil, hsplit] at hblocks
      exact absurd hblocks (Nat.ne_of_gt hfound)
    refine ⟨hnone, ?_⟩
    obtain ⟨block, hblock⟩ := State.runLines_of_noBrace hs h.begins h.unended hnone
    refine Classical.byContradiction fun hends => ?_
    rw [hblock, if_neg hends] at hrun
    -- the heading would be waiting still, and take the next brace for its body
    have hrest := (hdrops [silentRow "*/ \x7b".toList]).1
    rw [State.run_append, hrun] at hrest
    exact State.blocks_of_heading rfl hrest
  · rintro ⟨hnone, hends⟩
    obtain ⟨block, hblock⟩ := State.runLines_of_noBrace hs h.begins h.unended hnone
    rw [hblock, if_pos hends] at hrun
    intro rest
    rw [State.run_append, hrun]
    exact ⟨rfl, rfl⟩

/-- A declaration on two rows, between a closing brace and another declaration. -/
theorem drops_betweenOthers :
    IsDeclaration ⟨.function, "f".toList⟩
        [⟨silentRow "\x7d function f(".toList, some "\x7d function f(".toList⟩]
        ⟨silentRow ") external; uint256 y;".toList, some ") external; uint256 y;".toList⟩
        "\x7d ".toList "function f() external".toList " uint256 y;".toList ∧
      ({} : State).Drops
        [silentRow "\x7d function f(".toList, silentRow ") external; uint256 y;".toList] := by
  have h : IsDeclaration ⟨.function, "f".toList⟩
      [⟨silentRow "\x7d function f(".toList, some "\x7d function f(".toList⟩]
      ⟨silentRow ") external; uint256 y;".toList, some ") external; uint256 y;".toList⟩
      "\x7d ".toList "function f() external".toList " uint256 y;".toList :=
    { own := by decide
      alone := by decide
      begins := ⟨by decide, by decide⟩
      unended := by decide
      text := by decide
      noBrace := by decide }
  have hs : ∀ block depth, ({} : State).phase ≠ .body block depth := by simp
  exact ⟨h, (drops_iff hs (by decide) h).2 ⟨by decide, by decide, by decide⟩⟩

/-- A contract with a state variable that a run has reached. -/
def contractRows : List Row :=
  [silentRow "contract C \x7b".toList, ⟨none, .hits 1, .covered, "uint256 x = 1;".toList⟩,
    silentRow "\x7d".toList]

/-- The brace that closes an interface stands after its last declaration: that waits for the brace of
    the next contract, and takes the contract for its body. -/
theorem not_drops_beforeClosingBrace :
    IsDeclaration ⟨.function, "f".toList⟩ []
        ⟨silentRow "function f() external; \x7d".toList, some "function f() external; \x7d".toList⟩
        [] "function f() external".toList " \x7d".toList ∧
      ¬ (({} : State).run [silentRow "interface I \x7b".toList]).Drops
        [silentRow "function f() external; \x7d".toList] ∧
      (({} : State).run (silentRow "interface I \x7b".toList ::
          silentRow "function f() external; \x7d".toList :: contractRows)).blocks.map
          (fun block => (block.unit, block.rowCount, block.tallies.covered)) =
        [(⟨.function, "f".toList⟩, 4, 1)] := by
  refine ⟨⟨by decide, by decide, ⟨by decide, by decide⟩, by decide, by decide, by decide⟩, ?_, by decide⟩
  intro hdrops
  exact absurd (congrArg List.length (hdrops contractRows).1) (by decide)

end FuzzCoverage.Scan
