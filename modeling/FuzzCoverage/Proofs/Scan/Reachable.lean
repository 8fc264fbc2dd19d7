import FuzzCoverage.Proofs.Scan.Line
import Mathlib.Data.List.Induction

/-! # Where a scan can stand

A line is read into one block, or into none (`State.receives`), and `AfterLine` is all that it can do
to that block: the block goes on with one more row, it is given up, or it is closed.  From this

* `Standing.run` — in every state that a scan comes to, the block in progress has rows and its body
  an open brace;
* `opened_of_receives` — a block with a row for every line that was read was opened by the first of
  them;
* `exists_closes` — a line closes no block but the one that it is read into. -/

namespace FuzzCoverage.Scan

open Solidity Trace

namespace State

/-- The block that a line is read into. -/
def receives (s : State) (line : Line) : Option Block :=
  match s.phase with
  | .body block _ => some block
  | phase =>
    match line.heading? with
    | some unit => some unit.block
    | none => phase.block?

/-- What a line of `block` makes of the state `s`. -/
inductive AfterLine (s : State) (block : Block) (t : State) : Prop
  | goesOn {next : Block} (phase : t.phase.block? = some next)
      (depth : ∀ block depth, t.phase = .body block depth → 0 < depth) (closed : t.closed = s.closed)
      (unit : next.unit = block.unit) (rowCount : next.rowCount = block.rowCount + 1)
  | givenUp (phase : t.phase = .outside) (closed : t.closed = s.closed)
  | closes {next : Block} (phase : t.phase = .outside) (closed : t.closed = s.closed ++ [next])
      (unit : next.unit = block.unit) (rowCount : next.rowCount = block.rowCount + 1)

/-- The block in progress has rows, and a body has a brace to close. -/
structure Standing (s : State) : Prop where
  rowCount_pos : ∀ block, s.phase.block? = some block → 0 < block.rowCount
  depth_pos : ∀ block depth, s.phase = .body block depth → 0 < depth

variable {s t : State} {block : Block} {line : Line}

/-! ## What a line can do -/

theorem afterLine_settle {next : Block} (depth : Nat) (braces : Braces)
    (unit : next.unit = block.unit) (rowCount : next.rowCount = block.rowCount + 1) :
    s.AfterLine block (s.settle next depth braces) := by
  by_cases hcloses : depth + braces.opens ≤ braces.closes
  · rw [settle_of_le hcloses]
    exact .closes rfl rfl unit rowCount
  · have hopen : braces.closes < depth + braces.opens := Nat.not_le.1 hcloses
    rw [settle_of_lt hopen]
    refine .goesOn rfl ?_ rfl unit rowCount
    intro block' depth' heq
    cases heq
    omega

theorem afterLine_declare (s : State) (block : Block) (line : Line) :
    s.AfterLine block (s.declare block line) := by
  rw [declare]
  split
  · exact afterLine_settle 0 _ rfl rfl
  · split
    · exact .givenUp rfl rfl
    · exact .goesOn rfl (by simp) rfl rfl rfl

theorem afterLine_stepLine (hs : s.Standing) (h : s.receives line = some block) :
    s.AfterLine block (s.stepLine line) := by
  unfold receives at h
  split at h
  · next block' depth hphase =>
    cases h
    rw [stepLine_body hphase (hs.depth_pos _ _ hphase)]
    exact afterLine_settle depth _ rfl rfl
  · next hbody =>
    split at h
    · next unit hunit =>
      cases h
      rw [stepLine_start (fun block depth hphase => hbody block depth hphase) hunit]
      exact afterLine_declare s _ line
    · next hnone =>
      cases hphase : s.phase with
      | outside => simp [hphase, Phase.block?] at h
      | heading block' =>
        rw [hphase] at h
        cases h
        rw [stepLine_heading hphase hnone]
        exact afterLine_declare s _ line
      | body block' depth => exact absurd hphase (hbody block' depth)

/-- A line that is read into no block leaves the scan outside, and closes none. -/
theorem stepLine_of_receives_none (h : s.receives line = none) :
    s.phase = .outside ∧ line.heading? = none ∧
      (s.stepLine line).phase = .outside ∧ (s.stepLine line).closed = s.closed := by
  unfold receives at h
  split at h
  · cases h
  · next hbody =>
    split at h
    · cases h
    · next hnone =>
      cases hphase : s.phase with
      | outside => exact ⟨rfl, hnone, by simp [stepLine_outside hphase hnone, hphase]⟩
      | heading block' => simp [hphase, Phase.block?] at h
      | body block' depth => exact absurd hphase (hbody block' depth)

theorem AfterLine.standing (h : s.AfterLine block t) : t.Standing := by
  cases h with
  | goesOn phase depth closed unit rowCount =>
    refine ⟨fun block' hblock' => ?_, depth⟩
    rw [phase] at hblock'
    cases hblock'
    omega
  | givenUp phase closed => exact ⟨by simp [phase, Phase.block?], by simp [phase]⟩
  | closes phase closed unit rowCount => exact ⟨by simp [phase, Phase.block?], by simp [phase]⟩

theorem Standing.stepLine (hs : s.Standing) (line : Line) : (s.stepLine line).Standing := by
  cases hreceives : s.receives line with
  | none =>
    obtain ⟨-, -, hphase, -⟩ := stepLine_of_receives_none hreceives
    exact ⟨by simp [hphase, Phase.block?], by simp [hphase]⟩
  | some block => exact (afterLine_stepLine hs hreceives).standing

theorem Standing.runLines (hs : s.Standing) (lines : List Line) : (s.runLines lines).Standing := by
  induction lines generalizing s with
  | nil => exact hs
  | cons line lines ih => exact ih (hs.stepLine line)

/-- In every state that a scan comes to, the block in progress has rows and its body an open
    brace. -/
theorem Standing.run (rows : List Row) : (({} : State).run rows).Standing := by
  have hstart : ({} : State).Standing := ⟨by simp [Phase.block?], by simp⟩
  rw [run_eq_runLines]
  have hlines := hstart.runLines (linesOf false rows)
  exact ⟨hlines.rowCount_pos, hlines.depth_pos⟩

/-! ## The block in progress -/

theorem receives_cases (h : s.receives line = some block) :
    s.phase.block? = some block ∨
      (∀ block depth, s.phase ≠ .body block depth) ∧
        ∃ unit, line.heading? = some unit ∧ block = unit.block := by
  unfold receives at h
  split at h
  · next body depth hphase =>
    left
    rw [hphase]
    exact h
  · next hbody =>
    split at h
    · next unit hunit =>
      cases h
      exact Or.inr ⟨fun block depth hphase => hbody block depth hphase, unit, hunit, rfl⟩
    · exact Or.inl h

/-- A block in progress either has fewer rows than lines were read, or the first of these was read
    into it and none has been closed since. -/
theorem block?_runLines {first : Line} {lines : List Line} (hs : s.Standing)
    (h : (s.runLines (first :: lines)).phase.block? = some block) :
    block.rowCount ≤ lines.length ∨
      ∃ start, s.receives first = some start ∧
        (s.runLines (first :: lines)).closed = s.closed ∧ block.unit = start.unit ∧
        block.rowCount = start.rowCount + 1 + lines.length := by
  -- from the last line backwards, since a line may begin a block anew
  induction lines using List.reverseRecOn generalizing block with
  | nil =>
    rw [runLines_cons, runLines_nil] at h ⊢
    cases hreceives : s.receives first with
    | none =>
      obtain ⟨-, -, hphase, -⟩ := stepLine_of_receives_none hreceives
      rw [hphase] at h
      cases h
    | some start =>
      cases afterLine_stepLine hs hreceives with
      | goesOn phase depth closed unit rowCount =>
        rw [phase] at h
        cases h
        exact Or.inr ⟨start, rfl, closed, unit, rowCount⟩
      | givenUp phase closed =>
        rw [phase] at h
        cases h
      | closes phase closed unit rowCount =>
        rw [phase] at h
        cases h
  | append_singleton lines line ih =>
    have hsplit : s.runLines (first :: (lines ++ [line])) = (s.runLines (first :: lines)).stepLine line := by
      rw [← List.cons_append, runLines_append, runLines_cons, runLines_nil]
    have hstanding := hs.runLines (first :: lines)
    rw [hsplit] at h ⊢
    rw [List.length_append, List.length_singleton]
    cases hreceives : (s.runLines (first :: lines)).receives line with
    | none =>
      obtain ⟨-, -, hphase, -⟩ := stepLine_of_receives_none hreceives
      rw [hphase] at h
      cases h
    | some before =>
      cases afterLine_stepLine hstanding hreceives with
      | goesOn phase depth closed unit rowCount =>
        rw [phase] at h
        cases h
        rcases receives_cases hreceives with hbefore | ⟨-, unit', -, rfl⟩
        · rcases ih hbefore with hfewer | ⟨start, hstart, hclosed, hunit, hrows⟩
          · left
            omega
          · exact Or.inr ⟨start, hstart, closed.trans hclosed, unit.trans hunit, by omega⟩
        · left
          have hnew : unit'.block.rowCount = 0 := rfl
          omega
      | givenUp phase closed =>
        rw [phase] at h
        cases h
      | closes phase closed unit rowCount =>
        rw [phase] at h
        cases h

/-- A block that has a row for every line before the one that is read into it was opened by the first
    of them, and none has been closed since. -/
theorem opened_of_receives {first last : Line} {lines tail : List Line} (hs : s.Standing)
    (hlines : lines ++ [last] = first :: tail) (h : (s.runLines lines).receives last = some block)
    (hrows : block.rowCount = lines.length) :
    (∀ block depth, s.phase ≠ .body block depth) ∧ first.heading? = some block.unit ∧
      (s.runLines lines).closed = s.closed := by
  have hopened : ∀ {start : Block}, s.receives first = some start → start.rowCount = 0 →
      (∀ block depth, s.phase ≠ .body block depth) ∧ first.heading? = some start.unit := by
    intro start hstart hnone
    rcases receives_cases hstart with hphase | ⟨hbody, unit, hunit, rfl⟩
    · exact absurd hnone (Nat.ne_of_gt (hs.rowCount_pos _ hphase))
    · exact ⟨hbody, hunit⟩
  cases lines with
  | nil =>
    cases hlines
    obtain ⟨hbody, hunit⟩ := hopened h hrows
    exact ⟨hbody, hunit, rfl⟩
  | cons first' lines =>
    obtain ⟨rfl, -⟩ := List.cons.inj hlines
    rw [List.length_cons] at hrows
    rcases receives_cases h with hphase | ⟨-, unit, -, rfl⟩
    · rcases block?_runLines hs hphase with hfewer | ⟨start, hstart, hclosed, hunit, hcount⟩
      · omega
      · obtain ⟨hbody, hheading⟩ := hopened hstart (by omega)
        exact ⟨hbody, hunit ▸ hheading, hclosed⟩
    · cases hrows

/-- A line that adds to the closed blocks adds the one that it was read into. -/
theorem exists_closes (hs : s.Standing) (h : s.closed.length < (s.stepLine line).closed.length) :
    ∃ block next, s.receives line = some block ∧ (s.stepLine line).closed = s.closed ++ [next] ∧
      next.unit = block.unit ∧ next.rowCount = block.rowCount + 1 := by
  cases hreceives : s.receives line with
  | none =>
    obtain ⟨-, -, -, hclosed⟩ := stepLine_of_receives_none hreceives
    rw [hclosed] at h
    exact absurd h (Nat.lt_irrefl _)
  | some block =>
    cases afterLine_stepLine hs hreceives with
    | goesOn phase depth closed unit rowCount =>
      rw [closed] at h
      exact absurd h (Nat.lt_irrefl _)
    | givenUp phase closed =>
      rw [closed] at h
      exact absurd h (Nat.lt_irrefl _)
    | @closes next phase closed unit rowCount => exact ⟨block, next, rfl, closed, unit, rowCount⟩

end State

end FuzzCoverage.Scan
