import FuzzCoverage.Checked.Analysis
import FuzzCoverage.Proofs.Scan.Tallied

/-! # Scanning with every operation checked

Two things grow in a scan.  A block counts rows, none of them twice, so that no count passes the number of
rows that were read (`State.holds_sumsUp`).  The depth is raised by braces that are opened, and these are
characters of the rows (`State.openBraces_run_le`).  So a scan of rows that are few and short enough for its words
has every operation in range (`run_eq`), and what it returns is counted in range as well
(`residue?_eq`). -/

namespace FuzzCoverage

open Decimal (word64)
open Checked (signedLimit)
open Scan Solidity Trace

/-! ## Counting -/

namespace Checked

theorem countBraces_eq {before : Braces} {site : Option Char} {code : Text}
    (h : before.opens + before.closes + code.length < word64) :
    countBraces before site code = .ok (before.add (Braces.count site code)) := by
  fun_induction countBraces before site code with
  | case1 => simp [Braces.count, Braces.add]
  | case2 before quote c rest ih =>
    rw [Braces.count]
    apply ih
    simp only [List.length_cons] at h
    omega
  | case3 before quote c rest hescape ih =>
    rw [Braces.count]
    · apply ih
      simp only [List.length_cons] at h
      omega
    · exact hescape
  | case4 before c rest ih =>
    have hchar := Braces.ofChar_le c
    simp only [List.length_cons] at h
    have hrest := ih (before.opens + (Braces.ofChar c).opens) (before.closes + (Braces.ofChar c).closes)
      (by simp only; omega)
    rw [add_eq (by omega), ok_bind, add_eq (by omega), ok_bind, hrest, Braces.count, ← Braces.add_assoc]
    rfl

theorem braces_eq {code : Text} (h : code.length < word64) : braces code = .ok (Braces.of code) := by
  rw [braces, countBraces_eq (by simpa using h)]
  simp [Braces.add, Braces.of]

theorem signedLimit_lt_word64 : signedLimit < word64 := by decide

theorem tally_eq {b : Block} (hb : b.Tallied) (h : b.rowCount + 1 < word64) (outcome : Outcome) :
    tally b.tallies outcome = .ok (b.tallies.add outcome) := by
  -- no tally of the block is more than its rows, and it has room for one row more
  have hcounted := hb.counted_le
  have hcovered := hb.logicalCovered_le
  have huntouched := hb.logicalUntouched_le
  cases outcome with
  | uncounted => rfl
  | covered logical =>
    have hone : logical.toNat ≤ 1 := Bool.toNat_le logical
    rw [tally, add_eq (by omega), ok_bind, add_eq (by omega), ok_bind]
    rfl
  | reverted snippet =>
    rw [tally, add_eq (by omega), ok_bind, add_eq (by omega), ok_bind]
    rfl
  | untouched logical snippet =>
    have hone : logical.toNat ≤ 1 := Bool.toNat_le logical
    rw [tally, add_eq (by omega), ok_bind, add_eq (by omega), ok_bind]
    rfl

theorem skipRow_eq {b : Block} (h : b.rowCount + 1 < word64) : skipRow b = .ok b.skipRow := by
  rw [skipRow, add_eq h, ok_bind]
  rfl

theorem record_eq {b : Block} (hb : b.Tallied) (h : b.rowCount + 1 < word64) (row : Row) (code : Text) :
    record b row code = .ok (b.record row code) := by
  have htally := tally_eq hb h (Outcome.of row code)
  rw [record, skipRow_eq h, ok_bind]
  show (tally b.tallies (Outcome.of row code) >>= _) = _
  rw [htally, ok_bind]
  rfl

theorem counted_eq {b : Block} (hb : b.Tallied) (h : b.rowCount < word64) :
    counted b.tallies = .ok b.tallies.counted := by
  have hcounted := hb.counted_le
  rw [counted, add_eq (by omega), ok_bind, add_eq (by omega)]
  rfl

end Checked

/-! ## The depth -/

/-- What a row can add to the numbers that a scan keeps: itself to the rows, and each character of its
    source to the depth. -/
def Trace.Row.extent (row : Row) : Nat := row.source.length + 1

namespace Scan

/-- A row that is looked at for a heading leaves the phase, or begins a block that has no rows yet. -/
theorem Phase.enter_cases (phase : Phase) (code : Text) :
    phase.enter code = phase ∨ ∃ unit : Heading, phase.enter code = .heading unit.block := by
  cases phase with
  | outside =>
    cases hunit : Heading.of? code with
    | none => exact Or.inl (by simp [enter, hunit])
    | some unit => exact Or.inr ⟨unit, by simp [enter, hunit, Heading.block]⟩
  | heading block =>
    cases hunit : Heading.of? code with
    | none => exact Or.inl (by simp [enter, hunit])
    | some unit => exact Or.inr ⟨unit, by simp [enter, hunit, Heading.block]⟩
  | body block depth => exact Or.inl rfl

namespace State

/-- The number of braces that are open in the body that a scan stands in. -/
def openBraces (s : State) : Nat :=
  match s.phase with
  | .body _ depth => depth
  | _ => 0

theorem openBraces_settle_le (s : State) (block : Block) (depth : Nat) (braces : Braces) :
    (s.settle block depth braces).openBraces ≤ depth + braces.opens := by
  by_cases hcloses : depth + braces.opens ≤ braces.closes
  · rw [settle_of_le hcloses]
    exact Nat.zero_le _
  · rw [settle_of_lt (Nat.not_le.1 hcloses)]
    exact Nat.sub_le _ _

theorem openBraces_stepHeading_le (s : State) (block : Block) (row : Row) (code : Text) :
    (s.stepHeading block row code).openBraces ≤ (Braces.of code).opens := by
  simp only [stepHeading]
  split
  · simpa using openBraces_settle_le s _ 0 (Braces.of code)
  · split <;> exact Nat.zero_le _

theorem openBraces_stepCode_le (s : State) (row : Row) (code : Text) :
    (s.stepCode row code).openBraces ≤ s.openBraces + (Braces.of code).opens := by
  rw [stepCode]
  rcases s.phase.enter_cases code with henter | ⟨unit, henter⟩
  · rw [henter]
    cases hphase : s.phase with
    | outside => simp [stepOutside, openBraces, hphase, apply_ite]
    -- a heading has no braces that are open, and its first one begins the body
    | heading block => exact (openBraces_stepHeading_le s block row code).trans (Nat.le_add_left _ _)
    | body block depth =>
      have hdepth : s.openBraces = depth := by rw [openBraces, hphase]
      rw [hdepth]
      exact openBraces_settle_le s _ depth _
  · rw [henter]
    exact (openBraces_stepHeading_le s _ row code).trans (Nat.le_add_left _ _)

theorem openBraces_stepBlank (s : State) : s.stepBlank.openBraces = s.openBraces := by
  cases hphase : s.phase <;> simp [stepBlank, openBraces, hphase]

theorem openBraces_step_le (s : State) (row : Row) :
    (s.step row).openBraces ≤ s.openBraces + row.source.length := by
  rw [step]
  cases hcode : (CodeLine.of s.inComment row.source).code with
  | none =>
    have hblank := openBraces_stepBlank { s with inComment := (CodeLine.of s.inComment row.source).inComment }
    exact hblank.le.trans (Nat.le_add_right _ _)
  | some code =>
    have hbraces := Braces.of_le code
    have hlength := length_code_le hcode
    have hstep := openBraces_stepCode_le
      { s with inComment := (CodeLine.of s.inComment row.source).inComment } row code
    refine hstep.trans (Nat.add_le_add_left ?_ _)
    omega

/-- Every open brace is a character of some row that was read. -/
theorem openBraces_run_le (s : State) (rows : List Row) :
    (s.run rows).openBraces ≤ s.openBraces + (rows.map Row.extent).sum := by
  induction rows generalizing s with
  | nil => exact Nat.le_refl _
  | cons row rows ih =>
    have hstep := openBraces_step_le s row
    have hrest := ih (s.step row)
    rw [run_cons, List.map_cons, List.sum_cons, Row.extent]
    omega

end State

end Scan

/-! ## Steps -/

namespace Checked

theorem settle_eq (s : State) (block : Block) (depth : Nat) (braces : Braces) :
    settle s block (depth + (braces.opens - braces.closes : Int)) = s.settle block depth braces := by
  by_cases hcloses : depth + braces.opens ≤ braces.closes
  · rw [State.settle_of_le hcloses]
    exact if_pos (by omega)
  · have hopen := Nat.not_le.1 hcloses
    have hdepth : (depth + (braces.opens - braces.closes : Int)).toNat =
        depth + braces.opens - braces.closes := by omega
    rw [State.settle_of_lt hopen, settle, if_neg (by omega), hdepth]

theorem depthChange_eq {braces : Braces} (h : braces.opens + braces.closes < signedLimit) :
    depthChange braces = .ok (braces.opens - braces.closes) := by
  rw [depthChange, signed_eq (by omega), signed_eq (by omega), signedSub, signedWord_eq (by omega)]

section

variable {s : State} {block : Block} {row : Row} {code : Text}

theorem stepOutside_eq (hb : s.residue.Tallied) (h : s.residue.rowCount + 1 < word64) :
    stepOutside s row code = .ok (s.stepOutside row code) := by
  rw [stepOutside, State.stepOutside]
  split
  · rfl
  · rw [record_eq hb h, ok_bind]
    rfl

theorem stepHeading_eq (hb : block.Tallied) (h : block.rowCount + 1 < word64)
    (hcode : code.length < signedLimit) :
    stepHeading s block row code = .ok (s.stepHeading block row code) := by
  have hbraces := Braces.of_le code
  have hmarked := hb.withViewPure (block.viewPure || code.mentions viewPureWords)
  rw [stepHeading, record_eq hmarked h, ok_bind, braces_eq (hcode.trans signedLimit_lt_word64), ok_bind,
    depthChange_eq (by omega), ok_bind, State.stepHeading]
  split
  · -- a body begins at the depth zero
    rw [← settle_eq]
    simp
  · split <;> rfl

theorem stepBody_eq {depth : Nat} (hb : block.Tallied) (h : block.rowCount + 1 < word64)
    (hcode : depth + code.length < signedLimit) :
    stepBody s block depth row code = .ok (s.stepBody block depth row code) := by
  have hbraces := Braces.of_le code
  have hlength : code.length < signedLimit := by omega
  rw [stepBody, record_eq hb h, ok_bind, braces_eq (hlength.trans signedLimit_lt_word64), ok_bind,
    depthChange_eq (by omega), ok_bind, signedAdd, signedWord_eq (by omega), ok_bind, settle_eq]
  rfl

theorem stepBlank_eq (h : ∀ block, s.phase.block? = some block → block.rowCount + 1 < word64) :
    stepBlank s = .ok s.stepBlank := by
  rw [stepBlank, State.stepBlank]
  cases hphase : s.phase with
  | outside => rfl
  | heading block =>
    rw [hphase] at h
    simp [skipRow_eq (h block rfl)]
  | body block depth =>
    rw [hphase] at h
    simp [skipRow_eq (h block rfl)]

end

/-- What is known of the numbers that a scan keeps: its blocks have counted so many rows at most, and so
    many braces are open. -/
structure Within (n : Nat) (s : State) : Prop where
  blocks : s.Holds (Block.SumsUpWithin n)
  openBraces : s.openBraces ≤ n

theorem Within.withComment {n : Nat} {s : State} (hs : Within n s) (inComment : Bool) :
    Within n { s with inComment := inComment } :=
  ⟨⟨hs.blocks.closed, hs.blocks.current, hs.blocks.residue⟩, hs.openBraces⟩

theorem stepCode_eq {n : Nat} {s : State} {row : Row} {code : Text} (hs : Within n s)
    (h : n + code.length + 1 < signedLimit) : stepCode s row code = .ok (s.stepCode row code) := by
  have hlimit := signedLimit_lt_word64
  -- a heading that goes on and one that begins on this row are read alike
  have hheading : ∀ block : Block, block.SumsUpWithin n →
      stepHeading s block row code = .ok (s.stepHeading block row code) := by
    intro block hblock
    have hrows := hblock.rowCount_le
    exact stepHeading_eq hblock.tallied (by omega) (by omega)
  rw [stepCode, State.stepCode]
  rcases s.phase.enter_cases code with henter | ⟨unit, henter⟩
  · rw [henter]
    cases hphase : s.phase with
    | outside =>
      have hrows := hs.blocks.residue.rowCount_le
      exact stepOutside_eq hs.blocks.residue.tallied (by omega)
    | heading block => exact hheading block (hs.blocks.current block (by rw [hphase]; rfl))
    | body block depth =>
      have hblock := hs.blocks.current block (by rw [hphase]; rfl)
      have hrows := hblock.rowCount_le
      have hdepth : depth ≤ n := by simpa [State.openBraces, hphase] using hs.openBraces
      exact stepBody_eq hblock.tallied (by omega) (by omega)
  · rw [henter]
    exact hheading unit.block ((Block.carries_sumsUpWithin n).opened unit)

theorem step_eq {n : Nat} {s : State} {row : Row} (hs : Within n s) (h : n + row.extent < signedLimit) :
    step s row = .ok (s.step row) := by
  have hlimit := signedLimit_lt_word64
  have hcomment := hs.withComment (CodeLine.of s.inComment row.source).inComment
  rw [Row.extent] at h
  rw [step, State.step]
  cases hcode : (CodeLine.of s.inComment row.source).code with
  | none =>
    apply stepBlank_eq
    intro block hblock
    have hrows := (hcomment.blocks.current block hblock).rowCount_le
    omega
  | some code =>
    have hlength := length_code_le hcode
    exact stepCode_eq hcomment (by omega)

/-! ## Scans -/

theorem length_le_extent (rows : List Row) : rows.length ≤ (rows.map Row.extent).sum := by
  induction rows with
  | nil => exact Nat.le_refl _
  | cons row rows ih =>
    rw [List.length_cons, List.map_cons, List.sum_cons, Row.extent]
    omega

theorem within_run (rows : List Row) :
    Within (rows.map Row.extent).sum (({} : State).run rows) where
  blocks := (State.holds_sumsUp rows).imp fun _ hb => hb.mono (length_le_extent rows)
  openBraces := (State.openBraces_run_le {} rows).trans (by simp [State.openBraces])

/-- A scan of rows has every operation in range, if the rows and their characters do not pass the largest
    signed number. -/
theorem run_eq (rows : List Row) (h : (rows.map Row.extent).sum < signedLimit) :
    run {} rows = .ok (({} : State).run rows) := by
  -- from the last row backwards, since what is known of a state is known of scans from the beginning
  induction rows using List.reverseRecOn with
  | nil => rfl
  | append_singleton rows row ih =>
    rw [List.map_append, List.sum_append, List.map_singleton, List.sum_singleton] at h
    have hbefore : rows.foldlM step {} = .ok (({} : State).run rows) := ih (by omega)
    rw [run, List.foldlM_append, hbefore, ok_bind, State.run_append]
    simp [step_eq (within_run rows) h]

theorem residue?_eq {rows : List Row} (h : (rows.map Row.extent).sum < signedLimit) :
    residue? (({} : State).run rows) = .ok (({} : State).run rows).residue? := by
  have hresidue := (within_run rows).blocks.residue
  have hrows := hresidue.rowCount_le
  have hlimit := signedLimit_lt_word64
  rw [residue?, counted_eq hresidue.tallied (by omega), ok_bind]
  rfl

end Checked

end FuzzCoverage
