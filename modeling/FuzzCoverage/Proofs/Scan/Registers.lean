import FuzzCoverage.Scan.Registers
import FuzzCoverage.Proofs.Scan.Reachable

/-! # The registers of a scan agree

A machine that writes the place, the block in progress and the depth one after another computes the
scan of `State` (`Registers.run_eq_ofState`).  So in all that it comes to the three registers agree
(`Registers.existsUnique_standsAt`): it never looks for a block that is not there, and leaves no body
without completing its block. -/

namespace FuzzCoverage.Scan.Registers

open Solidity Trace

/-! ## The machine computes the scan -/

theorem enter_ofState (s : State) (code : Text) :
    (ofState s).enter code = ofState { s with phase := s.phase.enter code } := by
  cases hphase : s.phase with
  | outside =>
    cases hunit : Heading.of? code <;> simp [enter, ofState, hphase, hunit, Phase.enter, Phase.block?]
  | heading block =>
    cases hunit : Heading.of? code <;> simp [enter, ofState, hphase, hunit, Phase.enter, Phase.block?]
  | body block depth => simp [enter, ofState, hphase, Phase.enter]

/-- The braces of a row are settled in the registers as they are in a phase. -/
theorem settle_ofState (s : State) (block : Block) (depth : Nat) (braces : Braces) {n : Int}
    (hn : n = depth + (braces.opens - braces.closes)) :
    settle { ofState s with place := .body, current := some block, depth := n } =
      ofState (s.settle block depth braces) := by
  by_cases hcloses : depth + braces.opens ≤ braces.closes
  · rw [State.settle_of_le hcloses, settle, if_pos (by simp only; omega)]
    rfl
  · have hopen := Nat.not_le.1 hcloses
    rw [State.settle_of_lt hopen, settle, if_neg (by simp only; omega)]
    simp only [ofState, Phase.place, Phase.block?, Phase.depth, mk.injEq, true_and, and_true]
    omega

theorem stepHeading_ofState {s : State} {block : Block} (hs : s.phase = .heading block) (row : Row)
    (code : Text) : (ofState s).stepHeading row code = ofState (s.stepHeading block row code) := by
  have hcurrent : (ofState s).current = some block := by simp [ofState, hs, Phase.block?]
  simp only [stepHeading, hcurrent, State.stepHeading]
  split
  · exact settle_ofState s _ 0 (Braces.of code) (by simp)
  · split
    · simp [ofState, hs, Phase.block?]
    · simp [ofState, hs, Phase.block?, readHeading]

theorem stepBody_ofState {s : State} {block : Block} {depth : Nat} (hs : s.phase = .body block depth)
    (row : Row) (code : Text) :
    (ofState s).stepBody row code = ofState (s.stepBody block depth row code) := by
  rw [State.stepBody, ← settle_ofState s (block.record row code) depth (Braces.of code) rfl, stepBody]
  simp [ofState, hs, Phase.block?]

theorem phase_of_enter_eq_outside {phase : Phase} {code : Text} (h : phase.enter code = .outside) :
    phase = .outside := by
  cases phase with
  | outside => rfl
  | heading block => cases hunit : Heading.of? code <;> simp [Phase.enter, hunit] at h
  | body block depth => cases h

theorem stepCode_ofState (s : State) (row : Row) (code : Text) :
    (ofState s).stepCode row code = ofState (s.stepCode row code) := by
  rw [stepCode, enter_ofState, State.stepCode]
  cases henter : s.phase.enter code with
  | outside =>
    obtain ⟨phase, inComment, residue, closed⟩ := s
    obtain rfl := phase_of_enter_eq_outside henter
    simp only [ofState, Phase.place, stepOutside, State.stepOutside]
    split <;> rfl
  | heading block =>
    have hstep := stepHeading_ofState (s := { s with phase := .heading block }) rfl row code
    simpa [ofState, Phase.place, State.stepHeading, State.settle_withPhase] using hstep
  | body block depth =>
    have hstep := stepBody_ofState (s := { s with phase := .body block depth }) rfl row code
    simpa [ofState, Phase.place, State.stepBody, State.settle_withPhase] using hstep

theorem step_ofState (s : State) (row : Row) : (ofState s).step row = ofState (s.step row) := by
  obtain ⟨phase, inComment, residue, closed⟩ := s
  cases hcode : (CodeLine.of inComment row.source).code with
  | none =>
    cases phase <;> simp [step, State.step, State.stepBlank, ofState, hcode, Phase.block?]
  | some code =>
    have hstep := stepCode_ofState
      ⟨phase, (CodeLine.of inComment row.source).inComment, residue, closed⟩ row code
    simpa [step, State.step, ofState, hcode] using hstep

theorem run_ofState (s : State) (rows : List Row) : (ofState s).run rows = ofState (s.run rows) := by
  induction rows generalizing s with
  | nil => rfl
  | cons row rows ih => rw [run_cons, State.run_cons, step_ofState, ih]

theorem run_eq_ofState (rows : List Row) :
    ({} : Registers).run rows = ofState (({} : State).run rows) :=
  run_ofState {} rows

/-! ## The registers agree -/

/-- What the registers hold where the machine stands at a place. -/
def StandsAt (r : Registers) : Place → Prop
  | .outside => r.place = .outside ∧ r.current = none ∧ r.depth = 0
  | .heading => r.place = .heading ∧ r.current ≠ none ∧ r.depth = 0
  | .body => r.place = .body ∧ r.current ≠ none ∧ 1 ≤ r.depth

theorem place_of_standsAt {r : Registers} {place : Place} (h : r.StandsAt place) : r.place = place := by
  cases place <;> exact h.1

theorem standsAt_ofState {s : State} (hs : s.Standing) : (ofState s).StandsAt s.phase.place := by
  cases hphase : s.phase with
  | outside => simp [StandsAt, ofState, hphase, Phase.block?]
  | heading block => simp [StandsAt, ofState, hphase, Phase.block?]
  | body block depth =>
    have hdepth : (1 : Int) ≤ depth := Int.ofNat_le.2 (hs.depth_pos block depth hphase)
    simpa [StandsAt, ofState, hphase, Phase.block?] using hdepth

theorem exists_block_of_place {s : State} (h : s.phase.place ≠ .outside) :
    ∃ block, (ofState s).current = some block := by
  cases hphase : s.phase with
  | outside => exact absurd (by rw [hphase]; rfl) h
  | heading block => exact ⟨block, by simp [ofState, hphase, Phase.block?]⟩
  | body block depth => exact ⟨block, by simp [ofState, hphase, Phase.block?]⟩

theorem closed_close {r : Registers} {block : Block} (h : r.current = some block) :
    r.close.closed = r.closed ++ [block.complete] := by
  simp [close, h]

/-- A body is left with its block completed. -/
theorem closed_settle {r : Registers} {block : Block} (h : r.current = some block) (hbody : r.place = .body)
    (hleft : r.settle.place = .outside) : r.settle.closed = r.closed ++ [block.complete] := by
  rw [settle] at hleft ⊢
  split at hleft
  · next hnone => rw [if_pos hnone, closed_close h]
  · rw [hbody] at hleft
    cases hleft

theorem closed_finish_ofState (s : State) : (ofState s).finish.closed = s.blocks := by
  cases hphase : s.phase <;>
    simp [finish, close, ofState, hphase, Phase.block?, State.blocks]

/-- **Three registers with one meaning.**  After any rows, exactly one of three things holds: the machine
    stands outside, without a block and at depth 0; or it stands in a heading, with a block and at depth
    0; or in a body, with a block and at a depth of 1 at least.  So there is a block wherever a row is
    read as part of a heading, and a body is left, by its last brace, on its heading's row or at the end
    of the trace, with its block completed.  The registers are those of the scan. -/
theorem existsUnique_standsAt (rows : List Row) :
    let r := ({} : Registers).run rows
    (∃! place, r.StandsAt place) ∧
      (∀ code, (r.enter code).place = .heading → ∃ block, (r.enter code).current = some block ∧
        ∀ row, 0 < (Braces.of code).opens → ((r.enter code).stepHeading row code).place = .outside →
          ((r.enter code).stepHeading row code).closed =
            r.closed ++ [(readHeading block row code).complete]) ∧
      (r.place = .body → ∃ block, r.current = some block ∧
        r.finish.closed = r.closed ++ [block.complete] ∧
        ∀ row code, (r.stepBody row code).place = .outside →
          (r.stepBody row code).closed = r.closed ++ [(block.record row code).complete]) ∧
      r = ofState (({} : State).run rows) ∧ r.finish.closed = (({} : State).run rows).blocks := by
  intro r
  have hr : r = ofState (({} : State).run rows) := run_eq_ofState rows
  have hstands := standsAt_ofState (State.Standing.run rows)
  refine ⟨⟨_, hr ▸ hstands, fun place hplace => ?_⟩, fun code hheading => ?_, fun hbody => ?_, hr, ?_⟩
  · rw [← place_of_standsAt hplace, hr]
    rfl
  · rw [hr, enter_ofState] at hheading ⊢
    obtain ⟨block, hblock⟩ := exists_block_of_place (ne_of_eq_of_ne hheading (by simp))
    refine ⟨block, hblock, fun row hopens hleft => ?_⟩
    simp only [stepHeading, hblock, hopens, if_true] at hleft ⊢
    exact closed_settle rfl rfl hleft
  · rw [hr] at hbody ⊢
    obtain ⟨block, hblock⟩ := exists_block_of_place (ne_of_eq_of_ne hbody (by simp))
    refine ⟨block, hblock, ?_, fun row code hleft => ?_⟩
    · rw [finish, hbody]
      exact closed_close hblock
    · have hcurrent : (ofState (({} : State).run rows)).current.map (Block.record · row code) =
          some (block.record row code) := by rw [hblock]; rfl
      exact closed_settle hcurrent hbody hleft
  · rw [hr, closed_finish_ofState]

end FuzzCoverage.Scan.Registers
