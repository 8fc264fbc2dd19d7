import FuzzCoverage.Proofs.Scan.AssemblyHeaders
import FuzzCoverage.Proofs.Scan.Effect

/-! # What the files around a row show of it

A row can be put into three files that differ in what stands before it: nothing, a heading, or the
beginning of a body.  An opening brace stands at the end of each of them, so that a heading that is
still open becomes a block.  The figures of the three files show all of the row's effect
(`effect_eq_of_figuresAround`): a scan uses no more of a row than its effect, and no less. -/

namespace FuzzCoverage.Scan

open Solidity Trace

/-! ## Lines of headers -/

theorem outcome_of_structural {line : Line} (h : line.row.isActive = false) : line.outcome = .uncounted := by
  cases hcode : line.code with
  | none => rw [Line.outcome, hcode]; rfl
  | some code =>
    have houtcome : Outcome.of line.row code = .uncounted := by rw [Outcome.of, h]; rfl
    rw [Line.outcome, hcode, Option.map_some, houtcome]
    rfl

/-- The line of a row that `next` stands after. -/
def filledLine (inComment : Bool) (row : Row) (next : Option Row) : Line :=
  ⟨fillHeader row next, (CodeLine.of inComment row.source).code⟩

theorem linesOf_fillAssemblyHeaders_cons (inComment : Bool) (row : Row) (rows : List Row) :
    linesOf inComment (fillAssemblyHeaders (row :: rows)) =
      filledLine inComment row rows.head? ::
        linesOf (CodeLine.of inComment row.source).inComment (fillAssemblyHeaders rows) := by
  rw [fillAssemblyHeaders_cons, linesOf, fillHeader_source, filledLine]

/-- A row without a counter counts for nothing, unless it is a header that takes the outcome of another
    one. -/
theorem outcome_filledLine {row : Row} (structural : row.isActive = false)
    (h : isAssemblyHeader row = false) (inComment : Bool) (next : Option Row) :
    (filledLine inComment row next).outcome = .uncounted := by
  rw [filledLine, fillHeader_of_not_isAssemblyHeader h]
  exact outcome_of_structural structural

theorem codeLine_nil (inComment : Bool) : CodeLine.of inComment [] = ⟨none, inComment⟩ := by
  cases inComment <;> decide

theorem filledLine_blank (inComment : Bool) (row : Row) (next : Option Row) :
    filledLine inComment { row with source := [] } next = ⟨{ row with source := [] }, none⟩ := by
  have hheader : isAssemblyHeader { row with source := [] } = false := by simp [isAssemblyHeader]
  rw [filledLine, fillHeader_of_not_isAssemblyHeader hheader, codeLine_nil]

/-! ## Files around a row -/

/-- A row without a counter. -/
def silentRow (source : Text) : Row := ⟨none, .structural, .unmarked, source⟩

/-- What a file begins with before a row. -/
inductive Opening where
  | nothing
  | heading
  | body
  deriving DecidableEq, Repr

def Opening.source : Opening → Text
  | .nothing => []
  | .heading => "function f()".toList
  | .body => "function f() \x7b".toList

def Opening.unit : Heading := ⟨.function, "f".toList⟩

/-- Where a scan stands after an opening and one more row. -/
def Opening.phase : Opening → Phase
  | .nothing => .outside
  | .heading => .heading { unit.block with rowCount := 2 }
  | .body => .body { unit.block with rowCount := 2 } 1

/-- A file with a row after an opening, in a block comment or not, and before a row that has the
    columns of `next`; an opening brace stands at its end. -/
def fileAround (opening : Opening) (inComment : Bool) (row next : Row) : List Row :=
  [silentRow opening.source, silentRow (if inComment then "/*".toList else []), row,
    { next with source := [] }, silentRow "*/ \x7b".toList]

/-- The line at the end of a file around a row, which begins a body and says nothing else. -/
structure IsBrace (line : Line) : Prop where
  heading? : line.heading? = none
  braces : line.braces = ⟨1, 0⟩
  saysViewPure : line.saysViewPure = false
  tallies : line.tallies = {}

theorem exists_isBrace (inComment : Bool) :
    ∃ code, (CodeLine.of inComment "*/ \x7b".toList).code = some code ∧
      IsBrace ⟨silentRow "*/ \x7b".toList, some code⟩ := by
  cases inComment with
  | false => exact ⟨"*/ \x7b".toList, by decide, by decide, by decide, by decide, by decide⟩
  | true => exact ⟨"\x7b".toList, by decide, by decide, by decide, by decide, by decide⟩

theorem codeLine_opening (opening : Opening) (inComment : Bool) :
    CodeLine.of (CodeLine.of false opening.source).inComment
      (if inComment then "/*".toList else []) = ⟨none, inComment⟩ := by
  cases opening <;> cases inComment <;> decide

def Opening.lines (opening : Opening) (inComment : Bool) : List Line :=
  [⟨silentRow opening.source, (CodeLine.of false opening.source).code⟩,
    ⟨silentRow (if inComment then "/*".toList else []), none⟩]

theorem linesOf_opening (opening : Opening) (inComment : Bool) (rows : List Row) :
    linesOf false (fillAssemblyHeaders (silentRow opening.source ::
        silentRow (if inComment then "/*".toList else []) :: rows)) =
      opening.lines inComment ++ linesOf inComment (fillAssemblyHeaders rows) := by
  have hheader : isAssemblyHeader (silentRow opening.source) = false := by cases opening <;> decide
  have hcomment : isAssemblyHeader (silentRow (if inComment then "/*".toList else [])) = false := by
    cases inComment <;> decide
  rw [linesOf_fillAssemblyHeaders_cons, linesOf_fillAssemblyHeaders_cons, filledLine, filledLine,
    fillHeader_of_not_isAssemblyHeader hheader, fillHeader_of_not_isAssemblyHeader hcomment]
  simp only [silentRow, codeLine_opening, Opening.lines, List.cons_append, List.nil_append]

theorem runLines_opening (opening : Opening) (inComment : Bool) :
    ({} : State).runLines (opening.lines inComment) = { phase := opening.phase } := by
  cases opening <;> cases inComment <;> decide

theorem outcome_opening {opening : Opening} {inComment : Bool} {line : Line}
    (h : line ∈ opening.lines inComment) : line.outcome = .uncounted := by
  apply outcome_of_structural
  simp only [Opening.lines, List.mem_cons, List.not_mem_nil, or_false] at h
  rcases h with rfl | rfl <;> rfl

/-- What a scan that ends in a state has found, as far as figures go. -/
def State.figures (s : State) : List Figures := (s.blocks ++ s.residue?.toList).map Block.figures

/-- The figures of a file around a row: the row with its outcome is read where the opening left the
    scan, and a row without code and an opening brace after it. -/
theorem figuresOf_fileAround (opening : Opening) (inComment : Bool) (row next : Row) :
    ∃ brace, IsBrace brace ∧
      figuresOf true (fileAround opening inComment row next) =
        ((({ phase := opening.phase } : State).stepLine
          (filledLine inComment row (some next))).stepBlank.stepLine brace).figures := by
  -- the row after it is blank, and fills it with the outcome of `next`
  obtain ⟨code, hcode, hbrace⟩ :=
    exists_isBrace (CodeLine.of inComment row.source).inComment
  have hlast : (silentRow "*/ \x7b".toList).source = "*/ \x7b".toList := rfl
  have hrow : linesOf inComment (fillAssemblyHeaders
        [row, { next with source := [] }, silentRow "*/ \x7b".toList]) =
      [filledLine inComment row (some next), ⟨{ next with source := [] }, none⟩,
        ⟨silentRow "*/ \x7b".toList, some code⟩] := by
    simp only [linesOf_fillAssemblyHeaders_cons, filledLine_blank, codeLine_nil, List.head?_cons]
    rw [filledLine, filledLine, hlast, hcode]
    rfl
  refine ⟨_, hbrace, ?_⟩
  rw [figuresOf, blocksOfRows_eq_runLines, fileAround, linesOf_opening, State.runLines_append,
    runLines_opening, hrow]
  rfl

/-! ## What a file around a row shows of it -/

theorem figures_first_line {block : Block} {line : Line} (htallies : block.tallies = {})
    (hview : block.viewPure = false) :
    ((block.mark [line]).read line).figures = ⟨block.unit, line.tallies, line.saysViewPure⟩ := by
  have hadd : ((block.mark [line]).read line).tallies = block.tallies.add line.outcome := rfl
  have hmark : ((block.mark [line]).read line).viewPure = (block.viewPure || line.saysViewPure) := by
    simp [Block.mark, Block.read, Block.add, Block.skipRow]
  rw [htallies] at hadd
  rw [hview, Bool.false_or] at hmark
  simp only [Block.figures, hadd, hmark, Line.tallies]
  rfl

namespace State

variable {s : State} {block : Block} {line brace : Line} {figures : Figures}

/-- A scan has found one block with these figures, or stands in it. -/
inductive HasOne (s : State) (figures : Figures) : Prop
  | closed (phase : s.phase = .outside) (closed : s.closed.map Block.figures = [figures])
  | heading {block : Block} (phase : s.phase = .heading block) (closed : s.closed = [])
      (figures : block.figures = figures)
  | body {block : Block} {depth : Nat} (phase : s.phase = .body block depth) (isOpen : 0 < depth)
      (closed : s.closed = []) (figures : block.figures = figures)

theorem hasOne_settle {depth : Nat} {braces : Braces} (hclosed : s.closed = []) :
    (s.settle block depth braces).HasOne block.figures := by
  by_cases hends : depth + braces.opens ≤ braces.closes
  · rw [settle_of_le hends]
    have hblock : (s.close block).closed.map Block.figures = [block.figures] := by
      simp [close, hclosed, Block.complete, Block.figures, Block.unit]
    exact .closed rfl hblock
  · have hopen : braces.closes < depth + braces.opens := by omega
    rw [settle_of_lt hopen]
    exact .body rfl (by omega) hclosed rfl

theorem hasOne_declare (hclosed : s.closed = []) (hends : line.endsDeclaration = false) :
    (s.declare block line).HasOne ((block.mark [line]).read line).figures := by
  rw [declare_of_not_endsDeclaration hends]
  split
  · exact hasOne_settle hclosed
  · exact .heading rfl hclosed rfl

theorem settle_residue (s : State) (block : Block) (depth : Nat) (braces : Braces) :
    (s.settle block depth braces).residue = s.residue := by
  simp only [settle, close]
  split <;> rfl

theorem declare_residue (s : State) (block : Block) (line : Line) :
    (s.declare block line).residue = s.residue := by
  simp only [declare]
  split
  · exact settle_residue _ _ _ _
  · split <;> rfl

theorem residue?_of_tallies_eq_empty (h : s.residue.tallies = {}) : s.residue? = none := by
  simp [State.residue?, h, Tallies.counted]

theorem figures_settle {depth : Nat} {braces : Braces} (hclosed : s.closed = [])
    (hresidue : s.residue.tallies = {}) :
    (s.settle block depth braces).figures = [block.figures] := by
  have hnone : (s.settle block depth braces).residue? = none :=
    residue?_of_tallies_eq_empty (by rw [settle_residue, hresidue])
  have hcomplete : block.complete.figures = block.figures := rfl
  simp only [State.figures, hnone]
  by_cases hends : depth + braces.opens ≤ braces.closes
  · simp [settle_of_le hends, close, State.blocks, hclosed, hcomplete]
  · have hopen : braces.closes < depth + braces.opens := by omega
    simp [settle_of_lt hopen, State.blocks, hclosed, hcomplete]

theorem figures_of_outside (hs : s.phase = .outside) (hclosed : s.closed = []) :
    s.figures = if s.residue.tallies.counted = 0 then [] else [s.residue.figures] := by
  have hcomplete : s.residue.complete.figures = s.residue.figures := rfl
  simp only [State.figures, State.blocks, hs, hclosed, State.residue?]
  split <;> simp [hcomplete]

/-- Outside of every block the lines after the row change nothing. -/
theorem figures_finish_of_outside (hs : s.phase = .outside) (hbrace : IsBrace brace) :
    (s.stepBlank.stepLine brace).figures = s.figures := by
  have hblank : s.stepBlank = s := by simp [stepBlank, hs]
  have hresidue : (if brace.isResidue then s.residue.read brace else s.residue).figures =
      s.residue.figures := by
    split
    · exact Block.figures_read_of_tallies_eq_empty hbrace.tallies
    · rfl
  have hsame : { s with residue := if brace.isResidue then s.residue.read brace else s.residue
      }.SameFigures s := ⟨by rw [hs]; exact .outside, hresidue, rfl⟩
  rw [hblank, stepLine_outside hs hbrace.heading?]
  simp only [State.figures, List.map_append, ← Option.toList_map, hsame.blocks, hsame.residue?]

/-- The lines after the row make a block of a heading, and change no figures. -/
theorem figures_finish_of_hasOne (hone : s.HasOne figures) (hresidue : s.residue.tallies = {})
    (hbrace : IsBrace brace) : (s.stepBlank.stepLine brace).figures = [figures] := by
  have hends : brace.endsDeclaration = false := by simp [Line.endsDeclaration, hbrace.braces]
  have hopens : 0 < brace.braces.opens := by simp [hbrace.braces]
  cases hone with
  | closed hphase hclosed =>
    rw [figures_finish_of_outside hphase hbrace]
    simp [State.figures, State.blocks, hphase, hclosed, residue?_of_tallies_eq_empty hresidue]
  | @heading block hphase hclosed hfigures =>
    have hblank : s.stepBlank = { s with phase := .heading block.skipRow } := by
      simp [stepBlank, hphase]
    rw [hblank, stepLine_heading rfl hbrace.heading?, declare_of_not_endsDeclaration hends,
      if_pos hopens, settle_withPhase, figures_settle hclosed hresidue,
      Block.figures_read_of_tallies_eq_empty hbrace.tallies, ← hfigures]
    simp [Block.mark, Block.figures, Block.unit, Block.skipRow, hbrace.saysViewPure]
  | @body block depth hphase isOpen hclosed hfigures =>
    have hblank : s.stepBlank = { s with phase := .body block.skipRow depth } := by
      simp [stepBlank, hphase]
    rw [hblank, stepLine_body rfl isOpen, settle_withPhase, figures_settle hclosed hresidue,
      Block.figures_read_of_tallies_eq_empty hbrace.tallies, ← hfigures]
    rfl

theorem figures_finish_declare (hclosed : s.closed = []) (hresidue : s.residue.tallies = {})
    (htallies : block.tallies = {}) (hview : block.viewPure = false)
    (hends : line.endsDeclaration = false) (hbrace : IsBrace brace) :
    ((s.declare block line).stepBlank.stepLine brace).figures =
      [⟨block.unit, line.tallies, line.saysViewPure⟩] := by
  rw [← figures_first_line htallies hview]
  refine figures_finish_of_hasOne (hasOne_declare hclosed hends) ?_ hbrace
  rw [declare_residue, hresidue]

end State

/-- What a file around a row shows of the row's effect. -/
def Effect.figuresAround (effect : Effect) : Opening → List Figures
  | .body => [⟨Opening.unit, effect.tallies, false⟩]
  | .heading =>
    if effect.endsDeclaration then []
    else [⟨effect.unit.getD Opening.unit, effect.tallies, effect.viewPure⟩]
  | .nothing =>
    match effect.unit with
    | some unit => [⟨unit, effect.tallies, effect.viewPure⟩]
    | none =>
      if effect.residue.counted = 0 then [] else [⟨Block.outside.unit, effect.residue, false⟩]

theorem Effect.viewPure_of_not_endsDeclaration {line : Line} (h : line.endsDeclaration = false) :
    line.effect.viewPure = line.saysViewPure := by
  simp [Line.effect, h]

theorem Effect.not_endsDeclaration_of_unit {line : Line} {unit : Heading}
    (h : line.effect.unit = some unit) : line.endsDeclaration = false := by
  cases hends : line.endsDeclaration with
  | true => simp [Line.effect, hends] at h
  | false => rfl

variable {line brace : Line}

theorem figuresAround_body (hbrace : IsBrace brace) :
    ((({ phase := Opening.body.phase } : State).stepLine line).stepBlank.stepLine brace).figures =
      line.effect.figuresAround .body := by
  have hstep : ({ phase := Opening.body.phase } : State).stepLine line = _ :=
    State.stepLine_body rfl Nat.one_pos
  have hempty : Block.outside.tallies = {} := rfl
  rw [hstep]
  refine (State.figures_finish_of_hasOne (State.hasOne_settle rfl) ?_ hbrace).trans rfl
  rw [State.settle_residue, hempty]

theorem figuresAround_heading (hbrace : IsBrace brace) :
    ((({ phase := Opening.heading.phase } : State).stepLine line).stepBlank.stepLine brace).figures =
      line.effect.figuresAround .heading := by
  cases hends : line.endsDeclaration with
  | true =>
    have hunit : line.effect.unit = none := by simp [Line.effect, hends]
    have hstep : ({ phase := Opening.heading.phase } : State).stepLine line = _ :=
      State.stepLine_heading_of_unit rfl hunit
    have heffect : line.effect.endsDeclaration = true := hends
    rw [hstep, State.declare_of_endsDeclaration hends, State.figures_finish_of_outside rfl hbrace,
      Effect.figuresAround, if_pos heffect]
    rfl
  | false =>
    have heffect : ¬ line.effect.endsDeclaration = true := by simp [Line.effect, hends]
    rw [Effect.figuresAround, if_neg heffect, Effect.viewPure_of_not_endsDeclaration hends]
    cases hunit : line.effect.unit with
    | none =>
      have hstep : ({ phase := Opening.heading.phase } : State).stepLine line = _ :=
        State.stepLine_heading_of_unit rfl hunit
      rw [hstep, State.figures_finish_declare rfl rfl rfl rfl hends hbrace]
      rfl
    | some unit =>
      have hstep : ({ phase := Opening.heading.phase } : State).stepLine line = _ :=
        State.stepLine_start (by simp [Opening.phase]) (State.heading?_of_effect hunit)
      rw [hstep, State.figures_finish_declare rfl rfl rfl rfl hends hbrace]
      rfl

theorem figuresAround_nothing (hbrace : IsBrace brace) :
    ((({ phase := Opening.nothing.phase } : State).stepLine line).stepBlank.stepLine brace).figures =
      line.effect.figuresAround .nothing := by
  cases hunit : line.effect.unit with
  | none =>
    have hstep : ({ phase := Opening.nothing.phase } : State).stepLine line = _ :=
      State.stepLine_outside_of_unit rfl hunit
    have hresidue : (if line.heading? = none ∧ line.isResidue then Block.outside.read line
        else Block.outside).figures = ⟨Block.outside.unit, line.effect.residue, false⟩ := by
      simp only [Line.effect]
      split <;> rfl
    have htallies := congrArg Figures.tallies hresidue
    simp only [Block.figures] at htallies
    rw [hstep, State.figures_finish_of_outside rfl hbrace, State.figures_of_outside rfl rfl,
      hresidue, htallies, Effect.figuresAround, hunit]
  | some unit =>
    have hends := Effect.not_endsDeclaration_of_unit hunit
    have hstep : ({ phase := Opening.nothing.phase } : State).stepLine line = _ :=
      State.stepLine_start (by simp [Opening.phase]) (State.heading?_of_effect hunit)
    rw [hstep, State.figures_finish_declare rfl rfl rfl rfl hends hbrace, Effect.figuresAround,
      hunit, Effect.viewPure_of_not_endsDeclaration hends]
    rfl

theorem figuresOf_fileAround_eq (opening : Opening) (inComment : Bool) (row next : Row) :
    figuresOf true (fileAround opening inComment row next) =
      (filledLine inComment row (some next)).effect.figuresAround opening := by
  obtain ⟨brace, hbrace, hfigures⟩ := figuresOf_fileAround opening inComment row next
  rw [hfigures]
  cases opening with
  | nothing => exact figuresAround_nothing hbrace
  | heading => exact figuresAround_heading hbrace
  | body => exact figuresAround_body hbrace

/-! ## A file with a row in a body -/

theorem State.figures_stepBlank (s : State) : s.stepBlank.figures = s.figures := by
  cases s with
  | mk phase inComment residue closed =>
    cases phase with
    | outside => rfl
    | heading block => rfl
    | body block depth =>
      have hcomplete : block.skipRow.complete.figures = block.complete.figures := rfl
      simp only [stepBlank, State.figures, State.blocks, List.map_append, List.map_cons, hcomplete]
      rfl

/-- A row in the body of a function, which begins in a block comment or not, and a row after it that has
    the columns of `next`. -/
def fileInBody (inComment : Bool) (row next : Row) : List Row :=
  [silentRow Opening.body.source, silentRow (if inComment then "/*".toList else []), row,
    { next with source := [] }]

theorem linesOf_fileInBody (inComment : Bool) (row next : Row) :
    linesOf false (fillAssemblyHeaders (fileInBody inComment row next)) =
      Opening.body.lines inComment ++
        [filledLine inComment row (some next), ⟨{ next with source := [] }, none⟩] := by
  rw [fileInBody, linesOf_opening]
  simp only [linesOf_fillAssemblyHeaders_cons, filledLine_blank, List.head?_cons]
  rfl

/-- The figures of the file show what the row counts for. -/
theorem figuresOf_fileInBody (inComment : Bool) (row next : Row) :
    figuresOf true (fileInBody inComment row next) =
      [⟨Opening.unit, (filledLine inComment row (some next)).tallies, false⟩] := by
  have hstep : ({ phase := Opening.body.phase } : State).stepLine (filledLine inComment row (some next)) = _ :=
    State.stepLine_body rfl Nat.one_pos
  rw [figuresOf, blocksOfRows_eq_runLines, linesOf_fileInBody, State.runLines_append, runLines_opening,
    State.runLines_cons, hstep]
  show (State.stepBlank _).figures = _
  rw [State.figures_stepBlank, State.figures_settle rfl rfl]
  rfl

/-! ## What is shown is all of the effect -/

theorem kind_ne_contractLevel {code : Text} {unit : Heading} (h : Heading.of? code = some unit) :
    unit.kind ≠ .contractLevel := by
  simp only [Heading.of?] at h
  split at h
  · cases h; simp
  split at h
  · cases h; simp [Heading.unnamed]
  split at h
  · cases h; simp
  split at h
  · cases h; simp [Heading.unnamed]
  split at h
  · cases h; simp [Heading.unnamed]
  · cases h

theorem Effect.unit_ne_outside {unit : Heading} (h : line.effect.unit = some unit) :
    unit ≠ Block.outside.unit := by
  rintro rfl
  obtain ⟨code, -, hcode⟩ := Option.bind_eq_some_iff.1 (State.heading?_of_effect h)
  exact kind_ne_contractLevel hcode rfl

theorem Effect.residue_of_counted (h : line.effect.residue.counted = 0) :
    line.effect.residue = {} := by
  simp only [Line.effect, Line.tallies] at h ⊢
  split at h
  · cases houtcome : line.outcome <;> simp_all [Tallies.add, Tallies.counted]
  · simp_all

theorem Effect.residue_of_unit {unit : Heading} (h : line.effect.unit = some unit) :
    line.effect.residue = {} := by
  have hheading := State.heading?_of_effect h
  simp [Line.effect, hheading]

theorem Effect.figuresAround_nothing_ne {line' : Line} {unit : Heading}
    (h : line.effect.unit = some unit) (h' : line'.effect.unit = none) :
    line.effect.figuresAround .nothing ≠ line'.effect.figuresAround .nothing := by
  intro heq
  simp only [Effect.figuresAround, h, h'] at heq
  split at heq
  · cases heq
  · simp only [List.cons.injEq, Figures.mk.injEq] at heq
    exact Effect.unit_ne_outside h heq.1.1

theorem Effect.unit_eq_and_residue_eq {line' : Line}
    (h : line.effect.figuresAround .nothing = line'.effect.figuresAround .nothing) :
    line.effect.unit = line'.effect.unit ∧ line.effect.residue = line'.effect.residue := by
  cases hunit : line.effect.unit with
  | some unit =>
    cases hunit' : line'.effect.unit with
    | some unit' =>
      simp only [Effect.figuresAround, hunit, hunit', List.cons.injEq, Figures.mk.injEq] at h
      rw [h.1.1, Effect.residue_of_unit hunit, Effect.residue_of_unit hunit']
      exact ⟨rfl, rfl⟩
    | none => exact absurd h (Effect.figuresAround_nothing_ne hunit hunit')
  | none =>
    cases hunit' : line'.effect.unit with
    | some unit' => exact absurd h.symm (Effect.figuresAround_nothing_ne hunit' hunit)
    | none =>
      -- no residue is shown where nothing of it counted
      refine ⟨rfl, ?_⟩
      simp only [Effect.figuresAround, hunit, hunit'] at h
      split at h <;> split at h
      · rw [Effect.residue_of_counted ‹_›, Effect.residue_of_counted ‹_›]
      · cases h
      · cases h
      · simp only [List.cons.injEq, Figures.mk.injEq] at h
        exact h.1.2.1

theorem Effect.endsDeclaration_eq_and_viewPure_eq {line' : Line}
    (h : line.effect.figuresAround .heading = line'.effect.figuresAround .heading) :
    line.effect.endsDeclaration = line'.effect.endsDeclaration ∧
      line.effect.viewPure = line'.effect.viewPure := by
  simp only [Effect.figuresAround] at h
  cases hends : line.effect.endsDeclaration with
  | true =>
    cases hends' : line'.effect.endsDeclaration with
    | true =>
      have hline : line.endsDeclaration := hends
      have hline' : line'.endsDeclaration := hends'
      exact ⟨rfl, by simp [Line.effect, hline, hline']⟩
    | false => simp [hends, hends'] at h
  | false =>
    cases hends' : line'.effect.endsDeclaration with
    | true => simp [hends, hends'] at h
    | false =>
      simp only [hends, hends', Bool.false_eq_true, if_false, List.cons.injEq,
        Figures.mk.injEq] at h
      exact ⟨rfl, h.1.2.2⟩

/-- Lines with the same braces that the files around them do not tell apart have the same effect. -/
theorem effect_eq_of_figuresAround {line' : Line} (hbraces : line.braces = line'.braces)
    (h : ∀ opening, line.effect.figuresAround opening = line'.effect.figuresAround opening) :
    line.effect = line'.effect := by
  obtain ⟨hunit, hresidue⟩ := Effect.unit_eq_and_residue_eq (h .nothing)
  obtain ⟨hends, hview⟩ := Effect.endsDeclaration_eq_and_viewPure_eq (h .heading)
  have hbody := h .body
  simp only [Effect.figuresAround, List.cons.injEq, Figures.mk.injEq, and_true, true_and] at hbody
  exact Effect.ext hbody hresidue hbraces hends hunit hview

end FuzzCoverage.Scan
