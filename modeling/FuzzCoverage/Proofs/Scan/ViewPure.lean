import FuzzCoverage.Proofs.Scan.Division
import FuzzCoverage.Proofs.Solidity.Extent
import FuzzCoverage.Proofs.Solidity.StringMask
import FuzzCoverage.Scan.File

/-! # Whether a unit changes the state

A unit says in its signature that it does not change the state.  A scan looks for the words on the rows
up to the one with the first opening brace, and on all of these rows: before the heading, behind the
body's brace and inside of string literals too.  Where that brace is one of the signature's own, the
signature goes on behind these rows, and the scan does not look there.

* `signatureText` is the signature: the code from where the unit begins up to the body's brace;
* `viewPure_definitionBlock`, `mentionsViewPure_signatureText` — what the scan says, and what the
  signature says, are what the rows of the heading hold of the signature, each with something more;
* `viewPure_eq_mentionsViewPure_iff` — so the two agree on a block unless its rows say the words
  elsewhere only, or its signature says them behind its rows only. -/

namespace FuzzCoverage.Scan

open Solidity Text Trace

/-! ## The signature of a unit -/

/-- The code of lines, or a part of the code of each, with an end after each line. -/
def linesText (view : Text → Text) (lines : List Line) : Text :=
  lines.flatMap fun line => view (line.code.getD []) ++ ['\n']

/-- Where the unit begins that is found on the first line. -/
def unitStart (lines : List Line) : Nat := Heading.start ((lines.head?.bind Line.code).getD [])

/-- The code before the unit that is found on the first line, without the contents of strings. -/
def leadText (lines : List Line) : Text := (linesText outsideStrings lines).take (unitStart lines)

/-- The code from that unit on. -/
def unitText (lines : List Line) : Text := (linesText outsideStrings lines).drop (unitStart lines)

/-- The signature of that unit: its code up to the brace of its body. -/
def signatureText (lines : List Line) : Text := beforeBody 0 (unitText lines)

/-- The code from that brace on. -/
def bodyText (lines : List Line) : Text := (unitText lines).drop (signatureText lines).length

/-- Whether a text says that a unit does not change the state. -/
def mentionsViewPure (t : Text) : Bool := t.mentions viewPureWords

/-- Whether the rows of a heading say so anywhere but in the signature. -/
def mentionsElsewhere (heading : List Line) : Bool :=
  mentionsViewPure (leadText heading) || mentionsViewPure (bodyText heading) ||
    mentionsViewPure (linesText insideStrings heading)

/-- Whether the signature says so behind the rows of the heading. -/
def mentionsLater (heading rest : List Line) : Bool :=
  mentionsViewPure ((signatureText (heading ++ rest)).drop (signatureText heading).length)

/-! ## What the rows of a heading hold -/

theorem linesText_append (view : Text → Text) (first rest : List Line) :
    linesText view (first ++ rest) = linesText view first ++ linesText view rest :=
  List.flatMap_append

theorem getLast?_linesText (view : Text → Text) {lines : List Line} (h : lines ≠ []) :
    (linesText view lines).getLast? = some '\n' := by
  rw [← List.dropLast_append_getLast h, linesText_append]
  simp [linesText]

theorem mentions_linesText (names : List Text) (view : Text → Text) (lines : List Line) :
    mentions names (linesText view lines) =
      lines.any fun line => mentions names (view (line.code.getD [])) := by
  induction lines with
  | nil => rfl
  | cons line lines ih =>
    have hend : isWord '\n' = false := by decide
    rw [List.any_cons, ← ih, mentions, linesText, List.flatMap_cons, List.append_assoc,
      List.singleton_append, words_append_cons _ _ hend, List.any_append]
    rfl

theorem mentionsViewPure_append {t u : Text}
    (h : (∀ c ∈ t.getLast?, isWord c = false) ∨ ∀ c ∈ u.head?, isWord c = false) :
    mentionsViewPure (t ++ u) = (mentionsViewPure t || mentionsViewPure u) := mentions_append h

theorem any_saysViewPure (lines : List Line) :
    lines.any Line.saysViewPure =
      (mentionsViewPure (linesText outsideStrings lines) ||
        mentionsViewPure (linesText insideStrings lines)) := by
  have hline : ∀ line : Line, line.saysViewPure = mentions viewPureWords (line.code.getD []) := by
    intro line
    cases hcode : line.code <;> simp [Line.saysViewPure, hcode, mentions]
  rw [mentionsViewPure, mentionsViewPure, mentions_linesText, mentions_linesText, Bool.eq_iff_iff]
  simp only [List.any_eq_true, hline, mentions_eq_or _ (Option.getD _ _), Bool.or_eq_true, and_or_left,
    exists_or]

theorem unitStart_append {heading : List Line} (h : heading ≠ []) (rest : List Line) :
    unitStart (heading ++ rest) = unitStart heading := by
  rw [unitStart, List.head?_append_of_ne_nil _ h, unitStart]

theorem unitStart_lt {lines : List Line} (h : lines ≠ []) :
    unitStart lines < (linesText outsideStrings lines).length := by
  cases lines with
  | nil => exact absurd rfl h
  | cons line lines =>
    have hstart := Heading.start_le (line.code.getD [])
    simp only [linesText, List.flatMap_cons, List.length_append, length_outsideStrings]
    simp only [unitStart, List.head?_cons, Option.bind_some, List.length_singleton]
    omega

theorem getLast?_take_succ {t : Text} {n : Nat} (h : n < t.length) :
    (t.take (n + 1)).getLast? = t[n]? := by
  rw [List.getLast?_take, if_neg (Nat.succ_ne_zero n), Nat.add_sub_cancel, List.getElem?_eq_getElem h]
  rfl

theorem not_isWord_getLast?_leadText (lines : List Line) :
    ∀ c ∈ (leadText lines).getLast?, isWord c = false := by
  cases lines with
  | nil => simp [leadText, linesText]
  | cons line lines =>
    have hstart := Heading.start_le (line.code.getD [])
    have hbefore := Heading.not_isWord_before_start (line.code.getD [])
    have hlength := length_outsideStrings (line.code.getD [])
    rw [leadText, unitStart, List.head?_cons, Option.bind_some, linesText, List.flatMap_cons,
      List.append_assoc, List.take_append_of_le_length (hlength ▸ hstart)]
    cases hn : Heading.start (line.code.getD []) with
    | zero => simp
    | succ n =>
      -- a character of a word would be one of the code at the same place
      rw [hn] at hstart hbefore
      rw [getLast?_take_succ hstart] at hbefore
      rw [getLast?_take_succ (hlength ▸ hstart)]
      intro c hc
      refine Bool.eq_false_iff.2 fun hword => ?_
      exact absurd hword (Bool.eq_false_iff.1 (hbefore c (getElem?_of_masked hc hword)))

theorem not_isWord_head?_bodyText (lines : List Line) :
    ∀ c ∈ (bodyText lines).head?, isWord c = false := by
  intro c hc
  rw [head?_drop_beforeBody 0 (unitText lines) c hc]
  decide

theorem mentionsViewPure_outsideStrings (lines : List Line) :
    mentionsViewPure (linesText outsideStrings lines) =
      (mentionsViewPure (leadText lines) || mentionsViewPure (signatureText lines) ||
        mentionsViewPure (bodyText lines)) := by
  have hunit : signatureText lines ++ bodyText lines = unitText lines := by
    obtain ⟨body, hbody⟩ := beforeBody_prefix 0 (unitText lines)
    rw [bodyText, ← hbody, signatureText, List.drop_left]
  have hlines : leadText lines ++ unitText lines = linesText outsideStrings lines :=
    List.take_append_drop _ _
  rw [← hlines, mentionsViewPure_append (Or.inl (not_isWord_getLast?_leadText lines)), ← hunit,
    mentionsViewPure_append (Or.inr (not_isWord_head?_bodyText lines)), Bool.or_assoc]

theorem unitText_append {heading : List Line} (h : heading ≠ []) (rest : List Line) :
    unitText (heading ++ rest) = unitText heading ++ linesText outsideStrings rest := by
  rw [unitText, unitStart_append h, linesText_append,
    List.drop_append_of_le_length (unitStart_lt h).le, unitText]

theorem mentionsViewPure_signatureText {heading : List Line} (h : heading ≠ []) (rest : List Line) :
    mentionsViewPure (signatureText (heading ++ rest)) =
      (mentionsViewPure (signatureText heading) || mentionsLater heading rest) := by
  have hsignature : signatureText (heading ++ rest) =
      beforeBody 0 (unitText heading ++ linesText outsideStrings rest) := by
    rw [signatureText, unitText_append h]
  rw [mentionsLater]
  rcases beforeBody_append 0 (unitText heading) (linesText outsideStrings rest) with
    hends | ⟨hall, later, hlater⟩
  · rw [hsignature, hends, ← signatureText, List.drop_length]
    simp [mentionsViewPure, mentions]
  · -- the signature takes all of the rows, and no word goes on after the last of them
    have hend : ∀ c ∈ (unitText heading).getLast?, isWord c = false := by
      rw [unitText, List.getLast?_drop, if_neg (Nat.not_le.2 (unitStart_lt h)),
        getLast?_linesText outsideStrings h]
      rintro c ⟨⟩
      decide
    have hrows : signatureText heading = unitText heading := hall
    rw [hsignature, ← hlater, hrows, List.drop_left, mentionsViewPure_append (Or.inl hend)]

/-! ## What a scan finds -/

theorem readAll_viewPure (b : Block) (lines : List Line) :
    (b.readAll lines).viewPure = b.viewPure := by
  induction lines generalizing b with
  | nil => rfl
  | cons line lines ih => exact ih (b.read line)

theorem viewPure_definitionBlock (unit : Heading) (heading : List Line) (brace : Line)
    (body : List Line) :
    (definitionBlock unit heading brace body).complete.viewPure =
      (mentionsViewPure (signatureText (heading ++ [brace])) ||
        mentionsElsewhere (heading ++ [brace])) := by
  have hmarked : (definitionBlock unit heading brace body).complete.viewPure =
      (heading ++ [brace]).any Line.saysViewPure := by
    rw [definitionBlock, Block.complete, readAll_viewPure]
    simp [Block.mark, Heading.block]
  rw [hmarked, any_saysViewPure, mentionsViewPure_outsideStrings, mentionsElsewhere]
  ac_rfl

theorem mem_withoutViewPure {blocks : List Block} {block : Block} (h : block ∈ blocks)
    (allFunctions : Bool) :
    block ∈ withoutViewPure allFunctions blocks ↔
      allFunctions ∨ (∀ other ∈ blocks, other.viewPure) ∨ block.viewPure = false := by
  unfold withoutViewPure
  split
  · next hall =>
    rw [Bool.or_eq_true, List.all_eq_true] at hall
    exact ⟨fun _ => hall.imp_right Or.inl, fun _ => h⟩
  · next hsome =>
    rw [Bool.or_eq_true, List.all_eq_true, not_or] at hsome
    simp [h, hsome]

/-- **When a block is told by its signature.**  In every file, what a scan says of a block is what its
    signature says, up to the brace of its body and over however many rows, exactly when the part of
    the signature on the rows of the heading says it, or else these rows say it elsewhere if and only if
    the rest of the signature says it.  A block whose signature does not say it stays in the report,
    where another block changes the state, exactly when these rows do not say it elsewhere. -/
theorem viewPure_eq_mentionsViewPure_iff (rows : List Row) :
    ∃ parts, Divides (linesOf false rows) parts ∧
      (({} : State).run rows).blocks = parts.filterMap Part.block? ∧
      ∀ before unit heading brace body later,
        parts = before ++ .definition unit heading brace body :: later →
        let block := (definitionBlock unit heading brace body).complete
        let first := heading ++ [brace]
        let rest := body ++ later.flatMap Part.lines
        (block.viewPure = mentionsViewPure (signatureText (first ++ rest)) ↔
            mentionsViewPure (signatureText first) ∨
              mentionsElsewhere first = mentionsLater first rest) ∧
          (mentionsViewPure (signatureText (first ++ rest)) = false → ∀ allFunctions,
            (block ∈ withoutViewPure allFunctions (({} : State).run rows).blocks ↔
              allFunctions ∨ (∀ other ∈ (({} : State).run rows).blocks, other.viewPure) ∨
                mentionsElsewhere first = false)) := by
  obtain ⟨parts, hparts⟩ := exists_divides (linesOf false rows)
  have hblocks := (State.run_of_divides hparts).1
  refine ⟨parts, hparts, hblocks, ?_⟩
  intro before unit heading brace body later heq block first rest
  have hflag : block.viewPure = (mentionsViewPure (signatureText first) || mentionsElsewhere first) :=
    viewPure_definitionBlock unit heading brace body
  have hsignature : mentionsViewPure (signatureText (first ++ rest)) =
      (mentionsViewPure (signatureText first) || mentionsLater first rest) :=
    mentionsViewPure_signatureText (by simp [first]) rest
  -- both are what the signature says on these rows, or something more
  constructor
  · rw [hflag, hsignature]
    cases mentionsViewPure (signatureText first) <;> simp
  · intro hnone allFunctions
    rw [hsignature, Bool.or_eq_false_iff] at hnone
    have hmem : block ∈ (({} : State).run rows).blocks := by
      rw [hblocks, heq]
      simp [Part.block?, block]
    rw [mem_withoutViewPure hmem, hflag, hnone.1, Bool.false_or]

/-- Two functions on a row each, one of which logs a word. -/
def loggingRows : List Row :=
  ["function f() public \x7b emit Log(\"view\"); \x7d", "function g() public \x7b x = 1; \x7d"].map
    fun source => ⟨none, .hits 1, .covered, source.toList⟩

/-- The word in the string takes the first function out of the report. -/
theorem viewPure_loggingRows :
    (({} : State).run loggingRows).blocks.map (fun block => (block.unit.name, block.viewPure)) =
        [("f".toList, true), ("g".toList, false)] ∧
      signatureText (linesOf false loggingRows) = "function f() public ".toList ∧
      mentionsViewPure "function f() public ".toList = false ∧
      (withoutViewPure false (({} : State).run loggingRows).blocks).map (·.unit.name) =
        ["g".toList] := by
  refine ⟨?_, ?_, ?_, ?_⟩ <;> decide

end FuzzCoverage.Scan
