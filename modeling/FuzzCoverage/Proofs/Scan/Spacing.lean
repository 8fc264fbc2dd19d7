import FuzzCoverage.Proofs.Scan.Unreached
import FuzzCoverage.Proofs.Solidity.CloseUpTests
import FuzzCoverage.Proofs.Solidity.DeclarationEnd

/-! # Spacing

Rows of the same tokens say the same, however they are spaced, and most of the tests on rows see it that
way: they give the answer that they give for the closed-up row.  Three do not.  Rows of punctuation are
compared as they stand, a debugging call has no blanks in its name, and a declaration has a blank between
its type and the words after it (`classifiedAlike_iff`). -/

namespace FuzzCoverage.Solidity

open Text

variable {code code' : Text}

/-- Whether a text is code as a row gives it: without comments, and without blanks at its ends. -/
def IsCode (code : Text) : Prop := CodeLine.of false code = ⟨some code, false⟩

instance (code : Text) : Decidable (IsCode code) := inferInstanceAs (Decidable (_ = _))

/-- Whether two rows get the same answers from all tests on rows. -/
structure ClassifiedAlike (code code' : Text) : Prop where
  loneBrace : isLoneBrace code = isLoneBrace code'
  untouched : mayBeUntouched code = mayBeUntouched code'
  logical : isLogical code = isLogical code'
  heading : Heading.of? code = Heading.of? code'

instance (code code' : Text) : Decidable (ClassifiedAlike code code') :=
  decidable_of_iff (isLoneBrace code = isLoneBrace code' ∧ mayBeUntouched code = mayBeUntouched code' ∧
      isLogical code = isLogical code' ∧ Heading.of? code = Heading.of? code')
    ⟨fun ⟨loneBrace, untouched, logical, heading⟩ => ⟨loneBrace, untouched, logical, heading⟩,
      fun h => ⟨h.loneBrace, h.untouched, h.logical, h.heading⟩⟩

/-- Whether a row is set aside as it stands: as one of punctuation or a debugging call. -/
def isSetAside (code : Text) : Bool := punctuationLines.contains code || isDebugPrint code

/-- Whether the beginning of a row or its attributes show that it does nothing. -/
def isIdle (code : Text) : Bool :=
  "import".toList.isPrefixOf code || "pragma".toList.isPrefixOf code || isDefinitionHeader code ||
    isAttributesOnly code

/-- The rows of punctuation that consist of one token. -/
def loneSymbols : Text := "\x7b\x7d()".toList

/-- The rows of punctuation that consist of several tokens, closed up. -/
def closedUpPunctuation : List Text := [");", "\x7d);", "\x7delse\x7b"].map String.toList

/-- Whether a row that is closed up may get other answers when it is spaced in another way. -/
def dependsOnSpacing (t : Text) : Bool :=
  closedUpPunctuation.contains t || isDebugPrint t || endsInName t

/-! ## Tests that do not depend on spacing -/

namespace IsCode

theorem code_eq (h : IsCode code) : (CodeLine.of false code).code = some code := by rw [h]

theorem anchored (h : IsCode code) : Anchored code := by
  rw [← CodeLine.trim_code h.code_eq, ← trimStart_trim]
  exact anchored_trimStart _

theorem endsAnchored (h : IsCode code) : EndsAnchored code := by
  intro c hc
  rw [← CodeLine.trim_code h.code_eq, trim, trimEnd, List.getLast?_reverse] at hc
  exact isBlank_head?_trimStart (Option.mem_def.1 hc)

theorem isLoneBrace_iff (h : IsCode code) : isLoneBrace code ↔ closeUp .other code = ['\x7d'] := by
  rw [isLoneBrace, CodeLine.trim_code h.code_eq, decide_eq_true_iff,
    closeUp_eq_singleton_iff (by decide) h.anchored h.endsAnchored]

theorem isScaffolding_closeUp (h : IsCode code) :
    isScaffolding (closeUp .other code) = isScaffolding code := by
  have hstar : "*".toList.isPrefixOf (closeUp .other code) = "*".toList.isPrefixOf code := by
    rw [Bool.eq_iff_iff, CodeLine.isPrefixOf_star_iff, CodeLine.isPrefixOf_star_iff,
      head?_closeUp h.anchored]
  rw [isScaffolding, isScaffolding, isPrefixOf_closeUp (by decide) (by decide) h.anchored, hstar,
    isSignatureTail_closeUp h.anchored h.endsAnchored, mentions_closeUp]

theorem isIdle_closeUp (h : IsCode code) : isIdle (closeUp .other code) = isIdle code := by
  rw [isIdle, isIdle, isPrefixOf_closeUp (by decide) (by decide) h.anchored,
    isPrefixOf_closeUp (by decide) (by decide) h.anchored, isDefinitionHeader_closeUp h.anchored,
    isAttributesOnly_closeUp h.anchored h.endsAnchored]

/-! ## The answers, by the tests -/

theorem mayBeUntouched_eq (h : IsCode code) :
    mayBeUntouched code = !(isScaffolding code || isSetAside code) := by
  by_cases hpunctuation : code ∈ punctuationLines
  · simp [mayBeUntouched, CodeLine.trim_code h.code_eq, isSetAside, hpunctuation]
  · rw [Solidity.mayBeUntouched_eq h.code_eq hpunctuation, isSetAside]
    simp [hpunctuation]

theorem isLogical_eq (h : IsCode code) :
    isLogical code =
      !(isScaffolding code || isIdle code || (isSetAside code || isBareDeclaration code)) := by
  rw [isLogical, CodeLine.trim_code h.code_eq, h.mayBeUntouched_eq, isIdle]
  simp only [Bool.not_or, Bool.and_assoc, Bool.and_comm, Bool.and_left_comm]

/-! ## Tests that depend on spacing -/

/-- The beginnings of debugging calls. -/
def consoles : List Text := ["console.log", "console2.log"].map String.toList

theorem exists_console_of_isDebugPrint (h : isDebugPrint code) :
    ∃ console ∈ consoles, ∃ rest, code = console ++ rest ∧
      rest.afterWord.trimStart.head? = some '(' := by
  obtain ⟨rest, hrest, hopen⟩ := (Option.any_eq_true _ _).1 h
  rw [decide_eq_true_iff] at hopen
  obtain ⟨after, hafter, hlog⟩ := Option.bind_eq_some_iff.1 hrest
  rw [afterConsole?] at hafter
  split at hafter
  · next second hsecond =>
    obtain rfl : second = after := Option.some.inj hafter
    refine ⟨"console2.log".toList, by decide, rest, ?_, hopen⟩
    rw [← append_of_after? hsecond, ← append_of_after? hlog]
    rfl
  · refine ⟨"console.log".toList, by decide, rest, ?_, hopen⟩
    rw [← append_of_after? hafter, ← append_of_after? hlog]
    rfl

theorem isDebugPrint_append {console : Text} (hconsole : console ∈ consoles) (rest : Text) :
    isDebugPrint (console ++ rest) = decide (rest.afterWord.trimStart.head? = some '(') := by
  simp only [consoles, List.map_cons, List.map_nil, List.mem_cons, List.not_mem_nil, or_false] at hconsole
  rcases hconsole with rfl | rfl <;> rfl

theorem isDebugPrint_closeUp (h : isDebugPrint code) : isDebugPrint (closeUp .other code) := by
  have hconsoles : ∀ console ∈ consoles,
      closeUp .other console = console ∧ console.foldl Behind.next .other = .word := by decide
  obtain ⟨console, hconsole, rest, rfl, hopen⟩ := exists_console_of_isDebugPrint h
  obtain ⟨hsame, hword⟩ := hconsoles console hconsole
  rw [closeUp_append, hsame, hword, isDebugPrint_append hconsole, afterWord_closeUp_word, trimStart_closeUp,
    head?_closeUp (anchored_trimStart _), hopen]
  rfl

/-- What is left to be set aside are single symbols. -/
theorem isSetAside_eq (h : IsCode code) (hspacing : dependsOnSpacing (closeUp .other code) = false) :
    isSetAside code = loneSymbols.any fun c => closeUp .other code = [c] := by
  have hsymbols : loneSymbols.all fun c => !Heading.inIdentifier c && punctuationLines.contains [c] := by
    decide
  have hlines : ∀ line ∈ punctuationLines,
      closeUp .other line ∈ closedUpPunctuation ∨ loneSymbols.any fun c => closeUp .other line = [c] := by
    decide
  simp only [dependsOnSpacing, Bool.or_eq_false_iff, List.contains_eq_mem,
    decide_eq_false_iff_not] at hspacing
  have hprint : isDebugPrint code = false := by
    refine Bool.eq_false_iff.2 fun hprint => ?_
    rw [isDebugPrint_closeUp hprint] at hspacing
    exact Bool.false_ne_true hspacing.1.2.symm
  rw [isSetAside, hprint, Bool.or_false, Bool.eq_iff_iff, List.contains_iff_mem]
  constructor
  · intro hmem
    exact (hlines code hmem).resolve_left hspacing.1.1
  · intro hany
    obtain ⟨c, hc, hclose⟩ := List.any_eq_true.1 hany
    have hsymbol := List.all_eq_true.1 hsymbols c hc
    rw [Bool.and_eq_true, Bool.not_eq_true', List.contains_iff_mem] at hsymbol
    rw [decide_eq_true_iff, closeUp_eq_singleton_iff hsymbol.1 h.anchored h.endsAnchored] at hclose
    exact hclose ▸ hsymbol.2

theorem not_isBareDeclaration (h : IsCode code)
    (hspacing : dependsOnSpacing (closeUp .other code) = false) : isBareDeclaration code = false := by
  simp only [dependsOnSpacing, Bool.or_eq_false_iff] at hspacing
  refine Bool.eq_false_iff.2 fun hbare => ?_
  rw [endsInName_of_isBareDeclaration h.anchored hbare] at hspacing
  exact Bool.false_ne_true hspacing.2.symm

end IsCode

/-- **Where spacing matters.**  Two rows of code that are made of the same tokens are both lone braces or
    neither, and begin the same unit or none.  All tests agree on them exactly if the rows are
    scaffolding, or both are set aside or neither and, unless they are or do nothing by their beginning,
    both are declarations without a value or neither.  So they agree however the rows are spaced if these,
    closed up, are none of the longer rows of punctuation and no debugging call, and do not end in a name
    as a declaration does. -/
theorem classifiedAlike_iff (hcode : IsCode code) (hcode' : IsCode code')
    (htokens : tokens none code = tokens none code') :
    isLoneBrace code = isLoneBrace code' ∧ Heading.of? code = Heading.of? code' ∧
      (ClassifiedAlike code code' ↔
        isScaffolding code ∨ isSetAside code = isSetAside code' ∧
          (isIdle code ∨ isSetAside code ∨ isBareDeclaration code = isBareDeclaration code')) ∧
      (dependsOnSpacing (closeUp .other code) = false → ClassifiedAlike code code') := by
  have hclose : closeUp .other code = closeUp .other code' := closeUp_eq_of_tokens_eq htokens
  have hbrace : isLoneBrace code = isLoneBrace code' := by
    rw [Bool.eq_iff_iff, hcode.isLoneBrace_iff, hcode'.isLoneBrace_iff, hclose]
  have hheading : Heading.of? code = Heading.of? code' := by
    rw [← Heading.of?_closeUp hcode.anchored, hclose, Heading.of?_closeUp hcode'.anchored]
  have hscaffolding : isScaffolding code = isScaffolding code' := by
    rw [← hcode.isScaffolding_closeUp, hclose, hcode'.isScaffolding_closeUp]
  have hidle : isIdle code = isIdle code' := by
    rw [← hcode.isIdle_closeUp, hclose, hcode'.isIdle_closeUp]
  -- both answers are made of the same tests
  have hanswers : ∀ scaffolding idle aside aside' bare bare' : Bool,
      ((!(scaffolding || aside)) = (!(scaffolding || aside')) ∧
        (!(scaffolding || idle || (aside || bare))) = (!(scaffolding || idle || (aside' || bare')))) ↔
        scaffolding ∨ aside = aside' ∧ (idle ∨ aside ∨ bare = bare') := by decide
  have halike : ClassifiedAlike code code' ↔
      isScaffolding code ∨ isSetAside code = isSetAside code' ∧
        (isIdle code ∨ isSetAside code ∨ isBareDeclaration code = isBareDeclaration code') := by
    rw [← hanswers, ← hcode.mayBeUntouched_eq, ← hcode.isLogical_eq, hscaffolding, hidle,
      ← hcode'.mayBeUntouched_eq, ← hcode'.isLogical_eq]
    exact ⟨fun h => ⟨h.untouched, h.logical⟩, fun h => ⟨hbrace, h.1, h.2, hheading⟩⟩
  refine ⟨hbrace, hheading, halike, fun hspacing => halike.2 (Or.inr ⟨?_, Or.inr (Or.inr ?_)⟩)⟩
  · rw [hcode.isSetAside_eq hspacing, hcode'.isSetAside_eq (hclose ▸ hspacing), hclose]
  · rw [hcode.not_isBareDeclaration hspacing, hcode'.not_isBareDeclaration (hclose ▸ hspacing)]

/-- A condition, spaced in two ways. -/
theorem classifiedAlike_condition :
    IsCode "if(fee>cap)\x7b".toList ∧ IsCode "if ( fee > cap ) \x7b".toList ∧
      tokens none "if(fee>cap)\x7b".toList = tokens none "if ( fee > cap ) \x7b".toList ∧
      ClassifiedAlike "if(fee>cap)\x7b".toList "if ( fee > cap ) \x7b".toList := by
  have hclosed : IsCode "if(fee>cap)\x7b".toList := by decide
  have hspaced : IsCode "if ( fee > cap ) \x7b".toList := by decide
  have htokens : tokens none "if(fee>cap)\x7b".toList = tokens none "if ( fee > cap ) \x7b".toList := by
    decide
  exact ⟨hclosed, hspaced, htokens, (classifiedAlike_iff hclosed hspaced htokens).2.2.2 (by decide)⟩

/-- Rows of the same tokens, the first as the tests expect them. -/
def respacedRows : List (Text × Text) :=
  [("\x7d else \x7b", "\x7delse\x7b"), (");", ") ;"), ("\x7d);", "\x7d ) ;"),
    ("console.log(fee);", "console . log(fee);"), ("uint256[] fees;", "uint256[]fees;"),
    ("mapping(address => bool) isOwner;", "mapping(address => bool)isOwner;")].map fun (row, respaced) =>
      (row.toList, respaced.toList)

/-- Each of the three tests tells rows of the same tokens apart. -/
theorem not_classifiedAlike_respacedRows :
    ("\x7d else \x7b".toList, "\x7delse\x7b".toList) ∈ respacedRows ∧
      ∀ rows ∈ respacedRows, IsCode rows.1 ∧ IsCode rows.2 ∧ tokens none rows.1 = tokens none rows.2 ∧
        ¬ ClassifiedAlike rows.1 rows.2 := by
  decide

end FuzzCoverage.Solidity
