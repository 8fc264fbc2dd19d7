import FuzzCoverage.Proofs.Scan.Unreached

/-! # Headings that no run reached

A row on which a unit begins is scaffolding, whatever the unit.  The test on untouched lines goes by the
words of the row and knows one of the five keywords: it sees the heading of a function where that begins
the row, and a heading of any kind where a visibility stands on the row (`untouched_heading_iff`). -/

namespace FuzzCoverage

open Solidity Trace

namespace Solidity.Heading

open Text

/-- The keywords of the units that begin their lines. -/
def leadingKeywords : List Text :=
  ["constructor", "modifier", "receive", "fallback"].map String.toList

theorem exists_after?_of_isUnnamed {keyword code : Text} (h : isUnnamed keyword code) :
    ∃ rest, code.after? keyword = some rest := by
  obtain ⟨rest, hafter, -⟩ := (Option.any_eq_true _ _).1 h
  exact ⟨rest, hafter⟩

theorem exists_after?_of_modifier? {name code : Text} (h : modifier? code = some name) :
    ∃ rest, code.after? "modifier".toList = some rest := by
  obtain ⟨found, hnamed, -⟩ := Option.bind_eq_some_iff.1 h
  obtain ⟨rest, hafter, -⟩ := Option.bind_eq_some_iff.1 hnamed
  exact ⟨rest, hafter⟩

/-- A unit that is no function begins its line with its keyword. -/
theorem exists_keyword_of_of? {code : Text} {unit : Heading} (h : of? code = some unit)
    (hkind : unit.kind ≠ .function) :
    ∃ keyword ∈ leadingKeywords, ∃ rest, code.after? keyword = some rest := by
  rw [of?] at h
  split at h
  · cases h
    exact absurd rfl hkind
  split at h
  · next hconstructor => exact ⟨_, by decide, exists_after?_of_isUnnamed hconstructor⟩
  split at h
  · next name hmodifier => exact ⟨_, by decide, exists_after?_of_modifier? hmodifier⟩
  split at h
  · next hreceive => exact ⟨_, by decide, exists_after?_of_isUnnamed hreceive⟩
  split at h
  · next hfallback => exact ⟨_, by decide, exists_after?_of_isUnnamed hfallback⟩
  · cases h

/-- Behind these keywords only the words for visibility are looked for. -/
theorem isScaffolding_of_keyword {keyword code rest : Text} (hkeyword : keyword ∈ leadingKeywords)
    (h : code.after? keyword = some rest) :
    isScaffolding code = code.mentions visibilityWords ∧ isDebugPrint code = false := by
  obtain rfl := append_of_after? h
  simp only [leadingKeywords, List.map_cons, List.map_nil, List.mem_cons, List.not_mem_nil, or_false] at hkeyword
  -- the other tests stop at the letters of the keyword, whatever follows
  rcases hkeyword with rfl | rfl | rfl | rfl <;> exact ⟨rfl, rfl⟩

theorem not_mem_punctuationLines_of_of? {code : Text} {unit : Heading} (h : of? code = some unit) :
    code ∉ punctuationLines := by
  have hpunctuation : ∀ code ∈ punctuationLines, of? code = none := by decide
  intro hmem
  rw [hpunctuation code hmem] at h
  cases h

/-- Whether the words of a row tell that it is the heading of `unit`: it names a visibility, or the unit
    is a function and the row passes for scaffolding in any way or prints for debugging. -/
def isToldBy (unit : Heading) (code : Text) : Bool :=
  code.mentions visibilityWords || unit.kind = .function && (isScaffolding code || isDebugPrint code)

theorem mayBeUntouched_eq_not_isToldBy {inComment : Bool} {line code : Text}
    (hcode : (CodeLine.of inComment line).code = some code) {unit : Heading} (hunit : of? code = some unit) :
    mayBeUntouched code = !unit.isToldBy code := by
  rw [mayBeUntouched_eq hcode (not_mem_punctuationLines_of_of? hunit), isToldBy]
  by_cases hkind : unit.kind = .function
  · -- a function may begin behind other code, so that any of the tests may see the row
    have hvisibility : (code.mentions visibilityWords || isScaffolding code) = isScaffolding code := by
      rw [isScaffolding, Bool.or_comm, Bool.or_assoc, Bool.or_self]
    rw [decide_eq_true hkind, Bool.true_and, ← Bool.or_assoc, hvisibility]
  · -- the other units begin their rows, where none of the other tests finds what it looks for
    obtain ⟨keyword, hkeyword, rest, hafter⟩ := exists_keyword_of_of? hunit hkind
    obtain ⟨hscaffolding, hprint⟩ := isScaffolding_of_keyword hkeyword hafter
    rw [hscaffolding, hprint, Bool.or_false, decide_eq_false hkind, Bool.false_and, Bool.or_false]

end Solidity.Heading

/-! ## What a heading adds to a block -/

theorem Block.untouched_record_iff {row : Row} {code : Text} (hactive : row.isActive)
    (hmarker : row.marker = .unmarked) (hbrace : isLoneBrace code = false) (block : Block) :
    (block.record row code).tallies.untouched = block.tallies.untouched ↔ mayBeUntouched code = false := by
  cases hmay : mayBeUntouched code <;>
    simp [record, skipRow, add, Outcome.of, hactive, hmarker, hbrace, hmay, Tallies.add]

theorem isLoneBrace_of_heading {inComment : Bool} {line code : Text}
    (hcode : (CodeLine.of inComment line).code = some code) {unit : Heading}
    (hunit : Heading.of? code = some unit) : isLoneBrace code = false := by
  rw [isLoneBrace, CodeLine.trim_code hcode]
  refine decide_eq_false fun hbrace => ?_
  exact Heading.not_mem_punctuationLines_of_of? hunit (hbrace ▸ by decide)

/-- **Which headings are kept out of the untouched lines.**  The row on which a unit begins may not be
    reported as untouched, and adds nothing to the untouched lines of any block where it has a counter
    and no mark, exactly if its words tell that it is a heading. -/
theorem untouched_heading_iff {inComment : Bool} {line code : Text} {unit : Heading}
    (hcode : (CodeLine.of inComment line).code = some code) (hunit : Heading.of? code = some unit) :
    (mayBeUntouched code = false ↔ unit.isToldBy code) ∧
      ∀ row : Row, row.isActive → row.marker = .unmarked → ∀ block : Block,
        ((block.record row code).tallies.untouched = block.tallies.untouched ↔ unit.isToldBy code) := by
  have htold : mayBeUntouched code = false ↔ unit.isToldBy code := by
    rw [Heading.mayBeUntouched_eq_not_isToldBy hcode hunit, Bool.not_eq_false']
  refine ⟨htold, fun row hactive hmarker block => ?_⟩
  rw [Block.untouched_record_iff hactive hmarker (isLoneBrace_of_heading hcode hunit), htold]

/-- The heading of a fallback function, which has to be external. -/
theorem untouched_fallbackHeading :
    (CodeLine.of false "  fallback() external payable \x7b // forwards".toList).code =
        some "fallback() external payable \x7b".toList ∧
      Heading.of? "fallback() external payable \x7b".toList = some (Heading.unnamed .fallback) ∧
      mayBeUntouched "fallback() external payable \x7b".toList = false ∧
      (Block.outside.record ⟨none, .hits 0, .unmarked, "fallback() external payable \x7b".toList⟩
        "fallback() external payable \x7b".toList).tallies.untouched = 0 := by
  have hcode : (CodeLine.of false "  fallback() external payable \x7b // forwards".toList).code =
      some "fallback() external payable \x7b".toList := by decide
  have hunit : Heading.of? "fallback() external payable \x7b".toList = some (Heading.unnamed .fallback) := by
    decide
  obtain ⟨hmay, hadds⟩ := untouched_heading_iff hcode hunit
  exact ⟨hcode, hunit, hmay.2 (by decide), (hadds _ rfl rfl Block.outside).2 (by decide)⟩

/-- A constructor with one statement, that ran although its heading has no mark. -/
def constructorRows : List Row :=
  [⟨none, .hits 0, .unmarked, "constructor() \x7b".toList⟩, ⟨none, .hits 1, .covered, "x = 1;".toList⟩,
    ⟨none, .structural, .unmarked, "\x7d".toList⟩]

/-- The heading names no visibility and holds nothing of the body, and is an untouched line. -/
theorem untouched_constructorHeading :
    (CodeLine.of false "constructor() \x7b".toList).code = some "constructor() \x7b".toList ∧
      Heading.of? "constructor() \x7b".toList = some (Heading.unnamed .constructor) ∧
      Braces.of ("constructor() \x7b".toList).dropLast = ⟨0, 0⟩ ∧
      mayBeUntouched "constructor() \x7b".toList ∧
      (Scan.blocksOfRows true constructorRows).map (fun block => (block.kind, block.tallies.untouched)) =
        [(.constructor, 1)] := by
  decide

end FuzzCoverage
