import FuzzCoverage.Proofs.Scan.Attribution
import FuzzCoverage.Proofs.Solidity.Nesting

/-! # Braces in the signature of a definition

The arguments of a modifier or of a base constructor may hold braces, as in `Base(\x7bowner: o\x7d)`.
A scan takes the first opening brace of a heading for the beginning of the body, wherever it stands.
So a definition is kept in one block when, from that brace on, no row of the signature ends with all
braces closed again (`readsAs_iff_signatureStaysOpen`); otherwise the block ends with that row. -/

namespace FuzzCoverage.Scan

open Solidity Trace

/-- The code of lines, without the contents of its strings. -/
def textOf (lines : List Line) : Text :=
  lines.flatMap fun line => (line.code.map (emptyStrings none)).getD []

@[simp] theorem textOf_append (first rest : List Line) :
    textOf (first ++ rest) = textOf first ++ textOf rest := by
  simp [textOf]

theorem textOf_cons (line : Line) (lines : List Line) :
    textOf (line :: lines) = textOf [line] ++ textOf lines := textOf_append [line] lines

theorem net_eq_depth (lines : List Line) : net lines = depth (textOf lines) := by
  induction lines with
  | nil => rfl
  | cons line lines ih =>
    rw [net_cons, textOf_cons, depth_append, ih]
    cases hcode : line.code with
    | none => simp [textOf, Line.braces, hcode]
    | some code => simp [textOf, Line.braces, hcode, Braces.of_eq_count, depth]

/-- The text of a definition: its signature, the body between its braces, and what stands after the
    body on the last line. -/
structure DefinitionText (lines : List Line) (signature body after : Text) : Prop where
  text : textOf lines = signature ++ '\x7b' :: (body ++ '\x7d' :: after)
  isSignature : isSignature signature
  balanced : Balanced body
  last : textOf lines.dropLast <+: signature ++ '\x7b' :: body

/-- The rows are read into one block of the unit, which is closed with the last of them; nothing of
    them is left for the residue. -/
def State.ReadsAs (s : State) (unit : Heading) (rows : List Row) : Prop :=
  ∃ block : Block, block.unit = unit ∧ block.SumsUp (linesOf s.inComment rows) ∧
    s.run rows =
      { s with phase := .outside, closed := s.closed ++ [block]
               inComment := commentAfter s.inComment rows }

/-! ## Blocks that are closed stay -/

theorem State.closed_settle (s : State) (block : Block) (depth : Nat) (braces : Braces) :
    s.closed <+: (s.settle block depth braces).closed := by
  simp only [settle, close]
  split <;> simp

theorem State.closed_stepLine (s : State) (line : Line) : s.closed <+: (s.stepLine line).closed := by
  cases hcode : line.code with
  | none =>
    simp only [stepLine, hcode, stepBlank]
    split <;> exact List.prefix_rfl
  | some code =>
    simp only [stepLine, hcode, stepCode]
    split
    · simp only [stepOutside]
      split <;> exact List.prefix_rfl
    · simp only [stepHeading]
      split
      · exact closed_settle _ _ _ _
      · split <;> exact List.prefix_rfl
    · exact closed_settle _ _ _ _

theorem State.closed_runLines (s : State) (lines : List Line) :
    s.closed <+: (s.runLines lines).closed := by
  induction lines generalizing s with
  | nil => exact List.prefix_rfl
  | cons line lines ih => exact (s.closed_stepLine line).trans (ih _)

/-- The block of a definition is closed before the lines after it, and stays. -/
theorem State.closed_of_isDefinition {s : State} {unit : Heading} {heading body rest : List Line}
    {brace next : Line} (hs : ∀ block depth, s.phase ≠ .body block depth)
    (h : IsDefinition unit heading brace body (next :: rest)) :
    s.closed ++ [(definitionBlock unit heading brace body).complete] <+:
      (s.runLines (heading ++ brace :: (body ++ next :: rest))).closed := by
  have hclosed : net (brace :: body) ≤ 0 := h.closes.resolve_right (by simp)
  have hsplit : heading ++ brace :: (body ++ next :: rest) =
      (heading ++ brace :: body) ++ next :: rest := by simp
  rw [hsplit, runLines_append, runLines_definition hs h, if_pos hclosed]
  exact closed_runLines (s.close (definitionBlock unit heading brace body)) (next :: rest)

/-! ## How far the lines of a definition keep a brace open -/

variable {lines heading rest : List Line} {brace : Line} {signature body after : Text}

theorem prefix_signature_or {first : Text} (h : first <+: signature ++ '\x7b' :: body) :
    first <+: signature ∨ ∃ rest, first = signature ++ '\x7b' :: rest ∧ rest <+: body := by
  rcases List.prefix_or_prefix_of_prefix h (List.prefix_append signature _) with hfirst | hfirst
  · exact Or.inl hfirst
  · obtain ⟨tail, rfl⟩ := hfirst
    rw [List.prefix_append_right_inj, List.prefix_cons_iff] at h
    rcases h with rfl | ⟨rest, rfl, hrest⟩
    · exact Or.inl (by simp)
    · exact Or.inr ⟨rest, rfl, hrest⟩

theorem not_mem_textOf_of_goesOn (h : ∀ line ∈ heading, line.goesOn) :
    '\x7b' ∉ textOf heading := by
  intro hmem
  obtain ⟨line, hline, hbrace⟩ := List.mem_flatMap.1 hmem
  have hgoes := h line hline
  simp only [Line.goesOn, Bool.and_eq_true, beq_iff_eq] at hgoes
  cases hcode : line.code with
  | none => simp [hcode] at hbrace
  | some code =>
    simp only [hcode, Option.map_some, Option.getD_some] at hbrace
    have hcount : (emptyStrings none code).count '\x7b' = 0 := by
      simpa [Line.braces, hcode, Braces.of_eq_count] using hgoes.1
    exact List.count_eq_zero.1 hcount hbrace

theorem net_nonpos_of_goesOn (h : ∀ line ∈ heading, line.goesOn) : net heading ≤ 0 := by
  have hcount := List.count_eq_zero.2 (not_mem_textOf_of_goesOn h)
  rw [net_eq_depth, depth, hcount]
  omega

theorem textOf_prefix_textOf {first : List Line} (h : first <+: lines) : textOf first <+: textOf lines := by
  obtain ⟨later, rfl⟩ := h
  rw [textOf_append]
  exact List.prefix_append _ _

theorem DefinitionText.textOf_heading (h : DefinitionText (heading ++ brace :: rest) signature body after)
    (goesOn : ∀ line ∈ heading, line.goesOn) : textOf heading <+: signature := by
  have hheading : textOf heading <+: signature ++ '\x7b' :: (body ++ '\x7d' :: after) := by
    rw [← h.text]
    exact textOf_prefix_textOf (List.prefix_append heading _)
  rcases prefix_signature_or hheading with hprefix | ⟨tail, heq, -⟩
  · exact hprefix
  · exact absurd (by simp [heq]) (not_mem_textOf_of_goesOn goesOn)

/-- No line of the signature ends with all of its braces closed again, from the first one that has a
    brace on. -/
def SignatureStaysOpen (signature : Text) (heading lines : List Line) : Prop :=
  ∀ first ∈ lines.inits, first ≠ [] → textOf (heading ++ first) <+: signature → 1 ≤ net first

instance (signature : Text) (heading lines : List Line) :
    Decidable (SignatureStaysOpen signature heading lines) :=
  inferInstanceAs (Decidable (∀ first ∈ lines.inits, first ≠ [] →
    textOf (heading ++ first) <+: signature → 1 ≤ net first))

/-- Past its signature a definition keeps a brace open up to its last line. -/
theorem DefinitionText.staysOpen (h : DefinitionText (heading ++ brace :: rest) signature body after)
    (goesOn : ∀ line ∈ heading, line.goesOn)
    (hsignature : SignatureStaysOpen signature heading (brace :: rest)) :
    StaysOpen (brace :: rest) := by
  intro first later heq hfirst hlater
  have hinit : heading ++ first <+: (heading ++ brace :: rest).dropLast := by
    rw [heq, ← List.append_assoc, List.dropLast_append_of_ne_nil hlater]
    exact List.prefix_append _ _
  rcases prefix_signature_or ((textOf_prefix_textOf hinit).trans h.last) with hprefix | ⟨tail, htext, htail⟩
  · have hinits : first ∈ (brace :: rest).inits := (List.mem_inits _ _).2 ⟨later, heq.symm⟩
    exact hsignature first hinits hfirst hprefix
  · -- the body has begun, and the lines before its first brace have opened nothing
    have htotal : net heading + net first = 1 + depth tail := by
      rw [← net_append, net_eq_depth, htext, depth_append, depth_open,
        (balanced_of_isSignature h.isSignature).2, Int.zero_add]
    have hheading := net_nonpos_of_goesOn goesOn
    have hdepth := h.balanced.depth_nonneg htail
    omega

theorem DefinitionText.net_eq (h : DefinitionText lines signature body after) :
    net lines = depth after := by
  rw [net_eq_depth, h.text, depth_append, (balanced_of_isSignature h.isSignature).2, depth_open,
    depth_append, h.balanced.2, depth_close]
  omega

theorem DefinitionText.net_heading (h : DefinitionText (heading ++ brace :: rest) signature body after)
    (goesOn : ∀ line ∈ heading, line.goesOn) : net heading = 0 := by
  have hnonpos := net_nonpos_of_goesOn goesOn
  have hnonneg := (balanced_of_isSignature h.isSignature).depth_nonneg (h.textOf_heading goesOn)
  rw [← net_eq_depth] at hnonneg
  omega

theorem DefinitionText.not_prefix_signature (h : DefinitionText lines signature body after) :
    ¬ textOf lines <+: signature := by
  intro hprefix
  have hlength := hprefix.length_le
  simp [h.text] at hlength

/-- **When a definition with braces in its signature is one block.**  Read from outside of a body, the
    rows of a definition are one block of its unit exactly when, from the first brace on, no row of
    the signature ends with all braces closed, and the row with the closing brace of the body opens
    nothing more after it. -/
theorem readsAs_iff_signatureStaysOpen {s : State} {unit : Heading} {rows : List Row}
    (hs : ∀ block depth, s.phase ≠ .body block depth)
    (hlines : linesOf s.inComment rows = heading ++ brace :: rest)
    (begins : Begins unit (heading ++ [brace])) (goesOn : ∀ line ∈ heading, line.goesOn)
    (opens : 0 < brace.braces.opens)
    (h : DefinitionText (linesOf s.inComment rows) signature body after) :
    s.ReadsAs unit rows ↔
      SignatureStaysOpen signature heading (brace :: rest) ∧ depth after ≤ 0 := by
  rw [hlines] at h
  have hnet : net (brace :: rest) = depth after := by
    rw [← h.net_eq, net_append, h.net_heading goesOn, Int.zero_add]
  have hrun := State.run_eq_runLines s rows
  rw [hlines] at hrun
  constructor
  · rintro ⟨block, hunit, hsums, hread⟩
    rw [hlines] at hsums
    rw [hread] at hrun
    -- the scan closes its block with the first line that leaves no brace open
    obtain ⟨first, later, rfl, hdefinition⟩ := exists_definition begins goesOn opens rest
    cases later with
    | nil =>
      rw [List.append_nil] at hrun hnet h ⊢
      rw [State.runLines_definition hs hdefinition] at hrun
      by_cases hclosed : net (brace :: first) ≤ 0
      · refine ⟨fun init hinits hinit htext => ?_, hnet ▸ hclosed⟩
        obtain ⟨tail, heq⟩ := (List.mem_inits _ _).1 hinits
        refine hdefinition.staysOpen init tail heq.symm hinit ?_
        rintro rfl
        rw [List.append_nil] at heq
        exact h.not_prefix_signature (heq ▸ htext)
      · rw [if_neg hclosed] at hrun
        exact absurd (congrArg State.phase hrun) (by simp)
    | cons next later =>
      have hgrows := State.closed_of_isDefinition hs hdefinition
      rw [← congrArg State.closed hrun, List.prefix_append_right_inj, List.cons_prefix_cons] at hgrows
      -- the block that is closed before the last line has too few rows
      have hcount := hsums.rowCount
      rw [← hgrows.1, (definitionBlock_sumsUp unit heading brace first).rowCount] at hcount
      simp only [List.length_append, List.length_cons] at hcount
      omega
  · rintro ⟨hsignature, hafter⟩
    have hdefinition : IsDefinition unit heading brace rest [] :=
      { begins, goesOn, opens, staysOpen := h.staysOpen goesOn hsignature, closes := Or.inr rfl }
    rw [State.runLines_definition hs hdefinition, if_pos (by omega)] at hrun
    refine ⟨_, definitionBlock_unit unit heading brace rest, ?_, hrun⟩
    rw [hlines]
    exact definitionBlock_sumsUp unit heading brace rest

/-- A constructor with arguments for a base constructor, and its heading in so many rows. -/
def ownedRows (heading : List String) : List Row :=
  (heading ++ ["x = 1;", "\x7d"]).map fun source => ⟨none, .hits 1, .covered, source.toList⟩

/-- The arguments end on the row of the body's brace. -/
theorem readsAs_ownedRows :
    ({} : State).ReadsAs (Heading.unnamed .constructor)
      (ownedRows ["constructor() Base(\x7b", "owner: o", "\x7d) \x7b"]) := by
  have hlines : linesOf false (ownedRows ["constructor() Base(\x7b", "owner: o", "\x7d) \x7b"]) =
      [] ++ ⟨⟨none, .hits 1, .covered, "constructor() Base(\x7b".toList⟩,
          some "constructor() Base(\x7b".toList⟩ ::
        (linesOf false (ownedRows ["constructor() Base(\x7b", "owner: o", "\x7d) \x7b"])).tail := by
    decide
  have h : DefinitionText
      (linesOf false (ownedRows ["constructor() Base(\x7b", "owner: o", "\x7d) \x7b"]))
      "constructor() Base(\x7bowner: o\x7d) ".toList "x = 1;".toList [] :=
    { text := by decide, isSignature := by decide, balanced := by decide, last := by decide }
  have hstays : SignatureStaysOpen "constructor() Base(\x7bowner: o\x7d) ".toList []
      (linesOf false (ownedRows ["constructor() Base(\x7b", "owner: o", "\x7d) \x7b"])) := by
    decide
  rw [hlines] at hstays
  have hs : ∀ block depth, ({} : State).phase ≠ .body block depth := by simp
  exact (readsAs_iff_signatureStaysOpen hs hlines ⟨by decide, by simp⟩ (by simp) (by decide) h).2
    ⟨hstays, by decide⟩

/-- The arguments end on the row before the body's brace: the block ends there, and the body is
    counted for the level of the contract. -/
theorem not_readsAs_ownedRows :
    DefinitionText (linesOf false (ownedRows ["constructor() Base(\x7bowner: o\x7d)", "\x7b"]))
        "constructor() Base(\x7bowner: o\x7d)".toList "x = 1;".toList [] ∧
      ¬ ({} : State).ReadsAs (Heading.unnamed .constructor)
        (ownedRows ["constructor() Base(\x7bowner: o\x7d)", "\x7b"]) ∧
      (({} : State).run (ownedRows ["constructor() Base(\x7bowner: o\x7d)", "\x7b"])).residue?.map
        Block.rowCount = some 3 := by
  refine ⟨⟨by decide, by decide, by decide, by decide⟩, ?_, by decide⟩
  rintro ⟨block, -, -, hread⟩
  have hresidue : (({} : State).run (ownedRows ["constructor() Base(\x7bowner: o\x7d)", "\x7b"]
      )).residue.rowCount = 0 := congrArg (fun s => s.residue.rowCount) hread
  exact absurd hresidue (by decide)

end FuzzCoverage.Scan
