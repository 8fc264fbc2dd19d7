import FuzzCoverage.Proofs.Scan.Reachable
import FuzzCoverage.Proofs.Scan.SignatureBraces

/-! # Definitions that begin behind other code

A row may hold the end of one definition, or the beginning of a contract, and the heading of the next
definition after it.  A scan opens one block on a row at the most, and counts all of the row's braces
for it.  So a definition has a block of its own exactly when no other definition has a claim to
its first row, and the braces before it on that row do not end its body early or keep it open
(`givesOwnBlock_iff`). -/

namespace FuzzCoverage.Scan

open Solidity Trace

/-- The lines of a definition whose first line begins with `lead`, which belongs to other code.  What
    follows there is its signature, its body in braces, and on its last line what stands after. -/
structure FollowsOn (unit : Heading) (lead : Text) (lines : List Line) (signature body after : Text) :
    Prop where
  own : ∃ first ∈ lines.head?, ∃ own, first.code = some (lead ++ own) ∧ Heading.of? own = some unit ∧
    emptyStrings none (lead ++ own) = emptyStrings none lead ++ emptyStrings none own
  text : textOf lines =
    emptyStrings none lead ++ (signature ++ '\x7b' :: (body ++ '\x7d' :: after))
  isSignature : isSignature signature
  balanced : Balanced body
  last : textOf lines.dropLast <+: emptyStrings none lead ++ (signature ++ '\x7b' :: body)

/-- Whether a text has an opening brace, and before every semicolon. -/
def opensBody (t : Text) : Bool := t.find? (fun c => c = '\x7b' || c = ';') = some '\x7b'

/-- Whether a unit begins right here. -/
def beginsUnit (t : Text) : Bool :=
  (Heading.functionHere? t).isSome || (Heading.modifier? t).isSome ||
    ["constructor", "receive", "fallback"].any fun keyword => Heading.isUnnamed keyword.toList t

/-- How many definitions begin in a text whose preceding character belongs to a word or does not. -/
def definitionsIn (afterWordChar : Bool) : Text → Nat
  | [] => 0
  | c :: rest =>
    (!afterWordChar && beginsUnit (c :: rest) && opensBody (c :: rest)).toNat +
      definitionsIn (Text.isWord c) rest

namespace State

/-- How many definitions there are on a row before the code after `lead`: one whose body the scan
    stands in, or whose heading waits for a body that `lead` opens, and those that begin in `lead`. -/
def owed (s : State) (lead : Text) : Nat :=
  (match s.phase with
    | .outside => 0
    | .heading _ => (opensBody (emptyStrings none lead)).toNat
    | .body _ _ => 1) + definitionsIn false (emptyStrings none lead)

/-- The last of the rows closes a block of the unit that has just these rows, and there are blocks for
    the definitions before it. -/
def GivesOwnBlock (s : State) (unit : Heading) (lead : Text) (rows : List Row) : Prop :=
  (s.run rows).phase = .outside ∧
    ∃ earlier block, (s.run rows).closed = earlier ++ [block] ∧
      (s.run rows.dropLast).closed <+: earlier ∧ s.closed.length + s.owed lead ≤ earlier.length ∧
      block.unit = unit ∧ block.rowCount = rows.length

end State

/-- What a scan takes over from the code before a definition: the braces of that code, if the first
    line has an opening brace, so that the body is counted from there. -/
def takenOver (lead : Text) (heading : List Line) : Int :=
  if heading = [] then depth (emptyStrings none lead) else 0

/-- How many of its own braces a definition has open after lines of it. -/
def ownDepth (lead : Text) (lines : List Line) : Int :=
  depth (textOf lines) - depth (emptyStrings none lead)

/-- Code around a definition does not change its extent: `heading` are the lines before the first
    opening brace, and `after` is what stands after the body on the last line. -/
structure Undisturbed (s : State) (unit : Heading) (lead : Text) (heading : List Line) (brace : Line)
    (rest : List Line) (after : Text) : Prop where
  alone : s.owed lead = 0
  detected : ∀ line ∈ (heading ++ [brace]).head?, line.heading? = some unit
  staysOpen : ∀ first ∈ (brace :: rest).inits, first ≠ [] → first ≠ brace :: rest →
    1 ≤ takenOver lead heading + ownDepth lead (heading ++ first)
  closes : takenOver lead heading + depth after ≤ 0

/-! ## The braces of the lines -/

variable {unit : Heading} {lead signature body after : Text} {heading rest : List Line} {brace : Line}

theorem FollowsOn.net_heading (h : FollowsOn unit lead (heading ++ brace :: rest) signature body after)
    (goesOn : ∀ line ∈ heading, line.goesOn) :
    net heading = depth (emptyStrings none lead) - takenOver lead heading := by
  cases heading with
  | nil => simp [takenOver]
  | cons first heading =>
    obtain ⟨first', hfirst, own, hcode, -, hempty⟩ := h.own
    obtain rfl : first = first' := by simpa using hfirst
    -- what the heading holds of the definition is a part of its signature without a brace to open
    have htext : textOf (first :: heading) =
        emptyStrings none lead ++ (emptyStrings none own ++ textOf heading) := by
      rw [textOf_cons, ← List.append_assoc, ← hempty]
      simp [textOf, hcode]
    have hnone := not_mem_textOf_of_goesOn goesOn
    have hprefix : textOf (first :: heading) <+:
        emptyStrings none lead ++ (signature ++ '\x7b' :: (body ++ '\x7d' :: after)) := by
      rw [← h.text]
      exact textOf_prefix_textOf (List.prefix_append _ _)
    rw [htext, List.prefix_append_right_inj] at hprefix
    rw [htext, List.mem_append, not_or] at hnone
    have hsignature : emptyStrings none own ++ textOf heading <+: signature := by
      rcases prefix_signature_or hprefix with hprefix | ⟨tail, heq, -⟩
      · exact hprefix
      · exact absurd (by simp [heq]) hnone.2
    have hnonneg := (balanced_of_isSignature h.isSignature).depth_nonneg hsignature
    have hcount := List.count_eq_zero.2 hnone.2
    have hnonpos : depth (emptyStrings none own ++ textOf heading) ≤ 0 := by
      rw [depth, hcount]
      omega
    have htaken : takenOver lead (first :: heading) = 0 := if_neg (by simp)
    rw [net_eq_depth, htext, depth_append, htaken]
    omega

theorem FollowsOn.net_eq (h : FollowsOn unit lead (heading ++ brace :: rest) signature body after)
    (goesOn : ∀ line ∈ heading, line.goesOn) (first : List Line) :
    net first = takenOver lead heading + ownDepth lead (heading ++ first) := by
  have hheading := h.net_heading goesOn
  have hall := net_append heading first
  rw [net_eq_depth (heading ++ first)] at hall
  rw [ownDepth]
  omega

theorem FollowsOn.ownDepth_eq {lines : List Line}
    (h : FollowsOn unit lead lines signature body after) : ownDepth lead lines = depth after := by
  rw [ownDepth, h.text, depth_append, depth_append, (balanced_of_isSignature h.isSignature).2,
    depth_open, depth_append, h.balanced.2, depth_close]
  omega

/-! ## Rows and lines -/

theorem exists_first (heading : List Line) (brace : Line) (rest : List Line) :
    ∃ first tail, heading ++ brace :: rest = first :: tail ∧
      (heading ++ [brace]).head? = some first := by
  cases heading with
  | nil => exact ⟨brace, rest, rfl, rfl⟩
  | cons first heading => exact ⟨first, heading ++ brace :: rest, rfl, rfl⟩

theorem Begins.of_head? (detected : ∀ line ∈ (heading ++ [brace]).head?, line.heading? = some unit)
    (later : ∀ line ∈ (heading ++ [brace]).tail, line.heading? = none) :
    Begins unit (heading ++ [brace]) := by
  cases heading with
  | nil => exact ⟨detected brace rfl, later⟩
  | cons first heading => exact ⟨detected first rfl, later⟩

theorem linesOf_dropLast (inComment : Bool) (rows : List Row) :
    linesOf inComment rows.dropLast = (linesOf inComment rows).dropLast := by
  induction rows generalizing inComment with
  | nil => rfl
  | cons row rows ih =>
    cases rows with
    | nil => rfl
    | cons next rows => exact congrArg _ (ih (CodeLine.of inComment row.source).inComment)

namespace State

variable {s : State} {rows : List Row}

theorem closed_run (s : State) (rows : List Row) :
    (s.run rows).closed = (s.runLines (linesOf s.inComment rows)).closed := by
  rw [run_eq_runLines]

theorem notBody_of_owed (h : s.owed lead = 0) (block : Block) (depth : Nat) :
    s.phase ≠ .body block depth := by
  intro hphase
  simp [owed, hphase] at h

/-- A definition that has a block of its own is the unit that the scan finds on its first line, and no
    block is closed before its last line. -/
theorem GivesOwnBlock.cases {first : Line} {tail : List Line} (hs : s.Standing)
    (hlines : linesOf s.inComment rows = first :: tail) (h : s.GivesOwnBlock unit lead rows) :
    s.owed lead = 0 ∧ first.heading? = some unit ∧
      (s.runLines (first :: tail).dropLast).closed = s.closed := by
  obtain ⟨-, earlier, block, hclosed, hbefore, hearlier, hunit, hcount⟩ := h
  have hsplit := List.dropLast_append_getLast (List.cons_ne_nil first tail)
  have hlength : rows.length = (first :: tail).dropLast.length + 1 := by
    rw [← length_linesOf s.inComment, hlines, List.length_dropLast]
    rfl
  rw [closed_run, hlines, ← hsplit, runLines_append, runLines_cons, runLines_nil] at hclosed
  rw [closed_run, linesOf_dropLast, hlines] at hbefore
  -- the last line closes the block that it is read into
  obtain ⟨start, next, hreceives, hcloses, hnext, hrows⟩ :=
    exists_closes (hs.runLines (first :: tail).dropLast) (by
      rw [hclosed, List.length_append, List.length_singleton]
      exact Nat.lt_succ_of_le hbefore.length_le)
  rw [hcloses] at hclosed
  obtain ⟨rfl, hblock⟩ := List.append_inj' hclosed rfl
  obtain rfl : next = block := by simpa using hblock
  -- and that has a row for each of them, so that the first one opened it
  obtain ⟨-, hheading, hsame⟩ := opened_of_receives hs hsplit hreceives (by omega)
  rw [hsame] at hearlier
  refine ⟨by omega, ?_, hsame⟩
  rw [hheading, ← hnext, hunit]

theorem closed_runLines_dropLast (hs : ∀ block depth, s.phase ≠ .body block depth)
    (h : IsDefinition unit heading brace rest []) :
    (s.runLines (heading ++ brace :: rest).dropLast).closed = s.closed := by
  -- before its last line the definition is in its heading, or in its body with a brace open
  rw [List.dropLast_append_of_ne_nil (List.cons_ne_nil brace rest)]
  cases rest using List.reverseRecOn with
  | nil =>
    cases heading using List.reverseRecOn with
    | nil => rfl
    | append_singleton heading last =>
      obtain ⟨hheading, hlast⟩ := List.forall_mem_append.1 h.goesOn
      simp only [List.dropLast_singleton, List.append_nil]
      rw [runLines_begins hs (h.begins.of_append (by simp)) hheading,
        declare_of_goesOn (hlast last (by simp))]
  | append_singleton body last =>
    have hopen : ¬ net (brace :: body) ≤ 0 := by
      have := h.staysOpen (brace :: body) [last] (by simp) (by simp) (by simp)
      omega
    have hbody : IsDefinition unit heading brace body [] :=
      { h with
        staysOpen := fun first later heq hfirst hlater =>
          h.staysOpen first (later ++ [last])
            (by rw [← List.append_assoc, ← heq, List.cons_append]) hfirst (by simp)
        closes := Or.inr rfl }
    rw [← List.cons_append, List.dropLast_concat, runLines_definition hs hbody, if_neg hopen]

theorem GivesOwnBlock.isDefinition (hs : ∀ block depth, s.phase ≠ .body block depth)
    (hlines : linesOf s.inComment rows = heading ++ brace :: rest)
    (begins : Begins unit (heading ++ [brace])) (goesOn : ∀ line ∈ heading, line.goesOn)
    (opens : 0 < brace.braces.opens) (h : s.GivesOwnBlock unit lead rows)
    (hbefore : (s.runLines (heading ++ brace :: rest).dropLast).closed = s.closed) :
    IsDefinition unit heading brace rest [] ∧ net (brace :: rest) ≤ 0 := by
  have hrun := run_eq_runLines s rows
  rw [hlines] at hrun
  -- the first brace begins a definition, which may end before these lines do
  obtain ⟨body, behind, rfl, hdefinition⟩ := exists_definition begins goesOn opens rest
  cases behind with
  | nil =>
    rw [List.append_nil] at hrun ⊢
    refine ⟨hdefinition, Classical.byContradiction fun hopen => ?_⟩
    rw [runLines_definition hs hdefinition, if_neg hopen] at hrun
    have hphase := h.1
    rw [hrun] at hphase
    cases hphase
  | cons next behind =>
    -- then its block is closed before the last line
    have hclosed : net (brace :: body) ≤ 0 := hdefinition.closes.resolve_right (by simp)
    have hsplit : (heading ++ brace :: (body ++ next :: behind)).dropLast =
        (heading ++ brace :: body) ++ (next :: behind).dropLast := by
      rw [← List.cons_append, ← List.append_assoc, List.dropLast_append_of_ne_nil (by simp)]
    rw [hsplit, runLines_append, runLines_definition hs hdefinition, if_pos hclosed] at hbefore
    have hgrows := closed_runLines (s.close (definitionBlock unit heading brace body))
      (next :: behind).dropLast
    rw [hbefore] at hgrows
    exact absurd hgrows.length_le (by simp [close])

end State

/-! ## A definition on a shared row -/

/-- What a scan takes over from the code before the definition is a part of the braces it counts for
    it, and so are those of the code after it. -/
theorem FollowsOn.isDefinition_iff
    (h : FollowsOn unit lead (heading ++ brace :: rest) signature body after)
    (begins : Begins unit (heading ++ [brace])) (goesOn : ∀ line ∈ heading, line.goesOn)
    (opens : 0 < brace.braces.opens) :
    IsDefinition unit heading brace rest [] ∧ net (brace :: rest) ≤ 0 ↔
      (∀ first ∈ (brace :: rest).inits, first ≠ [] → first ≠ brace :: rest →
          1 ≤ takenOver lead heading + ownDepth lead (heading ++ first)) ∧
        takenOver lead heading + depth after ≤ 0 := by
  rw [h.net_eq goesOn, h.ownDepth_eq]
  simp only [← h.net_eq goesOn, ← staysOpen_iff]
  refine and_congr_left fun _ => ⟨IsDefinition.staysOpen, fun staysOpen => ?_⟩
  exact { begins, goesOn, opens, staysOpen, closes := Or.inr rfl }

theorem Undisturbed.isDefinition {s : State} (hu : Undisturbed s unit lead heading brace rest after)
    (h : FollowsOn unit lead (heading ++ brace :: rest) signature body after)
    (later : ∀ line ∈ (heading ++ [brace]).tail, line.heading? = none)
    (goesOn : ∀ line ∈ heading, line.goesOn) (opens : 0 < brace.braces.opens) :
    IsDefinition unit heading brace rest [] ∧ net (brace :: rest) ≤ 0 :=
  (h.isDefinition_iff (.of_head? hu.detected later) goesOn opens).2 ⟨hu.staysOpen, hu.closes⟩

/-- **When a definition that begins behind other code has a block of its own.**  Wherever the scan of
    a file stands, the definition has one that is closed with its last row exactly when no definition
    before it reaches onto its first row, the scan finds its heading there, and with the braces
    before it on that row its body stays open up to the last row and is closed there.  Then all its
    rows are one block, and the rows after them are read as if the scan had been outside. -/
theorem givesOwnBlock_iff (pre : List Row) {rows : List Row}
    (hlines : linesOf (({} : State).run pre).inComment rows = heading ++ brace :: rest)
    (later : ∀ line ∈ (heading ++ [brace]).tail, line.heading? = none)
    (goesOn : ∀ line ∈ heading, line.goesOn) (opens : 0 < brace.braces.opens)
    (h : FollowsOn unit lead (heading ++ brace :: rest) signature body after) :
    ((({} : State).run pre).GivesOwnBlock unit lead rows ↔
        Undisturbed (({} : State).run pre) unit lead heading brace rest after) ∧
      (Undisturbed (({} : State).run pre) unit lead heading brace rest after →
        (({} : State).run pre).ReadsAs unit rows) := by
  have hstanding := State.Standing.run pre
  generalize ({} : State).run pre = s at hlines hstanding ⊢
  have hread : Undisturbed s unit lead heading brace rest after →
      s.run rows = { s.close (definitionBlock unit heading brace rest) with
        inComment := commentAfter s.inComment rows } := by
    intro hu
    obtain ⟨hdefinition, hclosed⟩ := hu.isDefinition h later goesOn opens
    rw [State.run_eq_runLines, hlines,
      State.runLines_definition (State.notBody_of_owed hu.alone) hdefinition, if_pos hclosed]
  refine ⟨⟨fun hown => ?_, fun hu => ?_⟩, fun hu => ?_⟩
  · obtain ⟨first, tail, hfirst, hhead⟩ := exists_first heading brace rest
    obtain ⟨halone, hunit, hbefore⟩ := hown.cases hstanding (hlines.trans hfirst)
    have detected : ∀ line ∈ (heading ++ [brace]).head?, line.heading? = some unit := by
      simpa [hhead] using hunit
    have begins := Begins.of_head? detected later
    rw [← hfirst] at hbefore
    obtain ⟨staysOpen, closes⟩ := (h.isDefinition_iff begins goesOn opens).1
      (hown.isDefinition (State.notBody_of_owed halone) hlines begins goesOn opens hbefore)
    exact { alone := halone, detected, staysOpen, closes }
  · have hblock := definitionBlock_sumsUp unit heading brace rest
    have hclosed := State.closed_runLines_dropLast (State.notBody_of_owed hu.alone)
      (hu.isDefinition h later goesOn opens).1
    rw [State.GivesOwnBlock, hread hu]
    refine ⟨rfl, s.closed, _, rfl, ?_, by simp [hu.alone], definitionBlock_unit unit heading brace rest, ?_⟩
    · rw [State.closed_run, linesOf_dropLast, hlines, hclosed]
    · rw [hblock.rowCount, ← hlines, length_linesOf]
  · refine ⟨_, definitionBlock_unit unit heading brace rest, ?_, hread hu⟩
    rw [hlines]
    exact definitionBlock_sumsUp unit heading brace rest

/-- A function of this name, with so much before its heading on the first row. -/
def rowsBehind (lead name : String) : List Row :=
  [lead ++ "function " ++ name ++ "() public \x7b", "x = 1;", "\x7d"].map fun source =>
    ⟨none, .hits 1, .covered, source.toList⟩

/-- A struct before the heading closes the brace that it opens. -/
theorem givesOwnBlock_behindStruct :
    ({} : State).GivesOwnBlock ⟨.function, "f".toList⟩ "struct P \x7b uint256 a; \x7d ".toList
      (rowsBehind "struct P \x7b uint256 a; \x7d " "f") := by
  have hlines : linesOf false (rowsBehind "struct P \x7b uint256 a; \x7d " "f") =
      [] ++ ⟨⟨none, .hits 1, .covered, "struct P \x7b uint256 a; \x7d function f() public \x7b".toList⟩,
          some "struct P \x7b uint256 a; \x7d function f() public \x7b".toList⟩ ::
        (linesOf false (rowsBehind "struct P \x7b uint256 a; \x7d " "f")).tail := by
    decide
  have h : FollowsOn ⟨.function, "f".toList⟩ "struct P \x7b uint256 a; \x7d ".toList
      (linesOf false (rowsBehind "struct P \x7b uint256 a; \x7d " "f"))
      "function f() public ".toList "x = 1;".toList [] :=
    { own := ⟨_, rfl, "function f() public \x7b".toList, by decide, by decide, by decide⟩
      text := by decide
      isSignature := by decide
      balanced := by decide
      last := by decide }
  rw [hlines] at h
  refine ((givesOwnBlock_iff [] hlines (by simp) (by simp) (by decide) h).1).2 ?_
  exact { alone := by decide, detected := by decide, staysOpen := by decide, closes := by decide }

/-- The contract that a function stands in begins on the row of its heading: the function ends with
    the contract, and a function after it is not found. -/
theorem not_givesOwnBlock_behindContract :
    FollowsOn ⟨.function, "f".toList⟩ "contract C \x7b ".toList
        (linesOf false (rowsBehind "contract C \x7b " "f"))
        "function f() public ".toList "x = 1;".toList [] ∧
      ¬ ({} : State).GivesOwnBlock ⟨.function, "f".toList⟩ "contract C \x7b ".toList
        (rowsBehind "contract C \x7b " "f") ∧
      (({} : State).run (rowsBehind "contract C \x7b " "f" ++ rowsBehind "" "g" ++
          [⟨none, .structural, .unmarked, "\x7d".toList⟩])).blocks.map
          (fun block => (block.unit, block.rowCount)) = [(⟨.function, "f".toList⟩, 7)] := by
  refine ⟨?_, ?_, by decide⟩
  · refine { own := ?_, text := ?_, isSignature := ?_, balanced := ?_, last := ?_ }
    · exact ⟨_, rfl, "function f() public \x7b".toList, by decide, by decide, by decide⟩
    · decide
    · decide
    · decide
    · decide
  · rintro ⟨hphase, -⟩
    exact absurd hphase (by decide)

end FuzzCoverage.Scan
