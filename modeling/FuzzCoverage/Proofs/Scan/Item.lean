import FuzzCoverage.Proofs.Scan.Division

/-! # Files as sequences of items

A file that is put together from rows at the level of the contract, declarations without a body and
definitions with one (`Item`) gives a block for every definition and for nothing else, in order
(`blocks_of_items`), whatever its rows were hit and marked with and wherever rows of comment stand
among them.

The items are told by the code of their rows alone.  The proof turns them into a division of the
lines: rows of comment before an item lie outside, and those within it belong to its part. -/

namespace FuzzCoverage.Scan

open Solidity Trace

/-- How many more braces the rows of code open than they close. -/
def netOf (codes : List Text) : Int :=
  (codes.map fun code => ((Braces.of code).opens : Int) - (Braces.of code).closes).sum

/-- Whether a heading goes on after a row of code: no brace opens on it and no semicolon ends it. -/
def headingGoesOn (code : Text) : Bool :=
  (Braces.of code).opens == 0 && !decide (code.getLast? = some ';')

/-- The first row of code begins a unit, and no other row begins one. -/
def BeginsOnce : List Text → Prop
  | [] => False
  | first :: others => (Heading.of? first).isSome ∧ ∀ code ∈ others, Heading.of? code = none

/-- What a file is put together from. -/
inductive Item where
  /-- A row at the level of the contract. -/
  | plain (code : Text)
  /-- A declaration without a body: the rows before its last one, and that one. -/
  | declaration (heading : List Text) (last : Text)
  /-- A definition: the rows before the first brace, the row with that brace, and those after. -/
  | definition (heading : List Text) (brace : Text) (body : List Text)
  deriving DecidableEq, Repr

namespace Item

def codes : Item → List Text
  | .plain code => [code]
  | .declaration heading last => heading ++ [last]
  | .definition heading brace body => heading ++ brace :: body

def unit? : Item → Option Heading
  | .definition heading brace _ => (heading ++ [brace]).head?.bind Heading.of?
  | _ => none

/-- Whether an item is one of its kind.  The count of a definition runs from the row of its first
    brace on: it is positive after every row but the last, and not after that. -/
def WellFormed : Item → Prop
  | .plain code => Heading.of? code = none
  | .declaration heading last =>
    BeginsOnce (heading ++ [last]) ∧ (∀ code ∈ heading, headingGoesOn code) ∧
      (Braces.of last).opens = 0 ∧ last.getLast? = some ';'
  | .definition heading brace body =>
    BeginsOnce (heading ++ [brace]) ∧ (∀ code ∈ heading, headingGoesOn code) ∧
      0 < (Braces.of brace).opens ∧
      (∀ n < (brace :: body).length, 0 < n → 1 ≤ netOf ((brace :: body).take n)) ∧
      netOf (brace :: body) ≤ 0

end Item

instance : DecidablePred BeginsOnce
  | [] => instDecidableFalse
  | first :: others =>
    inferInstanceAs (Decidable ((Heading.of? first).isSome ∧ ∀ code ∈ others, Heading.of? code = none))

instance : DecidablePred Item.WellFormed
  | .plain code => inferInstanceAs (Decidable (Heading.of? code = none))
  | .declaration heading last =>
    inferInstanceAs (Decidable (BeginsOnce (heading ++ [last]) ∧
      (∀ code ∈ heading, headingGoesOn code) ∧
      (Braces.of last).opens = 0 ∧ last.getLast? = some ';'))
  | .definition heading brace body =>
    inferInstanceAs (Decidable (BeginsOnce (heading ++ [brace]) ∧
      (∀ code ∈ heading, headingGoesOn code) ∧ 0 < (Braces.of brace).opens ∧
      (∀ n < (brace :: body).length, 0 < n → 1 ≤ netOf ((brace :: body).take n)) ∧
      netOf (brace :: body) ≤ 0))

/-! ## Lines and their code -/

/-- The rows of code among the lines. -/
def codesOf (lines : List Line) : List Text := lines.filterMap Line.code

theorem Line.braces_of_code {line : Line} {code : Text} (h : line.code = some code) :
    line.braces = Braces.of code := by
  simp [Line.braces, h]

theorem Line.endsInSemicolon_of_code {line : Line} {code : Text} (h : line.code = some code) :
    line.endsInSemicolon = decide (code.getLast? = some ';') := by
  simp [Line.endsInSemicolon, h]

theorem Line.heading?_of_code {line : Line} {code : Text} (h : line.code = some code) :
    line.heading? = Heading.of? code := by
  simp [Line.heading?, h]

theorem net_eq_netOf (lines : List Line) : net lines = netOf (codesOf lines) := by
  induction lines with
  | nil => rfl
  | cons line lines ih =>
    cases hcode : line.code with
    | none => simp [ih, codesOf, hcode, Line.braces]
    | some code => simp [ih, codesOf, hcode, Line.braces, netOf]

theorem forall_line_of_codesOf {p : Line → Prop} {q : Text → Prop} {lines : List Line}
    (hnone : ∀ line : Line, line.code = none → p line)
    (hsome : ∀ (line : Line) (code : Text), line.code = some code → q code → p line)
    (h : ∀ code ∈ codesOf lines, q code) : ∀ line ∈ lines, p line := by
  intro line hline
  cases hcode : line.code with
  | none => exact hnone line hcode
  | some code => exact hsome line code hcode (h code (List.mem_filterMap.2 ⟨line, hline, hcode⟩))

theorem goesOn_of_codesOf {lines : List Line} (h : ∀ code ∈ codesOf lines, headingGoesOn code) :
    ∀ line ∈ lines, line.goesOn := by
  refine forall_line_of_codesOf ?_ ?_ h
  · intro line hcode
    simp [Line.goesOn, Line.braces, Line.endsInSemicolon, hcode]
  · intro line code hcode hgoes
    simpa [headingGoesOn, Line.goesOn, Line.braces_of_code hcode,
      Line.endsInSemicolon_of_code hcode] using hgoes

theorem heading?_of_codesOf {lines : List Line} (h : ∀ code ∈ codesOf lines, Heading.of? code = none) :
    ∀ line ∈ lines, line.heading? = none := by
  refine forall_line_of_codesOf ?_ ?_ h
  · intro line hcode
    simp [Line.heading?, hcode]
  · intro line code hcode hnone
    rw [Line.heading?_of_code hcode, hnone]

theorem exists_line_of_codesOf {lines : List Line} {before after : List Text} {code : Text}
    (h : codesOf lines = before ++ code :: after) :
    ∃ first line rest, lines = first ++ line :: rest ∧ line.code = some code ∧
      codesOf first = before ∧ codesOf rest = after := by
  obtain ⟨first, tail, rfl, hfirst, htail⟩ := List.filterMap_eq_append_iff.1 h
  obtain ⟨blank, line, rest, rfl, hblank, hcode, hrest⟩ := List.filterMap_eq_cons_iff.1 htail
  refine ⟨first ++ blank, line, rest, by simp, hcode, ?_, hrest⟩
  simpa [codesOf, List.filterMap_append, List.filterMap_eq_nil_iff.2 hblank] using hfirst

theorem exists_lines_of_codesOf {lines : List Line} {codes rest : List Text}
    (h : codesOf lines = codes ++ rest) :
    ∃ first after, lines = first ++ after ∧ codesOf first = codes ∧ codesOf after = rest ∧
      ∀ line ∈ first.getLast?, line.code.isSome := by
  rcases List.eq_nil_or_concat codes with rfl | ⟨init, last, rfl⟩
  · exact ⟨[], lines, rfl, rfl, h, by simp⟩
  · rw [List.concat_eq_append, List.append_assoc] at h
    obtain ⟨first, line, after, rfl, hcode, hfirst, hafter⟩ := exists_line_of_codesOf h
    refine ⟨first ++ [line], after, by simp, ?_, hafter, by simp [hcode]⟩
    have hline : codesOf [line] = [last] := by simp [codesOf, hcode]
    rw [codesOf, List.filterMap_append, ← codesOf, ← codesOf, hfirst, hline, List.concat_eq_append]

/-- Rows of comment before lines that have a division are parts outside of every block. -/
theorem Divides.append_blank {blank lines : List Line} {parts : List Part}
    (hblank : codesOf blank = []) (h : Divides lines parts) :
    Divides (blank ++ lines) (blank.map Part.outside ++ parts) := by
  induction blank with
  | nil => exact h
  | cons line blank ih =>
    have hcodes := List.filterMap_eq_nil_iff.1 hblank
    obtain ⟨hline, hrest⟩ := List.forall_mem_cons.1 hcodes
    exact .outside (by simp [Line.heading?, hline]) (ih (List.filterMap_eq_nil_iff.2 hrest))

/-! ## From items to a division -/

theorem exists_heading_of_codesOf {lines : List Line} {heading rest : List Text} {last : Text}
    (h : codesOf lines = heading ++ last :: rest) (hbegins : BeginsOnce (heading ++ [last])) :
    ∃ blank front line after unit, lines = blank ++ (front ++ line :: after) ∧
      codesOf blank = [] ∧ codesOf front = heading ∧ line.code = some last ∧
      codesOf after = rest ∧ (heading ++ [last]).head?.bind Heading.of? = some unit ∧
      Begins unit (front ++ [line]) := by
  cases heading with
  | nil =>
    obtain ⟨unit, hunit⟩ := Option.isSome_iff_exists.1 hbegins.1
    obtain ⟨blank, line, after, rfl, hcode, hblank, hafter⟩ := exists_line_of_codesOf h
    exact ⟨blank, [], line, after, unit, rfl, hblank, rfl, hcode, hafter, hunit,
      by rw [Line.heading?_of_code hcode, hunit], by simp⟩
  | cons first heading =>
    obtain ⟨unit, hunit⟩ := Option.isSome_iff_exists.1 hbegins.1
    obtain ⟨hothers, hlast⟩ := List.forall_mem_append.1 hbegins.2
    have hcodes : codesOf lines = [] ++ first :: (heading ++ last :: rest) := h
    obtain ⟨blank, start, tail, rfl, hstart, hblank, htail⟩ := exists_line_of_codesOf hcodes
    obtain ⟨mid, line, after, rfl, hcode, hmid, hafter⟩ := exists_line_of_codesOf htail
    refine ⟨blank, start :: mid, line, after, unit, rfl, hblank, ?_, hcode, hafter, hunit, ?_, ?_⟩
    · rw [codesOf, List.filterMap_cons_some hstart, ← codesOf, hmid]
    · rw [Line.heading?_of_code hstart, hunit]
    · refine List.forall_mem_append.2 ⟨heading?_of_codesOf (hmid.symm ▸ hothers), ?_⟩
      simpa [Line.heading?_of_code hcode] using hlast

/-- The count over the rows of code is the count over the lines: a beginning of the lines of a body
    holds some of its rows of code, and not all of them when a row of code ends the body. -/
theorem staysOpen_of_codesOf {brace : Line} {code : Text} {body : List Line}
    (hcode : brace.code = some code) (hlast : ∀ line ∈ body.getLast?, line.code.isSome)
    (h : ∀ n < (code :: codesOf body).length, 0 < n → 1 ≤ netOf ((code :: codesOf body).take n)) :
    StaysOpen (brace :: body) := by
  intro first rest heq hfirst hrest
  have hcodes : codesOf first ++ codesOf rest = code :: codesOf body := by
    rw [codesOf, codesOf, ← List.filterMap_append, ← heq, List.filterMap_cons_some hcode, codesOf]
  have hpos : 0 < (codesOf first).length := by
    rcases List.cons_eq_append_iff.1 heq with ⟨rfl, _⟩ | ⟨tail, rfl, _⟩
    · exact absurd rfl hfirst
    · simp [codesOf, hcode]
  -- the last of the lines is a row of code, so that the beginning does not have all of them
  have hrestCodes : 0 < (codesOf rest).length := by
    obtain ⟨init, last, rfl⟩ : ∃ init last, rest = init ++ [last] :=
      (List.eq_nil_or_concat rest).resolve_left hrest |>.imp fun _ h =>
        h.imp fun _ h => h.trans List.concat_eq_append
    have hend : (brace :: body).getLast? = some last := by rw [heq]; simp
    have hlastCode : last.code.isSome := by
      cases body with
      | nil => simp at hend; simp [← hend, hcode]
      | cons next body => exact hlast last (by simpa using hend)
    obtain ⟨text, htext⟩ := Option.isSome_iff_exists.1 hlastCode
    simp [codesOf, htext]
  have hlength := congrArg List.length hcodes
  rw [List.length_append] at hlength
  have := h (codesOf first).length (by omega) hpos
  rw [← hcodes, List.take_left] at this
  rwa [net_eq_netOf]

/-! ## The blocks of items -/

theorem exists_divides_of_items {items : List Item} (wellFormed : ∀ item ∈ items, item.WellFormed)
    {lines : List Line} (codes : codesOf lines = items.flatMap Item.codes) :
    ∃ parts, Divides lines parts ∧
      (parts.filterMap Part.block?).map Block.unit = items.filterMap Item.unit? := by
  induction items generalizing lines with
  | nil =>
    refine ⟨lines.map .outside, ?_, by simp [List.filterMap_map, Part.block?]⟩
    simpa using Divides.append_blank codes .nil
  | cons item items ih =>
    obtain ⟨hitem, hitems⟩ := List.forall_mem_cons.1 wellFormed
    have noBlocks : ∀ blank : List Line, (blank.map Part.outside).filterMap Part.block? = [] := by
      intro blank
      simp [List.filterMap_map, Part.block?]
    cases item with
    | plain code =>
      have hcodes : codesOf lines = [] ++ code :: items.flatMap Item.codes := codes
      obtain ⟨blank, line, after, rfl, hcode, hblank, hafter⟩ := exists_line_of_codesOf hcodes
      obtain ⟨parts, hparts, hunits⟩ := ih hitems hafter
      have hnone : line.heading? = none := by rw [Line.heading?_of_code hcode, hitem]
      refine ⟨_, (Divides.outside hnone hparts).append_blank hblank, ?_⟩
      simpa [noBlocks, List.filterMap_cons, Part.block?, Item.unit?] using hunits
    | declaration heading last =>
      obtain ⟨hbegins, hgoes, hbrace, hsemicolon⟩ := hitem
      have hcodes : codesOf lines = heading ++ last :: items.flatMap Item.codes := by
        simpa [Item.codes] using codes
      obtain ⟨blank, front, line, after, unit, rfl, hblank, hfront, hcode, hafter, -, hunit⟩ :=
        exists_heading_of_codesOf hcodes hbegins
      obtain ⟨parts, hparts, hunits⟩ := ih hitems hafter
      have hended : GivenUp (front ++ [line]) after :=
        .ended (goesOn_of_codesOf (hfront.symm ▸ hgoes))
          (by rw [Line.braces_of_code hcode, hbrace])
          (by simp [Line.endsInSemicolon_of_code hcode, hsemicolon])
      have hdivides := (Divides.dropped hunit hended hparts).append_blank hblank
      rw [List.append_assoc, List.singleton_append] at hdivides
      refine ⟨_, hdivides, ?_⟩
      simpa [noBlocks, List.filterMap_cons, Part.block?, Item.unit?] using hunits
    | definition heading brace body =>
      obtain ⟨hbegins, hgoes, hopens, hopen, hcloses⟩ := hitem
      have hcodes : codesOf lines = heading ++ brace :: (body ++ items.flatMap Item.codes) := by
        simpa [Item.codes] using codes
      obtain ⟨blank, front, line, after, unit, rfl, hblank, hfront, hcode, hafter, hunit?, hunit⟩ :=
        exists_heading_of_codesOf hcodes hbegins
      obtain ⟨bodyLines, rest, rfl, hbody, hrest, hlast⟩ := exists_lines_of_codesOf hafter
      obtain ⟨parts, hparts, hunits⟩ := ih hitems hrest
      have hdefinition : IsDefinition unit front line bodyLines rest :=
        { begins := hunit
          goesOn := goesOn_of_codesOf (hfront.symm ▸ hgoes)
          opens := by rw [Line.braces_of_code hcode]; exact hopens
          staysOpen := staysOpen_of_codesOf hcode hlast (hbody.symm ▸ hopen)
          closes := Or.inl (by
            rw [net_eq_netOf, codesOf, List.filterMap_cons_some hcode, ← codesOf, hbody]
            exact hcloses) }
      have hdivides := (Divides.definition hdefinition hparts).append_blank hblank
      rw [List.append_assoc, List.cons_append] at hdivides
      have hitemUnit : (Item.definition heading brace body).unit? = some unit := hunit?
      refine ⟨_, hdivides, ?_⟩
      simpa [noBlocks, List.filterMap_cons, Part.block?, hitemUnit, definitionBlock_unit] using hunits

/-- **A file has a block for each of its definitions.**  When the rows of code of a file are those of
    some items one after another, a scan returns one block for every definition among them, of the
    kind and name that its first row gives, in order, and none for anything else. -/
theorem blocks_of_items (rows : List Row) (items : List Item)
    (wellFormed : ∀ item ∈ items, item.WellFormed)
    (codes : codesOf (linesOf false rows) = items.flatMap Item.codes) :
    (({} : State).run rows).blocks.map Block.unit = items.filterMap Item.unit? := by
  obtain ⟨parts, hparts, hunits⟩ := exists_divides_of_items wellFormed codes
  have hstart : ({} : State).AtPart (linesOf false rows) := Or.inl rfl
  rw [← hunits, State.run_eq_runLines]
  exact congrArg (List.map Block.unit) (State.runLines_of_divides hparts hstart).1

/-- The rows of a file with an interface declaration on two rows, a definition whose heading and body
    run on over rows of comment, and a one-line definition. -/
def shopRows : List Row :=
  ["contract Shop \x7b", "function open(", ") external;", "/* pays", "out */ function pay(uint a)",
    "// to the owner", "public \x7b", "if (a > 0) \x7b b = \"\x7d\"; \x7d", "function inner(", "\x7d",
    "modifier once \x7b_;\x7d", "\x7d"].map fun source => ⟨none, .unknown, .unmarked, source.toList⟩

def shopItems : List Item :=
  [.plain "contract Shop \x7b".toList, .declaration ["function open(".toList] ") external;".toList,
    .definition ["function pay(uint a)".toList] "public \x7b".toList
      ["if (a > 0) \x7b b = \"\x7d\"; \x7d".toList, "function inner(".toList, "\x7d".toList],
    .definition [] "modifier once \x7b_;\x7d".toList [], .plain "\x7d".toList]

theorem blocks_of_shopItems :
    (∀ item ∈ shopItems, item.WellFormed) ∧
      codesOf (linesOf false shopRows) = shopItems.flatMap Item.codes ∧
      (({} : State).run shopRows).blocks.map Block.unit =
        [⟨.function, "pay".toList⟩, ⟨.modifier, "modifier:once".toList⟩] := by
  have wellFormed : ∀ item ∈ shopItems, item.WellFormed := by decide
  have codes : codesOf (linesOf false shopRows) = shopItems.flatMap Item.codes := by decide
  exact ⟨wellFormed, codes, (blocks_of_items shopRows shopItems wellFormed codes).trans (by decide)⟩

end FuzzCoverage.Scan
