import FuzzCoverage.Proofs.Scan.Line
import Mathlib.Tactic.Linarith
import Mathlib.Data.List.Basic
import Mathlib.Data.List.Infix

/-! # The division of a file

The parts that the lines of a file fall into, said without a scan: lines outside of every block,
declarations that are given up, and definitions with their bodies.

* `Divides lines parts` says that the lines are these parts, one after another; each part is held
  to the rule for its kind by the lines of it and, where it ends without an end of its own, by
  the line after it;
* `exists_divides`, `Divides.unique` — every list of lines has one division and no other;
* `State.runLines_of_divides` — a scan finds the blocks of any division, and its residue.

Extents are told by `net`, the braces that lines open less those that they close: a body goes on
while every beginning of it has a positive one. -/

namespace FuzzCoverage.Scan

open Solidity

/-- How many more braces the lines open than they close. -/
def net (lines : List Line) : Int :=
  (lines.map fun line => (line.braces.opens : Int) - line.braces.closes).sum

@[simp] theorem net_nil : net [] = 0 := rfl

@[simp] theorem net_cons (line : Line) (lines : List Line) :
    net (line :: lines) = line.braces.opens - line.braces.closes + net lines := by
  simp [net]

@[simp] theorem net_append (first rest : List Line) : net (first ++ rest) = net first + net rest := by
  simp [net]

/-- Whether a heading goes on after the line: no brace opens on it, and no semicolon ends it. -/
def Line.goesOn (line : Line) : Bool := line.braces.opens == 0 && !line.endsInSemicolon

/-- The first line begins the unit, and no other line begins one. -/
def Begins (unit : Heading) : List Line → Prop
  | [] => False
  | first :: others => first.heading? = some unit ∧ ∀ line ∈ others, line.heading? = none

theorem Begins.of_append {unit : Heading} {first rest : List Line} (h : Begins unit (first ++ rest))
    (hfirst : first ≠ []) : Begins unit first := by
  cases first with
  | nil => exact absurd rfl hfirst
  | cons line first => exact ⟨h.1, fun line' hline' => h.2 line' (List.mem_append_left _ hline')⟩

/-- Every beginning of the lines, short of all of them, leaves a brace open. -/
def StaysOpen (lines : List Line) : Prop :=
  ∀ first rest, lines = first ++ rest → first ≠ [] → rest ≠ [] → 1 ≤ net first

theorem staysOpen_iff {lines : List Line} :
    StaysOpen lines ↔ ∀ first ∈ lines.inits, first ≠ [] → first ≠ lines → 1 ≤ net first := by
  constructor
  · intro h first hinits hfirst hall
    obtain ⟨rest, heq⟩ := (List.mem_inits _ _).1 hinits
    refine h first rest heq.symm hfirst ?_
    rintro rfl
    exact hall (by simpa using heq)
  · intro h first rest heq hfirst hrest
    refine h first ((List.mem_inits _ _).2 ⟨rest, heq.symm⟩) hfirst ?_
    rintro rfl
    exact hrest (by simpa using heq)

/-- Why a declaration has no body, where `rest` are the lines after it. -/
inductive GivenUp : List Line → List Line → Prop
  | ended {lines rest : List Line} {last : Line} (goesOn : ∀ line ∈ lines, line.goesOn)
      (noBrace : last.braces.opens = 0) (semicolon : last.endsInSemicolon) :
      GivenUp (lines ++ [last]) rest
  /-- The next line begins a unit, or there is none. -/
  | cut {lines rest : List Line} (goesOn : ∀ line ∈ lines, line.goesOn)
      (next : ∀ line ∈ rest.head?, line.heading?.isSome) : GivenUp lines rest

/-- The lines of a definition, where `rest` are those after it: a heading up to the line with the
    first opening brace, and the lines from there on until no brace is left open. -/
structure IsDefinition (unit : Heading) (heading : List Line) (brace : Line) (body rest : List Line) :
    Prop where
  begins : Begins unit (heading ++ [brace])
  goesOn : ∀ line ∈ heading, line.goesOn
  opens : 0 < brace.braces.opens
  staysOpen : StaysOpen (brace :: body)
  /-- A body that is still open is cut off by the end of the file. -/
  closes : net (brace :: body) ≤ 0 ∨ rest = []

/-- The block of a definition, with all of its lines and what its heading says. -/
def definitionBlock (unit : Heading) (heading : List Line) (brace : Line) (body : List Line) : Block :=
  (unit.block.mark (heading ++ [brace])).readAll (heading ++ brace :: body)

theorem definitionBlock_unit (unit : Heading) (heading : List Line) (brace : Line)
    (body : List Line) : (definitionBlock unit heading brace body).complete.unit = unit :=
  Block.readAll_unit (unit.block.mark (heading ++ [brace])) _

/-- A stretch of lines that belong together. -/
inductive Part where
  | outside (line : Line)
  /-- A declaration without a body. -/
  | dropped (lines : List Line)
  /-- A definition: the lines before the first brace, the line with that brace, and those after. -/
  | definition (unit : Heading) (heading : List Line) (brace : Line) (body : List Line)

namespace Part

def lines : Part → List Line
  | .outside line => [line]
  | .dropped lines => lines
  | .definition _ heading brace body => heading ++ brace :: body

def block? : Part → Option Block
  | .definition unit heading brace body =>
    some (definitionBlock unit heading brace body).complete
  | _ => none

/-- The lines that a part adds to the residue of the file. -/
def residue : Part → List Line
  | .outside line => if line.isResidue then [line] else []
  | _ => []

end Part

/-- The lines are the lines of the parts, and every part is one of its kind. -/
inductive Divides : List Line → List Part → Prop
  | nil : Divides [] []
  | outside {line : Line} {rest : List Line} {parts : List Part} (begins : line.heading? = none)
      (divides : Divides rest parts) : Divides (line :: rest) (.outside line :: parts)
  | dropped {unit : Heading} {lines rest : List Line} {parts : List Part}
      (begins : Begins unit lines) (givenUp : GivenUp lines rest)
      (divides : Divides rest parts) : Divides (lines ++ rest) (.dropped lines :: parts)
  | definition {unit : Heading} {heading body rest : List Line} {brace : Line} {parts : List Part}
      (isDefinition : IsDefinition unit heading brace body rest) (divides : Divides rest parts) :
      Divides (heading ++ brace :: body ++ rest) (.definition unit heading brace body :: parts)

theorem Divides.flatMap_lines {lines : List Line} {parts : List Part} (h : Divides lines parts) :
    parts.flatMap Part.lines = lines := by
  induction h with
  | nil => rfl
  | outside _ _ ih => simp [Part.lines, ih]
  | dropped _ _ _ ih => simp [Part.lines, ih]
  | definition _ _ ih => simp [Part.lines, ih]

/-- A definition whose first line holds the brace, and that takes up all of the lines. -/
theorem divides_definition {unit : Heading} {brace : Line} {body : List Line}
    (begins : brace.heading? = some unit) (opens : 0 < brace.braces.opens)
    (staysOpen : StaysOpen (brace :: body)) :
    Divides (brace :: body) [.definition unit [] brace body] := by
  have hdefinition : IsDefinition unit [] brace body [] :=
    { begins := ⟨begins, by simp⟩
      goesOn := by simp
      opens := opens
      staysOpen := staysOpen
      closes := Or.inr rfl }
  have hdivides := Divides.definition hdefinition .nil
  rwa [List.append_nil] at hdivides

/-! ## Every file has a division -/

/-- A heading goes on up to a line that is its last one, or up to the end. -/
theorem exists_heading (lines : List Line) :
    (∀ line ∈ lines, line.heading? = none ∧ line.goesOn) ∨
      ∃ heading last rest, lines = heading ++ last :: rest ∧
        (∀ line ∈ heading, line.heading? = none ∧ line.goesOn) ∧
        (last.heading? = none → last.goesOn = false) := by
  induction lines with
  | nil => exact Or.inl (by simp)
  | cons line lines ih =>
    by_cases hline : line.heading? = none ∧ line.goesOn
    · rcases ih with hall | ⟨heading, last, rest, rfl, hheading, hlast⟩
      · exact Or.inl (List.forall_mem_cons.2 ⟨hline, hall⟩)
      · exact Or.inr ⟨line :: heading, last, rest, rfl, List.forall_mem_cons.2 ⟨hline, hheading⟩,
          hlast⟩
    · refine Or.inr ⟨[], line, lines, rfl, by simp, fun hnone => ?_⟩
      simpa [hnone] using hline

/-- Lines are a body up to the one on which no brace is left open, or up to the end. -/
theorem exists_body (depth : Int) (line : Line) (lines : List Line) :
    ∃ body rest, lines = body ++ rest ∧
      (∀ first last, line :: body = first ++ last → first ≠ [] → last ≠ [] →
        1 ≤ depth + net first) ∧
      (depth + net (line :: body) ≤ 0 ∨ rest = []) := by
  induction lines generalizing depth line with
  | nil =>
    refine ⟨[], [], rfl, ?_, Or.inr rfl⟩
    intro first last heq hfirst hlast
    rcases List.cons_eq_append_iff.1 heq with ⟨rfl, _⟩ | ⟨tail, _, htail⟩
    · exact absurd rfl hfirst
    · simp [hlast] at htail
  | cons next lines ih =>
    by_cases hclosed : depth + net [line] ≤ 0
    · refine ⟨[], next :: lines, rfl, ?_, Or.inl hclosed⟩
      intro first last heq hfirst hlast
      rcases List.cons_eq_append_iff.1 heq with ⟨rfl, _⟩ | ⟨tail, _, htail⟩
      · exact absurd rfl hfirst
      · simp [hlast] at htail
    · obtain ⟨body, rest, rfl, hopen, hend⟩ := ih (depth + net [line]) next
      refine ⟨next :: body, rest, rfl, ?_, ?_⟩
      · intro first last heq hfirst hlast
        rcases List.cons_eq_append_iff.1 heq with ⟨rfl, _⟩ | ⟨tail, rfl, htail⟩
        · exact absurd rfl hfirst
        · cases tail with
          | nil => omega
          | cons second tail =>
            have := hopen (second :: tail) last htail (by simp) hlast
            simp only [net_cons, net_nil] at this ⊢
            omega
      · rcases hend with hend | hend
        · left
          simp only [net_cons, net_nil] at hend ⊢
          omega
        · exact Or.inr hend

theorem Line.goesOn_eq_false {line : Line} (h : line.goesOn = false) :
    0 < line.braces.opens ∨ line.braces.opens = 0 ∧ line.endsInSemicolon := by
  rcases Nat.eq_zero_or_pos line.braces.opens with hzero | hpos
  · exact Or.inr ⟨hzero, by simpa [Line.goesOn, hzero] using h⟩
  · exact Or.inl hpos

theorem exists_definition {unit : Heading} {heading : List Line} {brace : Line}
    (begins : Begins unit (heading ++ [brace])) (goesOn : ∀ line ∈ heading, line.goesOn)
    (opens : 0 < brace.braces.opens) (lines : List Line) :
    ∃ body rest, lines = body ++ rest ∧ IsDefinition unit heading brace body rest := by
  obtain ⟨body, rest, hlines, hopen, hend⟩ := exists_body 0 brace lines
  refine ⟨body, rest, hlines, ?_⟩
  refine { begins, goesOn, opens, staysOpen := ?_, closes := ?_ }
  · intro first last heq hfirst hlast
    simpa using hopen first last heq hfirst hlast
  · simpa using hend

theorem exists_divides_of_last {unit : Heading} {heading : List Line} {last : Line}
    (begins : Begins unit (heading ++ [last])) (goesOn : ∀ line ∈ heading, line.goesOn)
    (ends : last.goesOn = false) (rest : List Line)
    (shorter : ∀ tail : List Line, tail.length ≤ rest.length → ∃ parts, Divides tail parts) :
    ∃ parts, Divides (heading ++ last :: rest) parts := by
  rcases Line.goesOn_eq_false ends with hopens | ⟨hzero, hsemicolon⟩
  · obtain ⟨body, tail, rfl, hdefinition⟩ := exists_definition begins goesOn hopens rest
    obtain ⟨parts, hparts⟩ := shorter tail (by simp)
    have hdivides := Divides.definition hdefinition hparts
    rw [List.append_assoc, List.cons_append] at hdivides
    exact ⟨_, hdivides⟩
  · obtain ⟨parts, hparts⟩ := shorter rest le_rfl
    have hdivides := Divides.dropped begins (.ended goesOn hzero hsemicolon) hparts
    rw [List.append_assoc, List.singleton_append] at hdivides
    exact ⟨_, hdivides⟩

theorem exists_divides (lines : List Line) : ∃ parts, Divides lines parts := by
  -- on the number of lines, since the first part is never empty
  induction hlength : lines.length using Nat.strong_induction_on generalizing lines with
  | _ n ih =>
    have shorter : ∀ rest : List Line, rest.length < n → ∃ parts, Divides rest parts :=
      fun rest hrest => ih rest.length hrest rest rfl
    cases lines with
    | nil => exact ⟨[], .nil⟩
    | cons first lines =>
      simp only [List.length_cons] at hlength
      cases hfirst : first.heading? with
      | none =>
        -- a line outside of every block
        obtain ⟨parts, hparts⟩ := shorter lines (by omega)
        exact ⟨_, .outside hfirst hparts⟩
      | some unit =>
        cases hgoes : first.goesOn with
        | false =>
          have hbegins : Begins unit ([] ++ [first]) := ⟨hfirst, by simp⟩
          exact exists_divides_of_last hbegins (by simp) hgoes lines
            fun tail htail => shorter tail (by omega)
        | true =>
          rcases exists_heading lines with hall | ⟨heading, last, rest, rfl, hheading, hlast⟩
          · -- the file ends within the heading
            have hbegins : Begins unit (first :: lines) := ⟨hfirst, fun line hl => (hall line hl).1⟩
            have hcut : GivenUp (first :: lines) [] :=
              .cut (List.forall_mem_cons.2 ⟨hgoes, fun line hl => (hall line hl).2⟩) (by simp)
            have hdivides := Divides.dropped hbegins hcut .nil
            rw [List.append_nil] at hdivides
            exact ⟨_, hdivides⟩
          have hbegins : Begins unit (first :: heading) :=
            ⟨hfirst, fun line hl => (hheading line hl).1⟩
          have hall : ∀ line ∈ first :: heading, line.goesOn :=
            List.forall_mem_cons.2 ⟨hgoes, fun line hl => (hheading line hl).2⟩
          simp only [List.length_append, List.length_cons] at hlength
          cases hunit : last.heading? with
          | some next =>
            -- another unit begins before the body
            obtain ⟨parts, hparts⟩ := shorter (last :: rest) (by simp; omega)
            exact ⟨_, .dropped hbegins (.cut hall (by simp [hunit])) hparts⟩
          | none =>
            have hbegins' : Begins unit (first :: heading ++ [last]) :=
              ⟨hfirst, List.forall_mem_append.2 ⟨hbegins.2, by simpa using hunit⟩⟩
            exact exists_divides_of_last hbegins' hall (hlast hunit) rest
              fun tail htail => shorter tail (by omega)

/-! ## A file has one division -/

/-- Where a heading ends, if `rest` are the lines after it: at the first line that does not go on, or
    before a line that begins a unit. -/
structure HeadingEnds (heading rest : List Line) : Prop where
  goesOn : ∀ line ∈ heading.dropLast, line.goesOn
  ends : (∃ last ∈ heading.getLast?, last.goesOn = false) ∨
    ∀ line ∈ rest.head?, line.heading?.isSome

theorem GivenUp.headingEnds {lines rest : List Line} (h : GivenUp lines rest) :
    HeadingEnds lines rest := by
  cases h with
  | @ended lines _ last goesOn _ semicolon =>
    exact ⟨by simpa using goesOn, Or.inl ⟨last, by simp, by simp [Line.goesOn, semicolon]⟩⟩
  | cut goesOn next =>
    exact ⟨fun line hline => goesOn line (List.mem_of_mem_dropLast hline), Or.inr next⟩

section

variable {unit unit' : Heading} {heading heading' body body' rest rest' more : List Line}
  {line brace brace' : Line}

theorem IsDefinition.headingEnds (h : IsDefinition unit heading brace body rest) :
    HeadingEnds (heading ++ [brace]) (body ++ rest) :=
  ⟨by simpa using h.goesOn, Or.inl ⟨brace, by simp, by simp [Line.goesOn, Nat.ne_of_gt h.opens]⟩⟩

theorem Begins.exists_cons (h : Begins unit heading) :
    ∃ first others, heading = first :: others ∧ first.heading? = some unit := by
  cases heading with
  | nil => exact h.elim
  | cons first others => exact ⟨first, others, rfl, h.1⟩

/-- A heading that ends is no proper beginning of another. -/
theorem HeadingEnds.eq_nil_of_append (h : HeadingEnds heading (more ++ rest))
    (h' : HeadingEnds (heading ++ more) rest) (hbegins : Begins unit heading)
    (hbegins' : Begins unit' (heading ++ more)) : more = [] := by
  cases more with
  | nil => rfl
  | cons next more =>
    exfalso
    rcases h.ends with ⟨last, hlast, hends⟩ | hnext
    · have hmem : last ∈ (heading ++ next :: more).dropLast := by
        rw [List.dropLast_append_of_ne_nil (List.cons_ne_nil _ _)]
        exact List.mem_append_left _ (List.mem_of_getLast? hlast)
      rw [h'.goesOn last hmem] at hends
      cases hends
    · obtain ⟨first, others, rfl, -⟩ := hbegins.exists_cons
      have hnone : next.heading? = none := hbegins'.2 next (by simp)
      have hsome : next.heading?.isSome := hnext next rfl
      rw [hnone] at hsome
      cases hsome

theorem HeadingEnds.eq_of_append_eq (h : HeadingEnds heading rest) (h' : HeadingEnds heading' rest')
    (hbegins : Begins unit heading) (hbegins' : Begins unit' heading')
    (heq : heading ++ rest = heading' ++ rest') : heading = heading' ∧ rest = rest' := by
  rcases List.append_eq_append_iff.1 heq with ⟨more, rfl, rfl⟩ | ⟨more, rfl, rfl⟩
  · obtain rfl := h.eq_nil_of_append h' hbegins hbegins'
    simp
  · obtain rfl := h'.eq_nil_of_append h hbegins' hbegins
    simp

/-- A body that is closed is no proper beginning of another. -/
theorem IsDefinition.body_eq_nil_of_append (h : IsDefinition unit heading brace body (more ++ rest))
    (hopen : StaysOpen (brace :: (body ++ more))) : more = [] := by
  by_contra hmore
  have hnet : 1 ≤ net (brace :: body) := hopen (brace :: body) more rfl (List.cons_ne_nil _ _) hmore
  rcases h.closes with hclosed | hrest
  · omega
  · exact hmore (List.append_eq_nil_iff.1 hrest).1

theorem Begins.unit_eq (h : Begins unit heading) (h' : Begins unit' heading) : unit = unit' := by
  obtain ⟨first, others, rfl, hfirst⟩ := h.exists_cons
  exact Option.some.inj (hfirst.symm.trans h'.1)

theorem IsDefinition.eq_of_append_eq (h : IsDefinition unit heading brace body rest)
    (h' : IsDefinition unit' heading' brace' body' rest')
    (heq : heading ++ brace :: body ++ rest = heading' ++ brace' :: body' ++ rest') :
    Part.definition unit heading brace body = .definition unit' heading' brace' body' ∧ rest = rest' := by
  obtain ⟨hheading, hlines⟩ := h.headingEnds.eq_of_append_eq h'.headingEnds h.begins h'.begins
    (by simpa using heq)
  obtain ⟨rfl, hbrace⟩ := List.append_inj' hheading rfl
  obtain rfl := List.singleton_inj.1 hbrace
  obtain rfl := h.begins.unit_eq h'.begins
  rcases List.append_eq_append_iff.1 hlines with ⟨more, rfl, rfl⟩ | ⟨more, rfl, rfl⟩
  · obtain rfl := h.body_eq_nil_of_append h'.staysOpen
    simp
  · obtain rfl := h'.body_eq_nil_of_append h.staysOpen
    simp

/-- What is given up has no body. -/
theorem GivenUp.append_ne_definition (h : GivenUp heading rest) (hbegins : Begins unit heading)
    (h' : IsDefinition unit' heading' brace body rest') :
    heading ++ rest ≠ heading' ++ brace :: body ++ rest' := by
  intro heq
  obtain ⟨hheading, -⟩ := h.headingEnds.eq_of_append_eq h'.headingEnds hbegins h'.begins
    (by simpa using heq)
  have hopens := h'.opens
  cases h with
  | ended goesOn noBrace semicolon =>
    obtain rfl := List.singleton_inj.1 (List.append_inj' hheading rfl).2
    omega
  | cut goesOn next =>
    have hgoes := goesOn brace (by simp [hheading])
    simp [Line.goesOn, Nat.ne_of_gt hopens] at hgoes

theorem Begins.append_ne_cons (h : Begins unit heading) (hline : line.heading? = none) :
    heading ++ rest ≠ line :: rest' := by
  obtain ⟨first, others, rfl, hfirst⟩ := h.exists_cons
  intro heq
  obtain ⟨rfl, -⟩ := List.cons.inj heq
  rw [hline] at hfirst
  cases hfirst

end

theorem Divides.unique {lines : List Line} {parts parts' : List Part} (h : Divides lines parts)
    (h' : Divides lines parts') : parts = parts' := by
  -- the first part of the one is the first part of the other, and the rest is the same again
  generalize heq : lines = lines' at h'
  induction h generalizing lines' parts' with
  | nil =>
    cases h' with
    | nil => rfl
    | outside => cases heq
    | dropped begins =>
      obtain ⟨first, others, rfl, -⟩ := begins.exists_cons
      cases heq
    | definition => simp at heq
  | outside hnone divides ih =>
    cases h' with
    | nil => cases heq
    | outside _ divides' =>
      obtain ⟨rfl, hrest⟩ := List.cons.inj heq
      rw [ih _ hrest divides']
    | dropped begins => exact absurd heq.symm (begins.append_ne_cons hnone)
    | definition isDefinition =>
      rw [List.append_cons, List.append_assoc] at heq
      exact absurd heq.symm (isDefinition.begins.append_ne_cons hnone)
  | dropped begins givenUp divides ih =>
    cases h' with
    | nil =>
      obtain ⟨first, others, rfl, -⟩ := begins.exists_cons
      cases heq
    | outside hnone => exact absurd heq (begins.append_ne_cons hnone)
    | dropped begins' givenUp' divides' =>
      obtain ⟨rfl, hrest⟩ :=
        givenUp.headingEnds.eq_of_append_eq givenUp'.headingEnds begins begins' heq
      rw [ih _ hrest divides']
    | definition isDefinition => exact absurd heq (givenUp.append_ne_definition begins isDefinition)
  | definition isDefinition divides ih =>
    cases h' with
    | nil => simp at heq
    | outside hnone =>
      rw [List.append_cons, List.append_assoc] at heq
      exact absurd heq (isDefinition.begins.append_ne_cons hnone)
    | dropped begins givenUp => exact absurd heq.symm (givenUp.append_ne_definition begins isDefinition)
    | definition isDefinition' divides' =>
      obtain ⟨hpart, hrest⟩ := isDefinition.eq_of_append_eq isDefinition' heq
      rw [hpart, ih _ hrest divides']

/-! ## A scan finds the blocks of a division -/

namespace State

theorem declare_of_goesOn {s : State} {block : Block} {line : Line} (h : line.goesOn) :
    s.declare block line = { s with phase := .heading ((block.mark [line]).read line) } := by
  simp only [Line.goesOn, Bool.and_eq_true, beq_iff_eq, Bool.not_eq_true'] at h
  simp [declare, h.1, h.2]

theorem runLines_heading {s : State} {block : Block} {lines : List Line}
    (hs : s.phase = .heading block) (h : ∀ line ∈ lines, line.heading? = none ∧ line.goesOn) :
    s.runLines lines = { s with phase := .heading ((block.mark lines).readAll lines) } := by
  induction lines generalizing s block with
  | nil => simp [Block.mark, ← hs]
  | cons line lines ih =>
    obtain ⟨⟨hnone, hgoes⟩, hlines⟩ := List.forall_mem_cons.1 h
    rw [runLines_cons, stepLine_heading hs hnone, declare_of_goesOn hgoes, ih rfl hlines]
    rw [Block.mark_read_mark, Block.readAll_cons]

/-- A unit is read up to the last line of its heading as one heading, whatever the scan did before,
    unless it stood in a body. -/
theorem runLines_begins {s : State} {unit : Heading} {heading : List Line} {last : Line}
    (hs : ∀ block depth, s.phase ≠ .body block depth) (begins : Begins unit (heading ++ [last]))
    (goesOn : ∀ line ∈ heading, line.goesOn) :
    s.runLines (heading ++ [last]) =
      s.declare ((unit.block.mark heading).readAll heading) last := by
  cases heading with
  | nil =>
    simp only [List.nil_append, runLines_cons, runLines_nil, stepLine_start hs begins.1]
    simp [Block.mark]
  | cons first others =>
    obtain ⟨hfirst, hothers⟩ := begins
    obtain ⟨hgoes, hrest⟩ := List.forall_mem_cons.1 goesOn
    obtain ⟨hnone, hlast⟩ := List.forall_mem_append.1 hothers
    rw [List.cons_append, runLines_cons, stepLine_start hs hfirst, declare_of_goesOn hgoes,
      runLines_append, runLines_heading rfl fun line hl => ⟨hnone line hl, hrest line hl⟩]
    rw [Block.mark_read_mark, runLines_cons, runLines_nil, stepLine_heading rfl (by simpa using hlast),
      Block.readAll_cons]
    exact declare_withPhase _ _ _ _

/-- A line that opens or goes on with a body, and lines after it that go on with it: the block is
    closed with the last of them when that leaves no brace open. -/
theorem settle_runLines {s : State} {block : Block} {depth : Nat} {line : Line} {lines : List Line}
    (hopen : ∀ first rest, line :: lines = first ++ rest → first ≠ [] → rest ≠ [] →
      1 ≤ depth + net first) :
    (s.settle (block.read line) depth line.braces).runLines lines =
      if depth + net (line :: lines) ≤ 0 then s.close (block.readAll (line :: lines))
      else { s with phase := .body (block.readAll (line :: lines))
                               (depth + net (line :: lines)).toNat } := by
  induction lines generalizing s block depth line with
  | nil =>
    simp only [runLines_nil, settle, net_cons, net_nil, Block.readAll_cons, Block.readAll_nil]
    by_cases hclosed : depth + line.braces.opens ≤ line.braces.closes
    · rw [if_pos hclosed, if_pos (by omega)]
    · rw [if_neg hclosed, if_neg (by omega)]
      congr 2
      omega
  | cons next lines ih =>
    -- the body goes on after the line, with what the line leaves open
    have hline := hopen [line] (next :: lines) rfl (by simp) (by simp)
    simp only [net_cons, net_nil] at hline
    have hlt : line.braces.closes < depth + line.braces.opens := by omega
    have hdepth : ((depth + line.braces.opens - line.braces.closes : Nat) : Int) =
        depth + (line.braces.opens - line.braces.closes) := by omega
    rw [settle_of_lt hlt, runLines_cons, stepLine_body rfl (by omega), ih]
    · simp only [hdepth, net_cons, Block.readAll_cons, ← Int.add_assoc]
      rfl
    · intro first rest heq hfirst hrest
      have := hopen (line :: first) rest (by rw [heq, List.cons_append]) (by simp) hrest
      rw [net_cons] at this
      omega

/-- The state after a definition: its block is complete when no brace is left open, and still being
    read when the file ends before. -/
theorem runLines_definition {s : State} {unit : Heading} {heading body rest : List Line}
    {brace : Line} (hs : ∀ block depth, s.phase ≠ .body block depth)
    (h : IsDefinition unit heading brace body rest) :
    s.runLines (heading ++ brace :: body) =
      if net (brace :: body) ≤ 0 then s.close (definitionBlock unit heading brace body)
      else { s with phase := .body (definitionBlock unit heading brace body)
                      (net (brace :: body)).toNat } := by
  have hsplit : heading ++ brace :: body = heading ++ [brace] ++ body := by simp
  rw [hsplit, runLines_append, runLines_begins hs h.begins h.goesOn]
  simp only [declare, h.opens, if_true]
  rw [Block.mark_readAll, settle_runLines (by simpa [StaysOpen] using h.staysOpen)]
  simp [definitionBlock, Block.readAll_append, Block.mark_append]

/-- Where a scan can stand before lines that have a division: it is in no body, and when it waits in
    a heading, the lines begin another unit or there are none. -/
def AtPart (s : State) (lines : List Line) : Prop :=
  s.phase = .outside ∨ (∃ block, s.phase = .heading block) ∧ ∀ line ∈ lines.head?, line.heading?.isSome

theorem AtPart.notBody {s : State} {lines : List Line} (h : s.AtPart lines) (block : Block)
    (depth : Nat) : s.phase ≠ .body block depth := by
  rcases h with h | ⟨⟨other, h⟩, _⟩ <;> simp [h]

theorem AtPart.blocks {s : State} {lines : List Line} (h : s.AtPart lines) : s.blocks = s.closed := by
  rcases h with h | ⟨⟨other, h⟩, _⟩ <;> simp [State.blocks, h]

theorem runLines_dropped {s : State} {unit : Heading} {lines rest : List Line}
    (hs : ∀ block depth, s.phase ≠ .body block depth) (begins : Begins unit lines)
    (givenUp : GivenUp lines rest) :
    ∃ phase, s.runLines lines = { s with phase := phase } ∧
      { s with phase := phase }.AtPart rest := by
  cases givenUp with
  | ended goesOn noBrace semicolon =>
    refine ⟨.outside, ?_, Or.inl rfl⟩
    rw [runLines_begins hs begins goesOn]
    simp [declare, noBrace, semicolon]
  | cut goesOn next =>
    obtain ⟨init, last, rfl⟩ : ∃ init last, lines = init ++ [last] := by
      rcases List.eq_nil_or_concat lines with rfl | ⟨init, last, rfl⟩
      · exact begins.elim
      · exact ⟨init, last, List.concat_eq_append⟩
    obtain ⟨hinit, hlast⟩ := List.forall_mem_append.1 goesOn
    rw [runLines_begins hs begins hinit, declare_of_goesOn (hlast last (by simp))]
    exact ⟨_, rfl, Or.inr ⟨⟨_, rfl⟩, next⟩⟩

/-- **A scan finds the blocks of every division, in order, and its residue.** -/
theorem runLines_of_divides {lines : List Line} {parts : List Part} (h : Divides lines parts)
    {s : State} (hs : s.AtPart lines) :
    (s.runLines lines).blocks = s.closed ++ parts.filterMap Part.block? ∧
      (s.runLines lines).residue = s.residue.readAll (parts.flatMap Part.residue) := by
  induction h generalizing s with
  | nil => simp [hs.blocks]
  | @outside line rest parts begins _ ih =>
    have hphase : s.phase = .outside := by
      rcases hs with hs | ⟨_, hs⟩
      · exact hs
      · simp [begins] at hs
    have hnext : (s.stepLine line).AtPart rest :=
      Or.inl (by simp [stepLine_outside hphase begins, hphase])
    obtain ⟨hblocks, hresidue⟩ := ih hnext
    rw [stepLine_outside hphase begins] at hblocks hresidue
    rw [runLines_cons, stepLine_outside hphase begins]
    refine ⟨by simpa [List.filterMap_cons, Part.block?] using hblocks, ?_⟩
    rw [hresidue]
    cases hcounts : line.isResidue <;> simp [Part.residue, hcounts]
  | dropped begins givenUp _ ih =>
    obtain ⟨phase, hrun, hpart⟩ := runLines_dropped hs.notBody begins givenUp
    obtain ⟨hblocks, hresidue⟩ := ih hpart
    rw [runLines_append, hrun]
    exact ⟨by simpa [List.filterMap_cons, Part.block?] using hblocks, by simpa [Part.residue] using hresidue⟩
  | @definition unit heading body rest brace parts isDefinition _ ih =>
    rw [runLines_append, runLines_definition hs.notBody isDefinition]
    split
    · have hnext : (s.close (definitionBlock unit heading brace body)).AtPart rest := Or.inl rfl
      obtain ⟨hblocks, hresidue⟩ := ih hnext
      exact ⟨by simpa [List.filterMap_cons, Part.block?, close] using hblocks,
        by simpa [Part.residue, close] using hresidue⟩
    · -- the file ends within the body, so that there are no parts after it
      obtain rfl : rest = [] := isDefinition.closes.resolve_left ‹_›
      have hnext : { s with phase := .outside }.AtPart [] := Or.inl rfl
      obtain ⟨hblocks, hresidue⟩ := ih hnext
      simp only [runLines_nil, State.blocks] at hblocks hresidue
      refine ⟨?_, by simpa [Part.residue] using hresidue⟩
      simpa [State.blocks, Part.block?] using hblocks

theorem run_of_divides {rows : List Trace.Row} {parts : List Part}
    (h : Divides (linesOf false rows) parts) :
    (({} : State).run rows).blocks = parts.filterMap Part.block? ∧
      (({} : State).run rows).residue = Block.outside.readAll (parts.flatMap Part.residue) := by
  have hstart : ({} : State).AtPart (linesOf false rows) := Or.inl rfl
  rw [run_eq_runLines]
  exact runLines_of_divides h hstart

end State

end FuzzCoverage.Scan
