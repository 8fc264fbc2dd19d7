import FuzzCoverage.Proofs.Solidity.FunctionSearch

/-! # Headings of modifiers

A modifier's heading is the keyword, a name, perhaps a list of parameters, and any number of
attributes; the body follows, or a semicolon where there is none.

* `ModifierHeading` is such a heading with its blanks, as the language has it, on one row with whatever
  the row goes on with;
* `modifier?_text`: the name is found exactly if a list of parameters stands behind it, or else neither
  an attribute nor a semicolon does;
* `of?_text_iff`: a row with a heading begins the unit of its modifier exactly in these cases, unless a
  function begins behind the brace or the semicolon. -/

namespace FuzzCoverage.Solidity

open Text Heading

/-! ## The headings of the language -/

/-- A list in parentheses, with the blanks before it. -/
structure BracketedList where
  blanks : Text
  inside : Text
  deriving DecidableEq, Repr

/-- What may stand in a modifier's heading behind the parameters. -/
inductive ModifierAttribute where
  | virtual
  | override (bases : Option BracketedList)
  deriving DecidableEq, Repr

/-- How a heading ends, and what the row goes on with. -/
inductive HeadingEnd where
  | row
  | semicolon (after : Text)
  | body (after : Text)
  deriving DecidableEq, Repr

/-- A row with the heading of a modifier. -/
structure ModifierHeading where
  /-- The blanks behind the keyword. -/
  blanks : Text
  name : Text
  parameters : Option BracketedList
  /-- Each with the blanks before it. -/
  attributes : List (Text × ModifierAttribute)
  blanksAtEnd : Text
  ending : HeadingEnd
  deriving DecidableEq, Repr

namespace BracketedList

def text (list : BracketedList) : Text := list.blanks ++ '(' :: (list.inside ++ [')'])

def optionText (list? : Option BracketedList) : Text := (list?.map text).getD []

/-- The word `function` stands only for types in the list: no function of a name begins there. -/
structure WellFormed (list : BracketedList) : Prop where
  blanks : list.blanks.allBlank
  noFunction : findFunction? false list.inside = none

end BracketedList

namespace ModifierAttribute

def word : ModifierAttribute → Text
  | .virtual => "virtual".toList
  | .override _ => "override".toList

def list? : ModifierAttribute → Option BracketedList
  | .virtual => none
  | .override bases => bases

def text (a : ModifierAttribute) : Text := a.word ++ BracketedList.optionText a.list?

end ModifierAttribute

namespace HeadingEnd

def text : HeadingEnd → Text
  | .row => []
  | .semicolon after => ';' :: after
  | .body after => '\x7b' :: after

def after : HeadingEnd → Text
  | .row => []
  | .semicolon after => after
  | .body after => after

def isSemicolon : HeadingEnd → Bool
  | .semicolon _ => true
  | _ => false

end HeadingEnd

namespace ModifierHeading

def attributesText (attributes : List (Text × ModifierAttribute)) : Text :=
  attributes.flatMap fun (blanks, a) => blanks ++ a.text

/-- What stands behind the name. -/
def afterName (h : ModifierHeading) : Text :=
  BracketedList.optionText h.parameters ++ (attributesText h.attributes ++ (h.blanksAtEnd ++ h.ending.text))

def text (h : ModifierHeading) : Text := "modifier".toList ++ (h.blanks ++ (h.name ++ h.afterName))

/-- Whether attributes have blanks before them, which they need unless they stand behind a
    parenthesis, and their lists are well-formed. -/
def AttributesWellFormed : Bool → List (Text × ModifierAttribute) → Prop
  | _, [] => True
  | behindList, (blanks, a) :: rest =>
    blanks.allBlank ∧ (behindList ∨ blanks ≠ []) ∧ (∀ list ∈ a.list?, list.WellFormed) ∧
      AttributesWellFormed a.list?.isSome rest

/-- Blanks are blanks, and stand where two words would grow together without them. -/
structure WellFormed (h : ModifierHeading) : Prop where
  blanks : h.blanks.allBlank
  apart : h.blanks ≠ []
  name : isIdentifier h.name
  parameters : ∀ list ∈ h.parameters, list.WellFormed
  attributes : AttributesWellFormed h.parameters.isSome h.attributes
  blanksAtEnd : h.blanksAtEnd.allBlank

/-- Whether a list of parameters stands behind the name, or the body, or nothing more on the row. -/
def isRecognised (h : ModifierHeading) : Bool :=
  h.parameters.isSome || h.attributes.isEmpty && !h.ending.isSemicolon

end ModifierHeading

/-! ## What stands at the beginning of a part -/

theorem Breaks.ne_f {t : Text} (h : Breaks t) : ∀ c ∈ t.head?, c ≠ 'f' := by
  rintro c hc rfl
  exact absurd (h 'f' hc) (by decide)

theorem breaks_cons_of_isBlank {c : Char} (h : isBlank c) (t : Text) : Breaks (c :: t) := by
  rintro d ⟨⟩
  refine Bool.eq_false_iff.2 fun hword => ?_
  rw [not_isBlank_of_inIdentifier hword] at h
  cases h

theorem breaks_blanks {blanks t : Text} (h : blanks.allBlank) (ht : blanks = [] → Breaks t) :
    Breaks (blanks ++ t) := by
  cases blanks with
  | nil => exact ht rfl
  | cons c blanks =>
    rw [allBlank, List.all_cons, Bool.and_eq_true] at h
    exact breaks_cons_of_isBlank h.1 _

theorem breaks_optionText {list? : Option BracketedList} (h : ∀ list ∈ list?, list.WellFormed) {t : Text}
    (ht : list? = none → Breaks t) : Breaks (BracketedList.optionText list? ++ t) := by
  cases list? with
  | none => exact ht rfl
  | some list =>
    simp only [BracketedList.optionText, Option.map_some, Option.getD_some, BracketedList.text,
      List.append_assoc, List.cons_append]
    refine breaks_blanks (h list rfl).blanks fun _ => ?_
    rintro c ⟨⟩
    decide

theorem HeadingEnd.breaks_text (ending : HeadingEnd) : Breaks ending.text := by
  cases ending with
  | row => exact fun c hc => nomatch hc
  | semicolon after =>
    rintro c ⟨⟩
    decide
  | body after =>
    rintro c ⟨⟩
    decide

namespace ModifierHeading

variable {attributes : List (Text × ModifierAttribute)} {t : Text}

theorem attributesText_cons (blanks : Text) (a : ModifierAttribute) (rest : List (Text × ModifierAttribute))
    (t : Text) :
    attributesText ((blanks, a) :: rest) ++ t =
      blanks ++ (a.word ++ (BracketedList.optionText a.list? ++ (attributesText rest ++ t))) := by
  simp [attributesText, ModifierAttribute.text]

theorem breaks_attributesText (h : AttributesWellFormed false attributes) (ht : Breaks t) :
    Breaks (attributesText attributes ++ t) := by
  cases attributes with
  | nil => exact ht
  | cons first rest =>
    obtain ⟨blanks, a⟩ := first
    obtain ⟨hblanks, hapart, -, -⟩ := h
    rw [attributesText_cons]
    exact breaks_blanks hblanks fun hnone => absurd hnone (hapart.resolve_left Bool.false_ne_true)

theorem WellFormed.breaks_end {h : ModifierHeading} (hwell : h.WellFormed) :
    Breaks (h.blanksAtEnd ++ h.ending.text) :=
  breaks_blanks hwell.blanksAtEnd fun _ => h.ending.breaks_text

theorem WellFormed.breaks_afterName {h : ModifierHeading} (hwell : h.WellFormed) : Breaks h.afterName := by
  refine breaks_optionText hwell.parameters fun hnone => ?_
  have hattributes := hwell.attributes
  rw [hnone] at hattributes
  exact breaks_attributesText hattributes hwell.breaks_end

end ModifierHeading

/-! ## Where no function begins -/

theorem separates_closing : Separates ')' := ⟨by decide, by decide, by decide⟩

theorem findFunction?_list {list : BracketedList} (h : list.WellFormed) (t : Text) :
    findFunction? false (list.text ++ t) = findFunction? false t := by
  have hsplit : list.text ++ t = list.blanks ++ '(' :: (list.inside ++ ')' :: t) := by
    simp [BracketedList.text]
  rw [hsplit, findFunction?_blanks h.blanks, findFunction?_cons (functionHere?_cons_of_ne (by decide) _),
    show isWord '(' = false by decide, findFunction?_append_cons separates_closing, h.noFunction]
  rfl

theorem findFunction?_optionText {list? : Option BracketedList} (h : ∀ list ∈ list?, list.WellFormed)
    (t : Text) :
    findFunction? false (BracketedList.optionText list? ++ t) = findFunction? false t := by
  cases list? with
  | none => rfl
  | some list => exact findFunction?_list (h list rfl) t

theorem HeadingEnd.findFunction?_text (ending : HeadingEnd) :
    findFunction? false ending.text = findFunction? false ending.after := by
  cases ending with
  | row => rfl
  | semicolon after => exact findFunction?_cons (functionHere?_cons_of_ne (by decide) _) false
  | body after => exact findFunction?_cons (functionHere?_cons_of_ne (by decide) _) false

namespace ModifierHeading

theorem findFunction?_attributesText {behindList : Bool} {attributes : List (Text × ModifierAttribute)}
    (h : AttributesWellFormed behindList attributes) {t : Text} (ht : Breaks t) :
    findFunction? false (attributesText attributes ++ t) = findFunction? false t := by
  induction attributes generalizing behindList with
  | nil => rfl
  | cons first rest ih =>
    obtain ⟨blanks, a⟩ := first
    obtain ⟨hblanks, -, hlist, hrest⟩ := h
    have hword : 'f' ∉ a.word := by
      cases a with
      | virtual => decide
      | override bases =>
        show 'f' ∉ "override".toList
        decide
    have hbreaks : Breaks (BracketedList.optionText a.list? ++ (attributesText rest ++ t)) := by
      refine breaks_optionText hlist fun hnone => ?_
      rw [hnone] at hrest
      exact breaks_attributesText hrest ht
    rw [attributesText_cons, findFunction?_blanks hblanks, findFunction?_letters hword hbreaks.ne_f,
      findFunction?_optionText hlist, ih hrest]

variable {h : ModifierHeading}

theorem head?_attributesText_cons {first : Text × ModifierAttribute} {rest : List (Text × ModifierAttribute)}
    {behindList : Bool} (h : AttributesWellFormed behindList (first :: rest)) (t : Text) :
    ∃ c, (attributesText (first :: rest) ++ t).trimStart.head? = some c ∧ c ≠ '(' ∧ c ≠ '\x7b' := by
  -- the blanks go, and the attribute begins with a letter
  obtain ⟨blanks, a⟩ := first
  rw [attributesText_cons, trimStart_append_of_allBlank h.1]
  cases a with
  | virtual => exact ⟨'v', rfl, by decide, by decide⟩
  | override bases => exact ⟨'o', rfl, by decide, by decide⟩

theorem trimStart_end (hwell : h.WellFormed) : (h.blanksAtEnd ++ h.ending.text).trimStart = h.ending.text := by
  rw [trimStart_append_of_allBlank hwell.blanksAtEnd]
  cases h.ending <;> rfl

/-- Behind the name a list or the body comes first, or nothing, if and only if the heading is of a form
    that is recognised. -/
theorem all_head?_afterName (hwell : h.WellFormed) :
    (h.afterName.trimStart.head?.all fun c => c = '(' || c = '\x7b') = h.isRecognised := by
  have hparameters := hwell.parameters
  have hattributes := hwell.attributes
  rw [afterName, isRecognised]
  cases hlist : h.parameters with
  | some list =>
    have hblanks := (hparameters list hlist).blanks
    rw [BracketedList.optionText, Option.map_some, Option.getD_some, BracketedList.text, List.append_assoc,
      trimStart_append_of_allBlank hblanks]
    rfl
  | none =>
    rw [BracketedList.optionText, Option.map_none, Option.getD_none, List.nil_append]
    cases hall : h.attributes with
    | nil =>
      rw [attributesText, List.flatMap_nil, List.nil_append, trimStart_end hwell]
      cases h.ending <;> rfl
    | cons first rest =>
      rw [hall] at hattributes
      obtain ⟨c, hc, hlist, hbody⟩ := head?_attributesText_cons hattributes (h.blanksAtEnd ++ h.ending.text)
      simp [hc, hlist, hbody]

theorem findFunction?_text (hwell : h.WellFormed) (hrecognised : h.isRecognised) :
    findFunction? false h.text = findFunction? false h.ending.after := by
  have hname : ∀ c ∈ h.afterName.trimStart.head?, beginsIdentifier c = false := by
    intro c hc
    have hall := all_head?_afterName hwell
    rw [hrecognised, hc, Option.all_some, Bool.or_eq_true, decide_eq_true_eq, decide_eq_true_eq] at hall
    rcases hall with rfl | rfl <;> decide
  have hblanks : Breaks (h.blanks ++ (h.name ++ h.afterName)) :=
    breaks_blanks hwell.blanks fun hnone => absurd hnone hwell.apart
  -- part by part from the left; only behind the heading something may be left to find
  calc findFunction? false h.text
    _ = findFunction? true (h.blanks ++ (h.name ++ h.afterName)) := rfl
    _ = findFunction? false (h.name ++ h.afterName) := by
      rw [findFunction?_of_head? hblanks.ne_f, findFunction?_blanks hwell.blanks]
    _ = findFunction? false h.afterName :=
      findFunction?_identifier (all_of_isIdentifier hwell.name) hwell.breaks_afterName hname false
    _ = findFunction? false (h.blanksAtEnd ++ h.ending.text) := by
      rw [afterName, findFunction?_optionText hwell.parameters,
        findFunction?_attributesText hwell.attributes hwell.breaks_end]
    _ = findFunction? false h.ending.after := by
      rw [findFunction?_blanks hwell.blanksAtEnd, h.ending.findFunction?_text]

theorem named?_text (hwell : h.WellFormed) : named? "modifier".toList h.text = some (h.name, h.afterName) := by
  have hafter : h.text.after? "modifier".toList = some (h.blanks ++ (h.name ++ h.afterName)) := after?_append _ _
  have hblank : (h.blanks ++ (h.name ++ h.afterName)).head?.any isBlank := by
    obtain ⟨c, blanks, heq⟩ := List.exists_cons_of_ne_nil hwell.apart
    have hblanks := hwell.blanks
    rw [heq, allBlank, List.all_cons, Bool.and_eq_true] at hblanks
    simp [heq, hblanks.1]
  rw [named?, hafter]
  simp only [Option.bind_eq_bind, Option.bind_some, hblank, if_true]
  rw [trimStart_append_of_allBlank hwell.blanks,
    trimStart_of_not_breaks (not_breaks_append (not_breaks_of_isIdentifier hwell.name) _),
    identifier?_append_of_breaks h.name hwell.breaks_afterName, identifier?_of_isIdentifier hwell.name]
  rfl

theorem modifier?_text (hwell : h.WellFormed) :
    modifier? h.text = if h.isRecognised then some h.name else none := by
  rw [modifier?, named?_text hwell, ← all_head?_afterName hwell]
  cases hstart : h.afterName.trimStart <;> simp [hstart]

/-- **Which headings of modifiers are found.**  A row with a modifier's heading begins the unit of the
    modifier exactly if a list of parameters stands behind the name, or else neither an attribute nor a
    semicolon does, and no function begins behind the brace or the semicolon. -/
theorem of?_text_iff (hwell : h.WellFormed) :
    of? h.text = some ⟨.modifier, "modifier:".toList ++ h.name⟩ ↔
      h.isRecognised ∧ findFunction? false h.ending.after = none := by
  have hconstructor : isUnnamed "constructor".toList h.text = false := rfl
  have hreceive : isUnnamed "receive".toList h.text = false := rfl
  have hfallback : isUnnamed "fallback".toList h.text = false := rfl
  rw [of?, hconstructor, hreceive, hfallback, modifier?_text hwell]
  cases hrecognised : h.isRecognised with
  | true =>
    rw [findFunction?_text hwell hrecognised]
    cases findFunction? false h.ending.after with
    | some name => simp
    | none => exact iff_of_true rfl ⟨rfl, rfl⟩
  | false =>
    cases findFunction? false h.text <;> simp

/-- Parameters of every type and all the attributes that there are. -/
def roleHeading : ModifierHeading where
  blanks := [' ']
  name := "onlyRole".toList
  parameters := some ⟨[], "bytes32 role, function (uint256) external check".toList⟩
  attributes := [([], .virtual), ([' '], .override (some ⟨[' '], "Base, Other".toList⟩))]
  blanksAtEnd := [' ']
  ending := .body " _; \x7d".toList

theorem wellFormed_roleHeading : roleHeading.WellFormed where
  blanks := by decide
  apart := by decide
  name := by decide
  parameters := by
    rintro list ⟨⟩
    exact ⟨by decide, by decide⟩
  attributes := by
    refine ⟨by decide, Or.inl rfl, nofun, by decide, Or.inr (by decide), ?_, trivial⟩
    rintro list ⟨⟩
    exact ⟨by decide, by decide⟩
  blanksAtEnd := by decide

theorem of?_roleHeading :
    roleHeading.WellFormed ∧ of? roleHeading.text = some ⟨.modifier, "modifier:".toList ++ roleHeading.name⟩ :=
  ⟨wellFormed_roleHeading, (of?_text_iff wellFormed_roleHeading).2 (by decide)⟩

/-- A modifier of a base contract, which has no parameters and may be overridden. -/
def ownerHeading : ModifierHeading where
  blanks := [' ']
  name := "onlyOwner".toList
  parameters := none
  attributes := [([' '], .virtual)]
  blanksAtEnd := [' ']
  ending := .body []

/-- The attribute hides a modifier that is found without it. -/
theorem of?_ownerHeading :
    ownerHeading.WellFormed ∧ ownerHeading.text = "modifier onlyOwner virtual \x7b".toList ∧
      of? ownerHeading.text = none ∧
      of? "modifier onlyOwner \x7b".toList = some ⟨.modifier, "modifier:onlyOwner".toList⟩ := by
  refine ⟨?_, by decide, by decide, by decide⟩
  exact {
    blanks := by decide
    apart := by decide
    name := by decide
    parameters := nofun
    attributes := ⟨by decide, Or.inr (by decide), nofun, trivial⟩
    blanksAtEnd := by decide }

end ModifierHeading

end FuzzCoverage.Solidity
