import FuzzCoverage.Proofs.Solidity.CloseUp
import FuzzCoverage.Proofs.Text.Pieces

/-! # How a declaration ends

A declaration without a value ends with its name and the semicolon, and what stands before the name is a
word, a dot or a closing bracket.  That much is to be seen on the closed-up line
(`endsInName_of_isBareDeclaration`), though whether the line is such a declaration depends on blanks that
are gone there. -/

namespace FuzzCoverage.Solidity

open Text Heading

variable {c : Char} {t u code tail : Text}

/-- Whether a line that is closed up begins with no statement's word and ends with a name and a semicolon,
    behind a word, a dot or a closing bracket. -/
def endsInName (t : Text) : Bool :=
  t.getLast? = some ';' && isVariableName (lastRun inIdentifier t.dropLast)
    && (beforeLastRun inIdentifier t.dropLast).getLast?.any " .])".toList.contains
    && !statementWords.contains t.leadingWord

/-! ## The two parts of a declaration -/

theorem isWord_of_beginsName (h : beginsName c) : isWord c := by
  simp only [beginsName, Bool.or_eq_true, decide_eq_true_eq] at h
  rcases h with halpha | rfl
  · exact isWord_of_isAlpha halpha
  · decide

theorem all_inIdentifier_of_isVariableName (h : isVariableName t) : t.all inIdentifier ∧ t ≠ [] := by
  cases t with
  | nil => cases h
  | cons c t =>
    rw [isVariableName, Bool.and_eq_true] at h
    refine ⟨?_, List.cons_ne_nil _ _⟩
    rw [List.all_cons, inIdentifier_of_isWord (isWord_of_beginsName h.1), Bool.true_and]
    exact List.all_eq_true.2 fun d hd => inIdentifier_of_isWord (List.all_eq_true.1 h.2 d hd)

/-- What a type ends with. -/
def endsType (c : Char) : Bool := isWord c || ".])".toList.contains c

/-- Whether a text ends as a type does. -/
def EndsAsType (t : Text) : Prop := ∃ c, t.getLast? = some c ∧ endsType c

theorem EndsAsType.append (h : EndsAsType t) (hu : u = [] ∨ EndsAsType u) : EndsAsType (t ++ u) := by
  rcases hu with rfl | ⟨c, hlast, hc⟩
  · rwa [List.append_nil]
  · exact ⟨c, by rw [List.getLast?_append, hlast]; rfl, hc⟩

/-- Skipped brackets end with one. -/
theorem exists_append_skipBrackets (fuel : Nat) (t : Text) :
    ∃ skipped, t = skipped ++ skipBrackets fuel t ∧ (skipped = [] ∨ EndsAsType skipped) := by
  induction fuel generalizing t with
  | zero => exact ⟨[], rfl, Or.inl rfl⟩
  | succ fuel ih =>
    rw [skipBrackets]
    split
    · next rest hopen =>
      cases hcut : cut? ']' rest with
      | none => exact ⟨[], rfl, Or.inl rfl⟩
      | some cut =>
        obtain ⟨inner, after⟩ := cut
        obtain ⟨skipped, hskipped, hends⟩ := ih after
        have hbracket : EndsAsType (t.takeWhile isBlank ++ '[' :: inner ++ [']']) :=
          ⟨']', List.getLast?_concat, by decide⟩
        refine ⟨_, ?_, Or.inr (hbracket.append hends)⟩
        conv_lhs => rw [← takeWhile_append_trimStart t, hopen, ← append_of_cut? hcut, hskipped]
        simp
    · exact ⟨[], rfl, Or.inl rfl⟩

theorem exists_type_of_afterMapping? (h : afterMapping? code = some tail) :
    ∃ type, code = type ++ tail ∧ EndsAsType type := by
  obtain ⟨rest, hrest, h⟩ := Option.bind_eq_some_iff.1 h
  split at h
  · next inner hopen =>
    obtain ⟨hcloses, htail⟩ := Option.ite_none_right_eq_some.1 h
    simp only [Bool.and_eq_true, List.contains_iff_mem] at hcloses
    rw [Option.some.injEq, ← lastRun] at htail
    let list := rest.takeWhile isBlank ++ '(' :: beforeLastRun (· != ')') inner
    have hlist : list ++ tail = rest := by
      rw [List.append_assoc, List.cons_append, ← htail, beforeLastRun_append, ← hopen,
        takeWhile_append_trimStart]
    refine ⟨"mapping".toList ++ list, ?_, ')', ?_, by decide⟩
    · rw [← append_of_after? hrest, List.append_assoc, hlist]
    · rw [List.getLast?_append, List.getLast?_append_cons, List.getLast?_cons,
        getLast?_beforeLastRun_of_mem hcloses.1.1]
      rfl
  · cases h

theorem exists_type_of_afterTypeName? (h : afterTypeName? code = some tail) :
    ∃ type, code = type ++ tail ∧ EndsAsType type := by
  cases code with
  | nil => cases h
  | cons first rest =>
    rw [afterTypeName?] at h
    split at h
    · next hfirst =>
      let inName := fun c => isWord c || decide (c = '.')
      obtain ⟨skipped, hskipped, hends⟩ :=
        exists_append_skipBrackets (rest.dropWhile inName).length (rest.dropWhile inName)
      rw [Option.some.injEq] at h
      rw [show skipBrackets _ _ = tail from h] at hskipped
      have hall : ∀ c ∈ first :: rest.takeWhile inName, endsType c := by
        intro c hc
        rcases List.mem_cons.1 hc with rfl | hc
        · simp [endsType, isWord_of_beginsName hfirst]
        · have hin := List.all_eq_true.1 List.all_takeWhile c hc
          simp only [inName, Bool.or_eq_true, decide_eq_true_eq] at hin
          rcases hin with hword | rfl
          · simp [endsType, hword]
          · decide
      have hname : EndsAsType (first :: rest.takeWhile inName) :=
        ⟨_, List.getLast?_eq_some_getLast (List.cons_ne_nil _ _), hall _ (List.getLast_mem _)⟩
      refine ⟨_, ?_, hname.append hends⟩
      rw [List.append_assoc, ← hskipped, List.cons_append, List.takeWhile_append_dropWhile]
    · cases h

/-- A type, and what follows it. -/
theorem exists_type_of_isBareDeclaration (h : isBareDeclaration code) :
    ∃ type tail, code = type ++ tail ∧ EndsAsType type ∧ isVariableTail tail := by
  simp only [isBareDeclaration, Bool.and_eq_true, Bool.or_eq_true, Option.any_eq_true] at h
  rcases h.2 with ⟨tail, hafter, htail⟩ | ⟨tail, hafter, htail⟩
  · obtain ⟨type, hcode, htype⟩ := exists_type_of_afterMapping? hafter
    exact ⟨type, tail, hcode, htype, htail⟩
  · obtain ⟨type, hcode, htype⟩ := exists_type_of_afterTypeName? hafter
    exact ⟨type, tail, hcode, htype, htail⟩

/-- What follows a type is storage words, the name and the semicolon. -/
structure NamesVariable (tail before name blanks : Text) : Prop where
  append : tail = before ++ (name ++ (blanks ++ [';']))
  isName : isVariableName name
  blanks_blank : blanks.allBlank
  before_blank : ∃ c, before.getLast? = some c ∧ isBlank c
  before_words : ∀ c ∈ before, isBlank c ∨ isWord c

theorem exists_name_of_isVariableTail (h : isVariableTail tail) :
    ∃ before name blanks, NamesVariable tail before name blanks := by
  have hwords : ∀ word ∈ storageWords, word.all isWord := by decide
  simp only [isVariableTail, Bool.and_eq_true, decide_eq_true_eq] at h
  obtain ⟨⟨⟨hsemicolon, hhead⟩, hstorage⟩, hname⟩ := h
  obtain ⟨init, rfl⟩ := List.getLast?_eq_some_iff.1 hsemicolon
  rw [List.dropLast_concat] at hstorage hname
  obtain ⟨found, hfound, hname⟩ := (Option.any_eq_true _ _).1 hname
  have hne : pieces init ≠ [] := by
    intro hnil
    rw [← pieces, hnil] at hfound
    cases hfound
  obtain ⟨before, name, blanks, hends⟩ := exists_endsWith hne
  rw [← pieces, hends.pieces, List.getLast?_concat, Option.some.injEq] at hfound
  rw [← pieces, hends.pieces, List.dropLast_concat] at hstorage
  rw [← hfound] at hname
  refine ⟨before, name, blanks, ?_, hname, hends.blanks_blank, ?_, fun c hc => ?_⟩
  · rw [hends.append, List.append_assoc, List.append_assoc]
  · cases hlast : before.getLast? with
    | none =>
      -- the name would stand at the beginning, where a blank is
      have hname := (all_inIdentifier_of_isVariableName hname).2
      obtain ⟨first, rest, rfl⟩ := List.exists_cons_of_ne_nil hname
      have happend := hends.append
      rw [List.getLast?_eq_none_iff.1 hlast, List.nil_append, List.cons_append] at happend
      rw [happend, List.cons_append, List.head?_cons, Option.any_some,
        hends.name_solid first List.mem_cons_self] at hhead
      cases hhead
    | some c => exact ⟨c, rfl, hends.before_blank c hlast⟩
  · cases hblank : isBlank c with
    | true => exact Or.inl rfl
    | false =>
      obtain ⟨piece, hpiece, hin⟩ := exists_mem_pieces hc hblank
      have hmem : piece ∈ storageWords := by simpa using List.all_eq_true.1 hstorage piece hpiece
      exact Or.inr (List.all_eq_true.1 (hwords piece hmem) c hin)

/-! ## The name on the closed-up line -/

/-- Words and blanks leave a symbol behind only where one was before, and nothing after it. -/
theorem foldl_next_eq_other {before : Text} (h : ∀ c ∈ before, isBlank c ∨ isWord c) {behind : Behind}
    (hother : before.foldl Behind.next behind = .other) :
    behind = .other ∧ closeUp behind before = [] := by
  induction before generalizing behind with
  | nil => exact ⟨hother, rfl⟩
  | cons c before ih =>
    obtain ⟨hc, hrest⟩ := List.forall_mem_cons.1 h
    obtain ⟨hnext, hclose⟩ := ih hrest hother
    rcases hc with hblank | hword
    · rw [Behind.next, if_pos hblank] at hnext
      have hbehind : behind = .other := by
        cases behind with
        | other => rfl
        | word => cases hnext
        | wordAndBlanks => cases hnext
      rw [Behind.next, if_pos hblank] at hclose
      rw [closeUp_blank hblank]
      exact ⟨hbehind, hclose⟩
    · have hletter := inIdentifier_of_isWord hword
      rw [Behind.next, if_neg (by simp [not_isBlank_of_inIdentifier hletter]), if_pos hletter] at hnext
      cases hnext

theorem closeUp_letters (h : t.all inIdentifier) (u : Text) :
    closeUp .word (t ++ u) = t ++ closeUp .word u := by
  induction t with
  | nil => rfl
  | cons c t ih =>
    rw [List.all_cons, Bool.and_eq_true] at h
    rw [List.cons_append, closeUp_letter .word (by decide) h.1, ih h.2, List.cons_append]

theorem closeUp_blanks_symbol {blanks : Text} (h : blanks.allBlank) (hblank : isBlank c = false)
    (hc : inIdentifier c = false) (behind : Behind) : closeUp behind (blanks ++ [c]) = [c] := by
  rw [closeUp_append_symbol behind hblank hc, closeUp_eq_nil_iff.2 h, closeUp_nil, List.nil_append]

/-- A name and a semicolon, with the blank before them that the name keeps. -/
theorem closeUp_name {name blanks : Text} (hname : isVariableName name) (hblanks : blanks.allBlank)
    {behind : Behind} (hbehind : behind ≠ .word) :
    closeUp behind (name ++ (blanks ++ [';'])) =
      (if behind = .wordAndBlanks then [' '] else []) ++ (name ++ [';']) := by
  obtain ⟨hall, hne⟩ := all_inIdentifier_of_isVariableName hname
  obtain ⟨first, rest, rfl⟩ := List.exists_cons_of_ne_nil hne
  rw [List.all_cons, Bool.and_eq_true] at hall
  have hrest : closeUp .word (rest ++ (blanks ++ [';'])) = rest ++ [';'] := by
    rw [closeUp_letters hall.2, closeUp_blanks_symbol hblanks (by decide) (by decide)]
  cases behind with
  | word => exact absurd rfl hbehind
  | wordAndBlanks => rw [List.cons_append, closeUp_letter_behindBlanks hall.1, hrest]; rfl
  | other => rw [List.cons_append, closeUp_letter .other (by decide) hall.1, hrest]; rfl

theorem endsInName_append {before name : Text} (hname : isVariableName name)
    (hbefore : ∃ c, before.getLast? = some c ∧ c ∈ " .])".toList)
    (hword : leadingWord (before ++ (name ++ [';'])) ∉ statementWords) :
    endsInName (before ++ (name ++ [';'])) := by
  obtain ⟨c, hlast, hc⟩ := hbefore
  have hall := List.all_eq_true.1 (all_inIdentifier_of_isVariableName hname).1
  have hstop : ∀ d ∈ before.getLast?, inIdentifier d = false := by
    have hsymbols : " .])".toList.all (!inIdentifier ·) := by decide
    intro d hd
    rw [hlast, Option.mem_some_iff] at hd
    simpa [hd] using List.all_eq_true.1 hsymbols c hc
  obtain ⟨hrun, hrest⟩ := lastRun_append hall hstop
  have hcontains : " .])".toList.contains c := List.contains_iff_mem.2 hc
  have hnone : statementWords.contains (leadingWord (before ++ (name ++ [';']))) = false := by
    simpa using hword
  rw [endsInName, hnone, ← List.append_assoc, List.dropLast_concat, List.getLast?_concat, hrun, hrest, hname,
    hlast, Option.any_some, hcontains]
  rfl

/-! ## The first word -/

theorem head?_skipBrackets {fuel : Nat} (h : (skipBrackets (fuel + 1) (c :: t)).head?.any isBlank) :
    c = '[' ∨ isBlank c := by
  cases hblank : isBlank c with
  | true => exact Or.inr rfl
  | false =>
    rw [skipBrackets, (anchored_cons_iff.2 hblank).trimStart_eq] at h
    split at h
    · next heq => exact Or.inl (List.cons.inj heq).1
    · simp [hblank] at h

/-- The first word of a type's name ends at a dot, a bracket or a blank. -/
theorem head?_afterWord_of_afterTypeName? (h : afterTypeName? code = some tail)
    (htail : tail.head?.any isBlank) (hc : code.afterWord.head? = some c) :
    c = '.' ∨ c = '[' ∨ isBlank c := by
  have hword : isWord c = false := by
    have hhead := List.head?_dropWhile_not isWord code
    rw [afterWord] at hc
    rwa [hc] at hhead
  cases code with
  | nil => cases h
  | cons first rest =>
    rw [afterTypeName?] at h
    split at h
    · next hfirst =>
      have hafter : afterWord (first :: rest) = rest.dropWhile isWord :=
        List.dropWhile_cons_of_pos (isWord_of_beginsName hfirst)
      rw [hafter, List.head?_eq_some_iff] at hc
      obtain ⟨after, hc⟩ := hc
      refine or_iff_not_imp_left.2 fun hdot => ?_
      -- without a dot the name is the word, and what follows it is the brackets or the tail
      have hname : rest.dropWhile (fun c => isWord c || decide (c = '.')) = c :: after := by
        have hin : ∀ c ∈ rest.takeWhile isWord, (isWord c || decide (c = '.')) = true := by
          intro c hc
          rw [List.all_eq_true.1 List.all_takeWhile c hc]
          rfl
        have hsplit : rest.takeWhile isWord ++ c :: after = rest := by
          rw [← hc]
          exact List.takeWhile_append_dropWhile
        conv_lhs => rw [← hsplit]
        rw [List.dropWhile_append_of_pos hin, List.dropWhile_cons_of_neg (by simp [hword, hdot])]
      simp only [hname, List.length_cons, Option.some.injEq] at h
      rw [← h] at htail
      exact head?_skipBrackets htail
    · cases h

theorem isPrefixOf_leadingWord_of_afterMapping? (h : afterMapping? code = some tail) :
    "mapping".toList.isPrefixOf code.leadingWord := by
  have hall : "mapping".toList.all isWord := by decide
  obtain ⟨rest, hrest, -⟩ := Option.bind_eq_some_iff.1 h
  rw [← append_of_after? hrest, leadingWord, List.takeWhile_append_of_pos (List.all_eq_true.1 hall)]
  exact List.isPrefixOf_iff_prefix.2 (List.prefix_append _ _)

/-- Both readings of the first word of a type's name end at the same place. -/
theorem firstWord_of_afterTypeName? (h : afterTypeName? code = some tail) (htail : tail.head?.any isBlank)
    (hletters : code.leadingWord.all fun c => isAlphanumeric c || decide (c = '_')) :
    firstWord code = code.leadingWord := by
  have hstop : ∀ c ∈ code.afterWord.head?, (isAlphanumeric c || decide (c = '_')) = false := by
    intro c hc
    rcases head?_afterWord_of_afterTypeName? h htail hc with rfl | rfl | hblank
    · decide
    · decide
    · have hne : c ≠ '_' := by
        rintro rfl
        exact absurd hblank (by decide)
      simp [isAlphanumeric_of_isBlank hblank, hne]
  conv_lhs => rw [← leadingWord_append_afterWord code]
  rw [firstWord, takeWhile_append_of_head? code.leadingWord hstop]
  exact List.takeWhile_eq_self_iff.2 (List.all_eq_true.1 hletters)

theorem leadingWord_not_mem_statementWords (h : isBareDeclaration code) :
    code.leadingWord ∉ statementWords := by
  have hmapping : ∀ word ∈ statementWords, "mapping".toList.isPrefixOf word = false := by decide
  have hletters : ∀ word ∈ statementWords, word.all fun c => isAlphanumeric c || decide (c = '_') := by
    decide
  intro hmem
  simp only [isBareDeclaration, Bool.and_eq_true, Bool.or_eq_true, Option.any_eq_true, Bool.not_eq_true',
    List.contains_eq_mem, decide_eq_false_iff_not] at h
  obtain ⟨hfirst, ⟨tail, hafter, -⟩ | ⟨tail, hafter, htail⟩⟩ := h
  · have hstarts := isPrefixOf_leadingWord_of_afterMapping? hafter
    rw [hmapping _ hmem] at hstarts
    cases hstarts
  · simp only [isVariableTail, Bool.and_eq_true] at htail
    exact hfirst (firstWord_of_afterTypeName? hafter htail.1.1.2 (hletters _ hmem) ▸ hmem)

/-! ## Declarations -/

theorem foldl_next_ne_word {before : Text} (h : ∃ c, before.getLast? = some c ∧ isBlank c)
    (behind : Behind) : before.foldl Behind.next behind ≠ .word := by
  obtain ⟨c, hlast, hc⟩ := h
  obtain ⟨init, rfl⟩ := List.getLast?_eq_some_iff.1 hlast
  rw [List.foldl_append, List.foldl_cons, List.foldl_nil, Behind.next, if_pos hc]
  exact Behind.blank_ne_word _

/-- Where no blank is kept, there is nothing but blanks between the type and the name. -/
theorem exists_symbol_of_foldl_next {type before : Text} (htype : EndsAsType type)
    (hbefore : ∀ c ∈ before, isBlank c ∨ isWord c)
    (hother : (type ++ before).foldl Behind.next .other = .other) :
    ∃ c, (closeUp .other (type ++ before)).getLast? = some c ∧ c ∈ ".])".toList := by
  have hsymbols : ".])".toList.all (!isBlank ·) := by decide
  rw [List.foldl_append] at hother
  obtain ⟨hbehind, hnothing⟩ := foldl_next_eq_other hbefore hother
  obtain ⟨c, hlast, hc⟩ := htype
  obtain ⟨init, rfl⟩ := List.getLast?_eq_some_iff.1 hlast
  have hsymbol : c ∈ ".])".toList := by
    refine (Bool.or_eq_true_iff.1 hc).elim (fun hletter => ?_) List.contains_iff_mem.1
    have hin := inIdentifier_of_isWord hletter
    simp [Behind.next, not_isBlank_of_inIdentifier hin, hin] at hbehind
  have hend : EndsAnchored (init ++ [c]) := by
    intro d hd
    rw [List.getLast?_concat, Option.mem_some_iff] at hd
    simpa [hd] using List.all_eq_true.1 hsymbols c hsymbol
  refine ⟨c, ?_, hsymbol⟩
  rw [closeUp_append, hnothing, List.append_nil, getLast?_closeUp hend, List.getLast?_concat]

/-- A declaration without a value ends like one when it is closed up. -/
theorem endsInName_of_isBareDeclaration (ht : Anchored code) (h : isBareDeclaration code) :
    endsInName (closeUp .other code) := by
  have hword : (closeUp .other code).leadingWord ∉ statementWords := by
    rw [(leadingWord_closeUp ht).1]
    exact leadingWord_not_mem_statementWords h
  obtain ⟨type, tail, rfl, htype, htail⟩ := exists_type_of_isBareDeclaration h
  obtain ⟨before, name, blanks, hnames⟩ := exists_name_of_isVariableTail htail
  let behind := (type ++ before).foldl Behind.next .other
  have hbehind : behind ≠ .word := by
    rw [show behind = _ from List.foldl_append]
    exact foldl_next_ne_word hnames.before_blank _
  have hclose : closeUp .other (type ++ tail) =
      (closeUp .other (type ++ before) ++ if behind = .wordAndBlanks then [' '] else []) ++
        (name ++ [';']) := by
    rw [hnames.append, ← List.append_assoc, closeUp_append,
      closeUp_name hnames.isName hnames.blanks_blank hbehind, List.append_assoc]
  rw [hclose] at hword ⊢
  refine endsInName_append hnames.isName ?_ hword
  cases hstate : behind with
  | word => exact absurd hstate hbehind
  | wordAndBlanks => exact ⟨' ', by simp, by decide⟩
  | other =>
    obtain ⟨c, hlast, hsymbol⟩ := exists_symbol_of_foldl_next htype hnames.before_words hstate
    exact ⟨c, by rwa [if_neg (by decide), List.append_nil], List.mem_cons_of_mem ' ' hsymbol⟩

end FuzzCoverage.Solidity
