import Mathlib.Data.List.TakeWhile
import FuzzCoverage.Proofs.Solidity.Attributes

/-! # Lines that begin with an identifier

The tests on a line of code look for words in three ways: between the bounds of a word, as the letters
that the line begins with, and as attributes with nothing between them.  So an identifier that none of
the tests names may be taken for one of their words all the same.

* `reading` is what an identifier is taken for, by the letters that it begins with, by the words that
  it holds between dollar signs, and by the attributes that it consists of;
* `mayBeUntouched_append` and `isLogical_append`: nothing else about the identifier matters, whatever
  the line goes on with;
* `countAlike_iff_reading_eq`: so two identifiers may take each other's place in every line exactly if
  they are taken for the same. -/

namespace FuzzCoverage.Solidity

open Text Heading

/-- The words that the tests on a line of code name. -/
def patternWords : List Text :=
  visibilityWords ++ headerWords ++ plainAttributes ++ storageWords ++ statementWords ++
    ["function", "console", "console2", "import", "pragma", "abstract", "override", "returns",
      "mapping"].map String.toList

/-! ## What an identifier is read as -/

/-- Whether the type of a declaration may be the identifier `a`. -/
def mayBeType (a : Text) : Bool := a.all isWord && !statementWords.contains (firstWord a)

/-- What the tests may take an identifier for that a line begins with. -/
inductive Reading where
  /-- The line may not be reported as untouched. -/
  | scaffolding
  /-- The line does not count in logical coverage. -/
  | header
  /-- Attributes of a heading, or else a type. -/
  | attributes (last : AttributeKind)
  /-- The type of a variable, if a declaration goes on. -/
  | type
  | other
  deriving DecidableEq, Repr

/-- What an identifier is taken for that is none of the tests' own words. -/
def reading (a : Text) : Reading :=
  if "function".toList.isPrefixOf a || a.mentions visibilityWords then .scaffolding
  else if "import".toList.isPrefixOf a || "pragma".toList.isPrefixOf a ||
      headerWords.contains a.leadingWord then .header
  else
    match lastAttribute? a.length a with
    | some last => .attributes last
    | none => if mayBeType a then .type else .other

/-! ## What may go on after it -/

/-- Whether a text goes on from a type to the end of a declaration without a value. -/
def declares (t : Text) : Bool :=
  let after := t.dropWhile fun c => isWord c || c = '.'
  isVariableTail (skipBrackets after.length after)

namespace Reading

/-- Whether a line that begins so and goes on with `t` may be reported as untouched. -/
def mayBeUntouched : Reading → Text → Bool
  | .scaffolding, _ => false
  | _, t => !t.mentions visibilityWords

def isLogical (r : Reading) (t : Text) : Bool :=
  r.mayBeUntouched t &&
    match r with
    | .scaffolding | .header => false
    | .attributes last => !last.endsHeading t && !declares t
    | .type => !declares t
    | .other => true

end Reading

/-! ## Declarations -/

theorem skipBrackets_of_not_breaks {t : Text} (h : ¬ Breaks t) (fuel : Nat) : skipBrackets fuel t = t := by
  cases fuel with
  | zero => rfl
  | succ fuel =>
    rw [skipBrackets, trimStart_of_not_breaks h]
    split
    · exact absurd rfl (head?_of_not_breaks h (show inIdentifier '[' = false by decide))
    · rfl

theorem not_isVariableTail_of_not_breaks {t : Text} (h : ¬ Breaks t) : isVariableTail t = false := by
  obtain ⟨c, rest, rfl, hc⟩ := exists_cons_of_not_breaks h
  simp [isVariableTail, not_isBlank_of_inIdentifier hc]

theorem afterMapping?_append {a : Text} (ha : a.all inIdentifier) (hmapping : a ≠ "mapping".toList)
    {t : Text} (ht : Breaks t) : afterMapping? (a ++ t) = none := by
  rw [afterMapping?, after?_append_of_breaks (by decide) a ht]
  cases hafter : a.after? "mapping".toList with
  | none => rfl
  | some rest =>
    have hrest : rest ≠ [] := by
      rintro rfl
      exact hmapping (by simpa using (append_of_after? hafter).symm)
    have hmore := not_breaks_append (not_breaks_of_all (all_of_after? ha hafter) hrest) t
    simp only [Option.map_some, Option.bind_eq_bind, Option.bind_some]
    rw [trimStart_of_not_breaks hmore]
    split
    · next heq => exact absurd (congrArg List.head? heq) (head?_of_not_breaks hmore (by decide))
    · rfl

theorem afterTypeName?_append {a : Text} (ha : isIdentifier a) (t : Text) :
    (afterTypeName? (a ++ t)).any isVariableTail = (a.all isWord && declares t) := by
  cases a with
  | nil => cases ha
  | cons c rest =>
    rw [isIdentifier, Bool.and_eq_true] at ha
    obtain ⟨hbegins, hrest⟩ := ha
    rw [List.cons_append, afterTypeName?, List.all_cons]
    by_cases hname : beginsName c
    · have hc : isWord c := by
        simp only [beginsName, Bool.or_eq_true, decide_eq_true_eq] at hname
        rcases hname with halpha | rfl
        · exact isWord_of_isAlpha halpha
        · decide
      rw [if_pos hname, hc, Bool.true_and, Option.any_some]
      cases hword : rest.all isWord with
      | true =>
        have hall : ∀ d ∈ rest, (isWord d || decide (d = '.')) = true := by
          intro d hd
          rw [List.all_eq_true.1 hword d hd]
          rfl
        rw [List.dropWhile_append_of_pos hall]
        rfl
      | false =>
        -- what follows the type begins in the identifier
        have hstops : rest.dropWhile (fun d => isWord d || decide (d = '.')) ≠ [] := by
          intro hnone
          obtain ⟨d, hd, hnot⟩ := List.all_eq_false.1 hword
          have hdot : d = '.' := by simpa [hnot] using List.dropWhile_eq_nil_iff.1 hnone d hd
          rw [hdot] at hd
          exact absurd (List.all_eq_true.1 hrest '.' hd) (by decide)
        have hmore := not_breaks_append (not_breaks_of_all (all_dropWhile hrest) hstops) t
        rw [List.dropWhile_append, if_neg (by simpa using hstops), skipBrackets_of_not_breaks hmore,
          not_isVariableTail_of_not_breaks hmore]
        rfl
    · rw [if_neg hname]
      have hdollar : c = '$' := by
        simp only [beginsName, beginsIdentifier, Bool.or_eq_true, decide_eq_true_eq] at hname hbegins
        exact hbegins.resolve_left hname
      have hword : isWord c = false := by
        rw [hdollar]
        decide
      rw [hword]
      rfl

theorem statementWords_contains_append {a : Text} (ha : a ∉ statementWords) {t : Text} (ht : Breaks t) :
    statementWords.contains (firstWord (a ++ t)) = statementWords.contains (firstWord a) := by
  have hwords : ∀ word ∈ statementWords, word.all isWord := by decide
  rw [firstWord, firstWord, List.takeWhile_append]
  split
  · next hall =>
    have hfirst : a.takeWhile (fun c => isAlphanumeric c || decide (c = '_')) = a :=
      (List.takeWhile_prefix _).eq_of_length hall
    rw [hfirst]
    -- all of the identifier is taken, perhaps with something behind it
    have hlonger : a ++ t.takeWhile (fun c => isAlphanumeric c || decide (c = '_')) ∉ statementWords := by
      intro hmem
      cases t with
      | nil => exact ha (by simpa using hmem)
      | cons c t =>
        -- a number that belongs to no word may stand there, and then no statement's word does
        rw [List.takeWhile_cons] at hmem
        split at hmem
        · have hword := List.all_eq_true.1 (hwords _ hmem) c (by simp)
          rw [ht.not_isWord c rfl] at hword
          cases hword
        · exact ha (by simpa using hmem)
    simp [ha, hlonger]
  · rfl

/-! ## The tests on a whole line -/

theorem isDebugPrint_append {a : Text} (ha : a.all inIdentifier) (hconsole : a ≠ "console".toList)
    (hconsole2 : a ≠ "console2".toList) {t : Text} (ht : Breaks t) : isDebugPrint (a ++ t) = false := by
  -- behind the console's name the identifier goes on, and no function of the console is named
  have hlog : ∀ {rest : Text}, ¬ Breaks rest → rest.after? ".log".toList = none := by
    intro rest hmore
    obtain ⟨c, tail, rfl, hc⟩ := exists_cons_of_not_breaks hmore
    exact (after?_cons_cons c '.' _ _).trans (if_neg (ne_of_inIdentifier hc (by decide)))
  rw [isDebugPrint, afterConsole?, after?_append_of_breaks (by decide) a ht]
  cases hafter : a.after? "console".toList with
  | none => rfl
  | some rest =>
    have hsplit := append_of_after? hafter
    have hall := all_of_after? ha hafter
    obtain ⟨c, tail, rfl⟩ : ∃ c tail, rest = c :: tail := by
      refine List.exists_cons_of_ne_nil ?_
      rintro rfl
      exact hconsole (by simpa using hsplit.symm)
    rw [Option.map_some, List.cons_append]
    by_cases htwo : c = '2'
    · subst htwo
      have htail : tail ≠ [] := by
        rintro rfl
        exact hconsole2 hsplit.symm
      rw [List.all_cons, Bool.and_eq_true] at hall
      simp only [Option.bind_some]
      rw [hlog (not_breaks_append (not_breaks_of_all hall.2 htail) t)]
      rfl
    · split
      · next heq => exact absurd (List.cons.inj (Option.some.inj heq)).1 htwo
      · rw [Option.bind_some, ← List.cons_append,
          hlog (not_breaks_append (not_breaks_of_all hall (List.cons_ne_nil c tail)) t)]
        rfl

theorem isDefinitionHeader_append {a : Text} (ha : a.all inIdentifier) (habstract : a ≠ "abstract".toList)
    {t : Text} (ht : Breaks t) : isDefinitionHeader (a ++ t) = headerWords.contains a.leadingWord := by
  have hcontract : ¬ (leadingWord (a ++ t) = "abstract".toList ∧
      leadingWord (afterWord (a ++ t)).trimStart = "contract".toList) := by
    rw [leadingWord_append a ht.not_isWord]
    rintro ⟨hlead, hnext⟩
    -- the identifier goes on behind the word with a character that belongs to no word
    have hmore : a.dropWhile isWord ≠ [] := by
      intro hnone
      have hsplit : leadingWord a ++ a.dropWhile isWord = a := List.takeWhile_append_dropWhile
      rw [hlead, hnone, List.append_nil] at hsplit
      exact habstract hsplit.symm
    have hbreak : ∀ c ∈ (a.dropWhile isWord).head?, isWord c = false := by
      intro c hc
      have hhead := List.head?_dropWhile_not isWord a
      rw [Option.mem_def.1 hc] at hhead
      simpa using hhead
    have hgoesOn := not_breaks_append (not_breaks_of_all (all_dropWhile ha) hmore) t
    rw [afterWord, List.dropWhile_append, if_neg (by simpa using hmore), trimStart_of_not_breaks hgoesOn] at hnext
    obtain ⟨c, rest, hrest⟩ := List.exists_cons_of_ne_nil hmore
    rw [hrest, List.cons_append, leadingWord,
      List.takeWhile_cons_of_neg (by simp [hbreak c (by rw [hrest]; rfl)])] at hnext
    cases hnext
  rw [isDefinitionHeader, ← Bool.decide_and, decide_eq_false hcontract, Bool.or_false,
    leadingWord_append a ht.not_isWord]

theorem trim_append {a : Text} (ha : isIdentifier a) (t : Text) : (a ++ t).trim = a ++ t.trimEnd := by
  have hblank : ∀ c ∈ a, isBlank c = false :=
    fun c hc => not_isBlank_of_inIdentifier (List.all_eq_true.1 (all_of_isIdentifier ha) c hc)
  have hreverse : a.reverse.dropWhile isBlank = a.reverse :=
    trimStart_eq_self fun c hc => hblank c (List.mem_reverse.1 (List.mem_of_mem_head? hc))
  rw [trim, trimStart_of_not_breaks (not_breaks_append (not_breaks_of_isIdentifier ha) t), trimEnd,
    List.reverse_append, List.dropWhile_append, hreverse, trimEnd]
  split
  · next hnone => simp [List.isEmpty_iff.1 hnone]
  · simp

theorem Breaks.trimEnd {t : Text} (ht : Breaks t) : Breaks t.trimEnd := by
  obtain ⟨blanks, heq⟩ := trimEnd_prefix t
  intro c hc
  refine ht c ?_
  rw [← heq, List.head?_append, hc]
  rfl

/-- What the tests see of a line that begins with an identifier. -/
theorem mayBeUntouched_append_eq {a : Text} (ha : isIdentifier a) (hword : a ∉ patternWords) {t : Text}
    (ht : Breaks t) :
    mayBeUntouched (a ++ t) =
      (!"function".toList.isPrefixOf a && !a.mentions visibilityWords &&
        !t.trimEnd.mentions visibilityWords) := by
  -- the other tests look for a first character that no identifier has, or for the console's name
  have hprint : isDebugPrint (a ++ t.trimEnd) = false :=
    isDebugPrint_append (all_of_isIdentifier ha) (fun h => hword (h ▸ by decide))
      (fun h => hword (h ▸ by decide)) ht.trimEnd
  have hgoesOn := not_breaks_append (not_breaks_of_isIdentifier ha) t.trimEnd
  have hpunctuation : punctuationLines.contains (a ++ t.trimEnd) = false := by
    have hbreaks : ∀ line ∈ punctuationLines, Breaks line := by decide
    exact Bool.eq_false_iff.2 fun hmem => hgoesOn (hbreaks _ (List.contains_iff_mem.1 hmem))
  have hcomment : looksLikeComment (a ++ t.trimEnd) = false := by
    obtain ⟨c, rest, heq, hc⟩ := exists_cons_of_not_breaks hgoesOn
    have hslash : '/' ≠ c := (ne_of_inIdentifier hc (by decide)).symm
    have hstar : '*' ≠ c := (ne_of_inIdentifier hc (by decide)).symm
    simp [heq, looksLikeComment, List.isPrefixOf, hslash, hstar]
  have htail : isSignatureTail (a ++ t.trimEnd) = false := by
    rw [isSignatureTail, decide_eq_false (head?_of_not_breaks hgoesOn (by decide)), Bool.false_and]
  have hne : a ≠ [] := by
    rintro rfl
    cases ha
  rw [mayBeUntouched, trim_append ha, isPrefixOf_append_of_breaks (by decide) a ht.trimEnd,
    mentions_append (Or.inr ht.trimEnd.not_isWord), hpunctuation, hcomment, htail, hprint]
  simp [hne, Bool.and_assoc]

theorem mayBeType_of_lastAttribute? {fuel : Nat} {a : Text} {last : AttributeKind}
    (h : lastAttribute? fuel a = some last) (hword : a ∉ statementWords) : mayBeType a := by
  have hall := List.all_eq_true.1 (all_isAlpha_of_lastAttribute? h)
  have hfirst : firstWord a = a :=
    List.takeWhile_eq_self_iff.2 fun c hc => by simp [isAlphanumeric_of_isAlpha (hall c hc)]
  have hwords : a.all isWord := List.all_eq_true.2 fun c hc => isWord_of_isAlpha (hall c hc)
  simp [mayBeType, hwords, hfirst, hword]

theorem isBareDeclaration_append {a : Text} (ha : isIdentifier a) (hmapping : a ≠ "mapping".toList)
    (hword : a ∉ statementWords) {t : Text} (ht : Breaks t) :
    isBareDeclaration (a ++ t) = (mayBeType a && declares t) := by
  rw [isBareDeclaration, statementWords_contains_append hword ht,
    afterMapping?_append (all_of_isIdentifier ha) hmapping ht, afterTypeName?_append ha, mayBeType]
  cases a.all isWord <;> simp

theorem reading_eq_scaffolding_iff {a : Text} :
    reading a = .scaffolding ↔ "function".toList.isPrefixOf a || a.mentions visibilityWords := by
  rw [reading]
  split
  · next h => exact iff_of_true rfl h
  · next h =>
    refine iff_of_false ?_ h
    split
    · simp
    · split
      · simp
      · split <;> simp

theorem Reading.mayBeUntouched_eq (r : Reading) (t : Text) :
    r.mayBeUntouched t = (r ≠ .scaffolding && !t.mentions visibilityWords) := by
  cases r <;> rfl

theorem mayBeUntouched_append {a : Text} (ha : isIdentifier a) (hword : a ∉ patternWords) {t : Text}
    (ht : Breaks t) : mayBeUntouched (a ++ t) = (reading a).mayBeUntouched t.trimEnd := by
  rw [mayBeUntouched_append_eq ha hword ht, Reading.mayBeUntouched_eq]
  simp only [ne_eq, reading_eq_scaffolding_iff, ← Bool.not_or]
  cases "function".toList.isPrefixOf a || a.mentions visibilityWords <;> rfl

theorem isLogical_append {a : Text} (ha : isIdentifier a) (hword : a ∉ patternWords) {t : Text}
    (ht : Breaks t) : isLogical (a ++ t) = (reading a).isLogical t.trimEnd := by
  have hall := all_of_isIdentifier ha
  have hne : a ≠ [] := by
    rintro rfl
    cases ha
  have hstatement : a ∉ statementWords := fun hmem => hword (by simp [patternWords, hmem])
  rw [isLogical, mayBeUntouched_append ha hword ht, trim_append ha]
  dsimp only
  rw [isPrefixOf_append_of_breaks (by decide) _ ht.trimEnd, isPrefixOf_append_of_breaks (by decide) _ ht.trimEnd,
    isDefinitionHeader_append hall (fun h => hword (h ▸ by decide)) ht.trimEnd,
    isAttributesOnly_append hall hne (Nat.le_refl _) ht.trimEnd,
    isBareDeclaration_append ha (fun h => hword (h ▸ by decide)) hstatement ht.trimEnd]
  rw [reading]
  split
  · rfl
  · split
    · next hheader =>
      rw [← Bool.not_or, ← Bool.not_or, hheader]
      simp [Reading.isLogical]
    · next hheader =>
      rw [← Bool.not_or, ← Bool.not_or, Bool.eq_false_iff.2 hheader]
      split
      · next last hlast => simp [Reading.isLogical, hlast, mayBeType_of_lastAttribute? hlast hstatement]
      · next hlast => cases htype : mayBeType a <;> simp [hlast, Reading.isLogical]

/-! ## Telling identifiers apart -/

/-- Ends of lines by which any two readings are told apart: an assignment, a name, a brace and a list. -/
def tellingTails : List Text := [" = 1;", " x;", "\x7b", "(x)"].map String.toList

theorem Reading.eq_of_agree {r r' : Reading}
    (h : ∀ t ∈ tellingTails, r.mayBeUntouched t = r'.mayBeUntouched t ∧ r.isLogical t = r'.isLogical t) :
    r = r' := by
  -- seven readings, and one of the four ends differs for any two of them
  revert h
  rcases r with _ | _ | (_ | _ | _) | _ | _ <;> rcases r' with _ | _ | (_ | _ | _) | _ | _ <;> decide

/-- Whether every line that begins with the one identifier counts as if it began with the other. -/
def CountAlike (a b : Text) : Prop :=
  ∀ t, Breaks t → mayBeUntouched (a ++ t) = mayBeUntouched (b ++ t) ∧
    isLogical (a ++ t) = isLogical (b ++ t)

/-- **A name stands for any other name that is taken for the same.**  Two identifiers that are none of
    the tests' own words are treated alike in front of every text exactly if they have the same
    reading. -/
theorem countAlike_iff_reading_eq {a b : Text} (ha : isIdentifier a) (hb : isIdentifier b)
    (hwordA : a ∉ patternWords) (hwordB : b ∉ patternWords) :
    CountAlike a b ↔ reading a = reading b := by
  constructor
  · intro h
    have htelling : ∀ t ∈ tellingTails, Breaks t ∧ t.trimEnd = t := by decide
    refine Reading.eq_of_agree fun t ht => ?_
    obtain ⟨hbreaks, htrim⟩ := htelling t ht
    have halike := h t hbreaks
    rwa [mayBeUntouched_append ha hwordA hbreaks, mayBeUntouched_append hb hwordB hbreaks,
      isLogical_append ha hwordA hbreaks, isLogical_append hb hwordB hbreaks, htrim] at halike
  · intro h t ht
    rw [mayBeUntouched_append ha hwordA ht, mayBeUntouched_append hb hwordB ht,
      isLogical_append ha hwordA ht, isLogical_append hb hwordB ht, h]
    exact ⟨rfl, rfl⟩

/-- A name that goes on behind the letters of a visibility word is a name like any other. -/
theorem countAlike_publicKey :
    isIdentifier "publicKey".toList ∧ isIdentifier "mint".toList ∧ "publicKey".toList ∉ patternWords ∧
      "mint".toList ∉ patternWords ∧ CountAlike "publicKey".toList "mint".toList :=
  ⟨by decide, by decide, by decide, by decide,
    (countAlike_iff_reading_eq (by decide) (by decide) (by decide) (by decide)).2 (by decide)⟩

/-- Not so behind the letters of `function` and of `import`: calls of such names are no statements. -/
theorem not_countAlike_functionCall :
    (∀ name ∈ ["functionCall", "payCall", "importKey", "storeKey"].map String.toList,
      isIdentifier name ∧ name ∉ patternWords) ∧
    Breaks "(x);".toList ∧ Breaks "(k);".toList ∧
    mayBeUntouched "functionCall(x);".toList = false ∧ mayBeUntouched "payCall(x);".toList ∧
    isLogical "importKey(k);".toList = false ∧ isLogical "storeKey(k);".toList ∧
    ¬ CountAlike "functionCall".toList "payCall".toList ∧
    ¬ CountAlike "importKey".toList "storeKey".toList := by
  refine ⟨by decide, by decide, by decide, by decide, by decide, by decide, by decide, ?_, ?_⟩
  · intro h
    exact absurd (h "(x);".toList (by decide)).1 (by decide)
  · intro h
    exact absurd (h "(k);".toList (by decide)).2 (by decide)

end FuzzCoverage.Solidity
