import FuzzCoverage.Solidity.Statement
import FuzzCoverage.Proofs.Solidity.Identifier

/-! # Attributes at the beginning of a line

A line of attributes is passed over from the left, one attribute after the other, and nothing has to
stand between two of them.  So an identifier that consists of attributes run together, such as
`publicview`, is passed over like the attributes themselves, and whether the line is one of attributes
only depends on the last of them and on what follows the identifier (`isAttributesOnly_append`). -/

namespace FuzzCoverage.Solidity

open Text Heading

/-! ## How far attributes reach -/

theorem length_afterParentheses?_lt {t rest : Text} (h : afterParentheses? t = some rest) :
    rest.length < t.length := by
  have hblanks := length_trimStart_le t
  unfold afterParentheses? at h
  split at h
  · next inner hopen =>
    obtain ⟨⟨before, after⟩, hcut, rfl⟩ := Option.map_eq_some_iff.1 h
    rw [hopen, ← append_of_cut? hcut] at hblanks
    simp only [List.length_cons, List.length_append] at hblanks ⊢
    omega
  · cases h

theorem length_afterAttribute?_lt {t rest : Text} (h : afterAttribute? t = some rest) :
    rest.length < t.length := by
  have hplain : ∀ word ∈ plainAttributes, 0 < word.length := by decide
  simp only [afterAttribute?, Option.orElse_eq_orElse, Option.orElse_eq_or, Option.or_eq_some_iff] at h
  rcases h with h | ⟨-, h | ⟨-, h⟩⟩
  · obtain ⟨word, hmem, hafter⟩ := List.exists_of_findSome?_eq_some h
    have hlength := length_of_after? hafter
    have hpos := hplain word hmem
    omega
  · obtain ⟨after, hafter, hlist⟩ := Option.map_eq_some_iff.1 h
    have hlength := length_of_after? hafter
    have hle : rest.length ≤ after.length := by
      cases hparentheses : afterParentheses? after with
      | none => simp_all
      | some inner =>
        obtain rfl : inner = rest := by simpa [hparentheses] using hlist
        exact Nat.le_of_lt (length_afterParentheses?_lt hparentheses)
    have hpos : 0 < "override".toList.length := by decide
    omega
  · obtain ⟨after, hafter, hlist⟩ := Option.bind_eq_some_iff.1 h
    have hlength := length_of_after? hafter
    have hlt := length_afterParentheses?_lt hlist
    omega

/-- As much fuel as there are characters is enough, and more changes nothing. -/
theorem skipAttributes_congr {n m : Nat} {t : Text} (hn : t.length ≤ n) (hm : t.length ≤ m) :
    skipAttributes n t = skipAttributes m t := by
  have hnil : ∀ n, skipAttributes n [] = [] := by
    intro n
    cases n <;> rfl
  -- by induction on the fuel, since an attribute takes one character at least
  induction n generalizing m t with
  | zero => rw [List.length_eq_zero_iff.1 (Nat.le_zero.1 hn), hnil, hnil]
  | succ n ih =>
    cases m with
    | zero => rw [List.length_eq_zero_iff.1 (Nat.le_zero.1 hm), hnil, hnil]
    | succ m =>
      rw [skipAttributes, skipAttributes]
      cases hafter : afterAttribute? t with
      | none => rfl
      | some rest =>
        have hlt := length_afterAttribute?_lt hafter
        have hblanks := length_trimStart_le rest
        exact ih (by omega) (by omega)

/-! ## What ends a heading -/

/-- Whether nothing but attributes goes on with a heading, and perhaps the brace or the semicolon
    after them. -/
def endsHeading (t : Text) : Bool :=
  let rest := skipAttributes t.length t.trimStart
  rest.isEmpty || rest = ['\x7b'] || rest = [';']

theorem isAttributesOnly_eq (code : Text) : isAttributesOnly code = (afterAttribute? code).any endsHeading := by
  rw [isAttributesOnly]
  cases afterAttribute? code <;> rfl

/-- A text that goes on with a word ends a heading if the word is an attribute and what follows ends
    it. -/
theorem endsHeading_of_not_breaks {t : Text} (h : ¬ Breaks t) : endsHeading t = isAttributesOnly t := by
  rw [isAttributesOnly_eq, endsHeading, trimStart_of_not_breaks h]
  obtain ⟨c, rest, rfl, hc⟩ := exists_cons_of_not_breaks h
  rw [List.length_cons, skipAttributes]
  cases hafter : afterAttribute? (c :: rest) with
  | none =>
    have hbrace : c ≠ '\x7b' := ne_of_inIdentifier hc (by decide)
    have hsemicolon : c ≠ ';' := ne_of_inIdentifier hc (by decide)
    simp [hbrace, hsemicolon]
  | some after =>
    have hlt := length_afterAttribute?_lt hafter
    have hblanks := length_trimStart_le after
    rw [List.length_cons] at hlt
    have hskip : skipAttributes rest.length after.trimStart = skipAttributes after.length after.trimStart :=
      skipAttributes_congr (by omega) hblanks
    simp only [hskip, Option.any_some, endsHeading]

/-! ## Attributes that are run together -/

/-- Attributes of a heading, told apart by the parenthesised list after them. -/
inductive AttributeKind where
  | plain
  /-- A list may follow. -/
  | override
  /-- A list follows. -/
  | returns
  deriving DecidableEq, Repr

def AttributeKind.endsHeading : AttributeKind → Text → Bool
  | .plain, t => Solidity.endsHeading t
  | .override, t => Solidity.endsHeading ((afterParentheses? t).getD t)
  | .returns, t => (afterParentheses? t).any Solidity.endsHeading

/-- The last of the attributes that a text consists of without anything between them, at most
    `fuel` of them. -/
def lastAttribute? : Nat → Text → Option AttributeKind
  | 0, _ => none
  | fuel + 1, t =>
    match plainAttributes.findSome? (t.after? ·) with
    | some rest => if rest.isEmpty then some .plain else lastAttribute? fuel rest
    | none =>
      match t.after? "override".toList with
      | some rest => if rest.isEmpty then some .override else lastAttribute? fuel rest
      | none => if t = "returns".toList then some .returns else none

example : lastAttribute? 20 "publicviewoverride".toList = some .override ∧
    lastAttribute? 20 "publicity".toList = none := by decide

theorem all_isAlpha_of_lastAttribute? {fuel : Nat} {a : Text} {last : AttributeKind}
    (h : lastAttribute? fuel a = some last) : a.all Char.isAlpha := by
  have hplain : ∀ word ∈ plainAttributes, word.all Char.isAlpha := by decide
  have hsplit : ∀ {a word rest : Text}, a.after? word = some rest → word.all Char.isAlpha →
      rest.all Char.isAlpha → a.all Char.isAlpha := by
    intro a word rest hafter hword hrest
    rw [← append_of_after? hafter, List.all_append, hword, hrest]
    rfl
  induction fuel generalizing a with
  | zero => cases h
  | succ fuel ih =>
    have hrest : ∀ {kind : AttributeKind} {rest : Text},
        (if rest.isEmpty then some kind else lastAttribute? fuel rest) = some last → rest.all Char.isAlpha := by
      intro kind rest heq
      cases rest with
      | nil => rfl
      | cons c rest => exact ih heq
    rw [lastAttribute?] at h
    split at h
    · next rest hfirst =>
      obtain ⟨word, hmem, hafter⟩ := List.exists_of_findSome?_eq_some hfirst
      exact hsplit hafter (hplain word hmem) (hrest h)
    · split at h
      · next rest hoverride => exact hsplit hoverride (by decide) (hrest h)
      · split at h
        · next heq =>
          rw [heq]
          decide
        · cases h

theorem afterParentheses?_of_not_breaks {t : Text} (h : ¬ Breaks t) : afterParentheses? t = none := by
  rw [afterParentheses?, trimStart_of_not_breaks h]
  obtain ⟨c, rest, rfl, hc⟩ := exists_cons_of_not_breaks h
  split
  · next heq => exact absurd (List.cons.inj heq).1 (ne_of_inIdentifier hc (by decide))
  · rfl

theorem findSome?_after?_append {words : List Text} (hwords : ∀ word ∈ words, word.all inIdentifier)
    (a : Text) {t : Text} (ht : Breaks t) :
    words.findSome? ((a ++ t).after? ·) = (words.findSome? (a.after? ·)).map (· ++ t) := by
  induction words with
  | nil => rfl
  | cons word words ih =>
    obtain ⟨hword, hrest⟩ := List.forall_mem_cons.1 hwords
    rw [List.findSome?_cons, List.findSome?_cons, after?_append_of_breaks hword a ht, ih hrest]
    cases a.after? word <;> rfl

/-- An identifier is passed over as attributes if it consists of them, and then what follows the last
    of them decides. -/
theorem isAttributesOnly_append {fuel : Nat} {a : Text} (ha : a.all inIdentifier) (hne : a ≠ [])
    (hfuel : a.length ≤ fuel) {t : Text} (ht : Breaks t) :
    isAttributesOnly (a ++ t) = (lastAttribute? fuel a).any (·.endsHeading t) := by
  have hplain : ∀ word ∈ plainAttributes, word.all inIdentifier ∧ 0 < word.length := by decide
  induction fuel generalizing a with
  | zero => exact absurd (List.length_eq_zero_iff.1 (Nat.le_zero.1 hfuel)) hne
  | succ fuel ih =>
    -- behind a word of the identifier there is more of it, or else `t`
    have hmore : ∀ {word rest : Text}, a.after? word = some rest → rest ≠ [] → ¬ Breaks (rest ++ t) :=
      fun hafter hrest => not_breaks_append (not_breaks_of_all (all_of_after? ha hafter) hrest) t
    have hgoesOn : ∀ {word rest : Text} (kind : AttributeKind), a.after? word = some rest →
        0 < word.length → rest ≠ [] →
        endsHeading (rest ++ t) =
          (if rest.isEmpty then some kind else lastAttribute? fuel rest).any (·.endsHeading t) := by
      intro word rest kind hafter hpos hrest
      have hlength := length_of_after? hafter
      rw [endsHeading_of_not_breaks (hmore hafter hrest), if_neg (by simpa using hrest)]
      exact ih (all_of_after? ha hafter) hrest (by omega)
    -- the same word is found in front of what follows the identifier
    rw [isAttributesOnly_eq, afterAttribute?, lastAttribute?,
      findSome?_after?_append (fun word hword => (hplain word hword).1) a ht,
      after?_append_of_breaks (by decide) a ht, after?_append_of_breaks (by decide) a ht]
    cases hfirst : plainAttributes.findSome? (a.after? ·) with
    | some rest =>
      obtain ⟨word, hmem, hafter⟩ := List.exists_of_findSome?_eq_some hfirst
      by_cases hrest : rest = []
      · subst hrest
        rfl
      · exact hgoesOn .plain hafter (hplain word hmem).2 hrest
    | none =>
      cases hoverride : a.after? "override".toList with
      | some rest =>
        by_cases hrest : rest = []
        · subst hrest
          rfl
        · show endsHeading ((afterParentheses? (rest ++ t)).getD (rest ++ t)) = _
          rw [afterParentheses?_of_not_breaks (hmore hoverride hrest)]
          exact hgoesOn .override hoverride (by decide) hrest
      | none =>
        cases hreturns : a.after? "returns".toList with
        | some rest =>
          show (afterParentheses? (rest ++ t)).any endsHeading = _
          have hsplit := append_of_after? hreturns
          by_cases hrest : rest = []
          · subst hrest
            rw [List.append_nil] at hsplit
            rw [if_pos hsplit.symm]
            rfl
          · have hlonger : a ≠ "returns".toList := by
              rintro rfl
              exact hrest (List.append_right_eq_self.1 hsplit)
            rw [afterParentheses?_of_not_breaks (hmore hreturns hrest), if_neg hlonger]
            rfl
        | none =>
          have hother : a ≠ "returns".toList := by
            rintro rfl
            cases hreturns
          rw [if_neg hother]
          rfl

end FuzzCoverage.Solidity
