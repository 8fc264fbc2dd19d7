import FuzzCoverage.Proofs.Solidity.Identifier
import Mathlib.Data.List.TakeWhile

/-! # Looking for a function in texts that are put together

The search for the beginning of a function goes from the left through a text.  A character that may
stand between two pieces of code divides it into two searches (`findFunction?_append_cons`), and blanks,
names and words that no `f` begins are passed over. -/

namespace FuzzCoverage.Solidity.Heading

open Text

theorem functionHere?_eq_none {t : Text} (h : named? "function".toList t = none) : functionHere? t = none := by
  rw [functionHere?, h]
  rfl

theorem functionHere?_cons_of_ne {c : Char} (h : c ≠ 'f') (t : Text) : functionHere? (c :: t) = none := by
  refine functionHere?_eq_none ?_
  have hafter : after? (c :: t) "function".toList = none := (after?_cons_cons c 'f' _ _).trans (if_neg h)
  rw [named?, hafter]
  rfl

theorem findFunction?_cons {c : Char} {t : Text} (h : functionHere? (c :: t) = none) (afterWordChar : Bool) :
    findFunction? afterWordChar (c :: t) = findFunction? (isWord c) t := by
  cases afterWordChar <;> simp [findFunction?, h]

/-- What stands before a text does not matter if no function begins the text. -/
theorem findFunction?_of_head? {t : Text} (h : ∀ c ∈ t.head?, c ≠ 'f') (afterWordChar : Bool) :
    findFunction? afterWordChar t = findFunction? false t := by
  cases t with
  | nil => rfl
  | cons c rest =>
    have hnone := functionHere?_cons_of_ne (h c rfl) rest
    rw [findFunction?_cons hnone, findFunction?_cons hnone]

theorem findFunction?_blanks {blanks : Text} (h : blanks.allBlank) (t : Text) :
    findFunction? false (blanks ++ t) = findFunction? false t := by
  induction blanks with
  | nil => rfl
  | cons c blanks ih =>
    rw [allBlank, List.all_cons, Bool.and_eq_true] at h
    have hletter : c ≠ 'f' := by rintro rfl; exact absurd h.1 (by decide)
    rw [List.cons_append, findFunction?_cons (functionHere?_cons_of_ne hletter _), isWord_of_isBlank h.1,
      ih h.2]

theorem findFunction?_letters {word t : Text} (hword : 'f' ∉ word) (ht : ∀ c ∈ t.head?, c ≠ 'f')
    (afterWordChar : Bool) : findFunction? afterWordChar (word ++ t) = findFunction? false t := by
  induction word generalizing afterWordChar with
  | nil => exact findFunction?_of_head? ht afterWordChar
  | cons c word ih =>
    obtain ⟨hc, hrest⟩ := List.ne_and_not_mem_of_not_mem_cons hword
    rw [List.cons_append, findFunction?_cons (functionHere?_cons_of_ne hc.symm _), ih hrest]

/-- An identifier does not reach over a character that is part of none. -/
theorem identifier?_append_of_breaks (t : Text) {u : Text} (hu : Breaks u) :
    identifier? (t ++ u) = (identifier? t).map fun found => (found.1, found.2 ++ u) := by
  cases t with
  | nil =>
    cases u with
    | nil => rfl
    | cons c u =>
      have hbegins : beginsIdentifier c = false :=
        Bool.eq_false_iff.2 fun h => Bool.eq_false_iff.1 (hu c rfl) (inIdentifier_of_begins h)
      simp [identifier?, hbegins]
  | cons d t =>
    rw [List.cons_append, identifier?, identifier?, takeWhile_append_of_head? t hu,
      dropWhile_append_of_head? t hu]
    split <;> rfl

theorem identifier?_of_isIdentifier {a : Text} (ha : isIdentifier a) : identifier? a = some (a, []) := by
  cases a with
  | nil => cases ha
  | cons c a =>
    rw [isIdentifier, Bool.and_eq_true, List.all_eq_true] at ha
    rw [identifier?, if_pos ha.1, List.takeWhile_eq_self_iff.2 ha.2, List.dropWhile_eq_nil_iff.2 ha.2]

/-- An identifier that ends in the word `function` begins none unless a name follows. -/
theorem functionHere?_append {a t : Text} (ha : a.all inIdentifier) (ht : Breaks t)
    (hname : ∀ c ∈ t.trimStart.head?, beginsIdentifier c = false) : functionHere? (a ++ t) = none := by
  refine functionHere?_eq_none ?_
  rw [named?, after?_append_of_breaks (by decide) a ht]
  cases hafter : a.after? "function".toList with
  | none => rfl
  | some rest =>
    simp only [Option.map_some, Option.bind_eq_bind, Option.bind_some]
    cases rest with
    | nil =>
      -- the word ends with the identifier, and a name would have to come next
      rw [List.nil_append]
      split
      · cases htrim : t.trimStart with
        | nil => rfl
        | cons c tail =>
          rw [htrim] at hname
          simp [identifier?, hname c rfl]
      · rfl
    | cons c tail =>
      -- the identifier goes on where a blank would have to stand
      have hrest := all_of_after? ha hafter
      rw [List.all_cons, Bool.and_eq_true] at hrest
      simp [not_isBlank_of_inIdentifier hrest.1]

theorem findFunction?_identifier {a t : Text} (ha : a.all inIdentifier) (ht : Breaks t)
    (hname : ∀ c ∈ t.trimStart.head?, beginsIdentifier c = false) (afterWordChar : Bool) :
    findFunction? afterWordChar (a ++ t) = findFunction? false t := by
  induction a generalizing afterWordChar with
  | nil =>
    refine findFunction?_of_head? (fun c hc => ?_) afterWordChar
    rintro rfl
    exact absurd (ht 'f' hc) (by decide)
  | cons c a ih =>
    have hnone : functionHere? (c :: (a ++ t)) = none := functionHere?_append ha ht hname
    rw [List.all_cons, Bool.and_eq_true] at ha
    rw [List.cons_append, findFunction?_cons hnone, ih ha.2]

/-- A character that divides code from what follows, so that no heading reaches over it. -/
structure Separates (c : Char) : Prop where
  breaks : inIdentifier c = false
  notBlank : isBlank c = false
  notOpening : c ≠ '('

theorem functionHere?_append_cons {c : Char} (hc : Separates c) (t u : Text) :
    functionHere? (t ++ c :: u) = functionHere? t := by
  have hbreaks : Breaks (c :: u) := by
    rintro d ⟨⟩
    exact hc.breaks
  rw [functionHere?, functionHere?, named?, named?, after?_append_of_breaks (by decide) t hbreaks]
  cases t.after? "function".toList with
  | none => rfl
  | some rest =>
    have hhead : (rest ++ c :: u).head?.any isBlank = rest.head?.any isBlank := by
      cases rest <;> simp [hc.notBlank]
    simp only [Option.map_some, Option.bind_eq_bind, Option.bind_some, hhead]
    split
    · rw [trimStart_append_cons hc.notBlank, identifier?_append_of_breaks _ hbreaks]
      cases identifier? rest.trimStart with
      | none => rfl
      | some found =>
        have hlist : opensList (found.2 ++ c :: u) = opensList found.2 := by
          rw [opensList, opensList, trimStart_append_cons hc.notBlank]
          cases trimStart found.2 <;> simp [hc.notOpening]
        simp [hlist]
    · rfl

theorem findFunction?_append_cons {c : Char} (hc : Separates c) (t u : Text) (afterWordChar : Bool) :
    findFunction? afterWordChar (t ++ c :: u) =
      (findFunction? afterWordChar t).or (findFunction? false u) := by
  induction t generalizing afterWordChar with
  | nil =>
    have hletter : c ≠ 'f' := by
      rintro rfl
      exact absurd hc.breaks (by decide)
    rw [List.nil_append, findFunction?_cons (functionHere?_cons_of_ne hletter u),
      not_isWord_of_not_inIdentifier hc.breaks]
    rfl
  | cons d t ih =>
    have hhere : functionHere? (d :: (t ++ c :: u)) = functionHere? (d :: t) :=
      functionHere?_append_cons hc (d :: t) u
    rw [List.cons_append, findFunction?, findFunction?, hhere, ih]
    cases (if afterWordChar then none else functionHere? (d :: t)) <;> rfl

end FuzzCoverage.Solidity.Heading
