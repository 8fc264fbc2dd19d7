import FuzzCoverage.Proofs.Solidity.StringLiteral
import Mathlib.Data.List.Infix

/-! # Brackets that close in order

`depth` is how many more braces a text opens than it closes, and a text is `Balanced` when it closes
every brace that it opens and no other.  The signature of a unit may have braces within its
parentheses (`isSignature`); it is balanced all the same (`balanced_of_isSignature`). -/

namespace FuzzCoverage.Solidity

/-- How many more braces a text opens than it closes. -/
def depth (t : Text) : Int := t.count '\x7b' - t.count '\x7d'

@[simp] theorem depth_nil : depth [] = 0 := rfl

@[simp] theorem depth_append (t u : Text) : depth (t ++ u) = depth t + depth u := by
  simp only [depth, List.count_append]
  omega

theorem depth_cons (c : Char) (t : Text) : depth (c :: t) = depth [c] + depth t :=
  depth_append [c] t

theorem depth_singleton_of_ne {c : Char} (hopen : c ≠ '\x7b') (hclose : c ≠ '\x7d') :
    depth [c] = 0 := by
  simp [depth, hopen, hclose]

@[simp] theorem depth_open (t : Text) : depth ('\x7b' :: t) = 1 + depth t := depth_cons _ t

@[simp] theorem depth_close (t : Text) : depth ('\x7d' :: t) = -1 + depth t := depth_cons _ t

/-- A text closes every brace that it opens, and closes none that it has not opened before. -/
def Balanced (t : Text) : Prop := (∀ first ∈ t.inits, 0 ≤ depth first) ∧ depth t = 0

instance : DecidablePred Balanced := fun _ => instDecidableAnd

theorem Balanced.depth_nonneg {first t : Text} (h : Balanced t) (hfirst : first <+: t) :
    0 ≤ depth first :=
  h.1 first ((List.mem_inits first t).2 hfirst)

/-! ## Signatures -/

/-- Whether a text closes the brackets of a stack, the last one that was opened first, and those that
    it opens itself.  A brace opens within another bracket only. -/
def nests : Text → Text → Bool
  | stack, [] => stack.isEmpty
  | stack, c :: rest =>
    if c = '(' then nests (')' :: stack) rest
    else if c = '\x7b' then !stack.isEmpty && nests ('\x7d' :: stack) rest
    else if c = ')' || c = '\x7d' then stack.head? = some c && nests stack.tail rest
    else nests stack rest

/-- Whether a text may stand before the body of a unit: its brackets close in order, and its braces
    stand within parentheses. -/
def isSignature (t : Text) : Bool := nests [] t

/-- The braces that a stack waits for are those that a text has still to close. -/
theorem depth_of_nests {stack t first rest : Text} (h : nests stack t) (heq : t = first ++ rest) :
    0 ≤ stack.count '\x7d' + depth first ∧ (rest = [] → stack.count '\x7d' + depth first = 0) := by
  induction t generalizing stack first with
  | nil =>
    obtain ⟨rfl, rfl⟩ := List.append_eq_nil_iff.1 heq.symm
    have hempty : stack = [] := by simpa [nests] using h
    simp [hempty]
  | cons c t ih =>
    cases first with
    | nil =>
      refine ⟨by simp, ?_⟩
      rintro rfl
      cases heq
    | cons c' first =>
      obtain ⟨rfl, rfl⟩ := List.cons.inj heq
      rw [nests] at h
      rw [depth_cons]
      -- a parenthesis, a brace that opens, a bracket that closes, any other character
      split at h
      · next hc =>
        subst hc
        simpa [depth] using ih h rfl
      split at h
      · next hc =>
        subst hc
        simp only [Bool.and_eq_true] at h
        have hnext := ih h.2 rfl
        rw [List.count_cons_self] at hnext
        simp only [depth_open, depth_nil]
        constructor
        · omega
        · intro hrest
          have := hnext.2 hrest
          omega
      split at h
      · next _ hopen _ =>
        simp only [Bool.and_eq_true, decide_eq_true_eq] at h
        obtain ⟨stack, rfl⟩ := List.head?_eq_some_iff.1 h.1
        have hnext := ih h.2 rfl
        rw [List.tail_cons] at hnext
        by_cases hclose : c = '\x7d'
        · subst hclose
          rw [List.count_cons_self]
          simp only [depth_close, depth_nil]
          constructor
          · omega
          · intro hrest
            have := hnext.2 hrest
            omega
        · rw [List.count_cons_of_ne hclose, depth_singleton_of_ne hopen hclose, Int.zero_add]
          exact hnext
      · next _ hopen hclosing =>
        have hclose : c ≠ '\x7d' := fun heq => hclosing (by simp [heq])
        rw [depth_singleton_of_ne hopen hclose, Int.zero_add]
        exact ih h rfl

theorem balanced_of_isSignature {t : Text} (h : isSignature t) : Balanced t := by
  refine ⟨fun first hfirst => ?_, ?_⟩
  · obtain ⟨rest, heq⟩ := (List.mem_inits first t).1 hfirst
    simpa using (depth_of_nests h heq.symm).1
  · simpa using (depth_of_nests h (List.append_nil t).symm).2 rfl

end FuzzCoverage.Solidity
