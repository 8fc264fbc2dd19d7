import FuzzCoverage.Solidity.Heading
import Mathlib.Data.List.Infix

/-! # The extent of a signature

A signature goes from where its unit begins on a line of code (`Heading.start`) up to the brace of its
body (`beforeBody`).  Braces within its parentheses are its own. -/

namespace FuzzCoverage.Solidity

open Text

/-! ## Where a heading begins -/

namespace Heading

/-- Where the first function begins in a text whose preceding character belongs to a word or does
    not. -/
def functionStart? (afterWordChar : Bool) : Text → Option Nat
  | [] => none
  | c :: rest =>
    if !afterWordChar && (functionHere? (c :: rest)).isSome then some 0
    else (functionStart? (isWord c) rest).map (· + 1)

/-- Where the unit begins that is found on a line of code. -/
def start (code : Text) : Nat := (functionStart? false code).getD 0

theorem functionStart?_spec {afterWordChar : Bool} {code : Text} {n : Nat}
    (h : functionStart? afterWordChar code = some n) :
    n < code.length ∧ (n = 0 → afterWordChar = false) ∧
      ∀ c ∈ (code.take n).getLast?, isWord c = false := by
  induction code generalizing afterWordChar n with
  | nil => cases h
  | cons c rest ih =>
    rw [functionStart?] at h
    split at h
    · next hhere =>
      cases h
      simp only [Bool.and_eq_true, Bool.not_eq_true'] at hhere
      exact ⟨by simp, fun _ => hhere.1, by simp⟩
    · obtain ⟨m, hm, rfl⟩ := Option.map_eq_some_iff.1 h
      obtain ⟨hlength, hzero, hlast⟩ := ih hm
      refine ⟨by simpa using hlength, by simp, ?_⟩
      cases m with
      | zero => simpa using hzero rfl
      | succ m =>
        -- the last character is one of the rest
        cases rest with
        | nil => simp at hlength
        | cons d rest => simpa [List.getLast?_cons] using hlast

theorem start_le (code : Text) : start code ≤ code.length := by
  unfold start
  cases h : functionStart? false code with
  | none => exact Nat.zero_le _
  | some n => exact (functionStart?_spec h).1.le

theorem not_isWord_before_start (code : Text) :
    ∀ c ∈ (code.take (start code)).getLast?, isWord c = false := by
  unfold start
  cases h : functionStart? false code with
  | none => simp
  | some n => exact (functionStart?_spec h).2.2

end Heading

/-! ## Where a signature ends -/

/-- What stands before the first opening brace that is in no parentheses, where so many of these are
    open already. -/
def beforeBody : Nat → Text → Text
  | _, [] => []
  | opened, c :: rest =>
    if c = '\x7b' ∧ opened = 0 then []
    else c :: beforeBody (if c = '(' then opened + 1 else if c = ')' then opened - 1 else opened) rest

theorem beforeBody_prefix (opened : Nat) (t : Text) : beforeBody opened t <+: t := by
  fun_induction beforeBody opened t with
  | case1 opened => exact List.prefix_rfl
  | case2 opened c rest hbody => exact List.nil_prefix
  | case3 opened c rest hbody ih => exact (List.prefix_cons_inj c).2 ih

theorem head?_drop_beforeBody (opened : Nat) (t : Text) :
    ∀ c ∈ (t.drop (beforeBody opened t).length).head?, c = '\x7b' := by
  fun_induction beforeBody opened t with
  | case1 opened => simp
  | case2 opened c rest hbody => simp [hbody.1]
  | case3 opened c rest hbody ih => simpa using ih

/-- A signature that does not end in a text goes on in what follows. -/
theorem beforeBody_append (opened : Nat) (t u : Text) :
    beforeBody opened (t ++ u) = beforeBody opened t ∨
      beforeBody opened t = t ∧ t <+: beforeBody opened (t ++ u) := by
  fun_induction beforeBody opened t with
  | case1 opened => exact Or.inr ⟨rfl, List.nil_prefix⟩
  | case2 opened c rest hbody => exact Or.inl (by simp [beforeBody, hbody])
  | case3 opened c rest hbody ih =>
    rw [List.cons_append, beforeBody, if_neg hbody]
    cases ih with
    | inl hends => exact Or.inl (by rw [hends])
    | inr hgoes => exact Or.inr ⟨by rw [hgoes.1], (List.prefix_cons_inj c).2 hgoes.2⟩

end FuzzCoverage.Solidity
