import FuzzCoverage.Text.Basic

/-! # Reading natural numbers

A natural number is written in decimal digits, with an optional plus sign before them and below a
given limit. -/

namespace FuzzCoverage.Decimal

inductive NaturalFault where
  | empty
  | invalidDigit
  | tooLarge
  deriving DecidableEq, Repr

def NaturalFault.message : NaturalFault → String
  | .empty => "cannot parse integer from empty string"
  | .invalidDigit => "invalid digit found in string"
  | .tooLarge => "number too large to fit in target type"

def digit? (c : Char) : Option Nat :=
  if c.isDigit then some (c.toNat - '0'.toNat) else none

/-- Reads digits from the left after those that made `value`; the first character that is no digit,
    or whose digit takes the value to the limit, ends the reading. -/
def readDigits (limit : Nat) (value : Nat) : Text → Except NaturalFault Nat
  | [] => .ok value
  | c :: rest =>
    match digit? c with
    | none => .error .invalidDigit
    | some d =>
      if value * 10 + d < limit then readDigits limit (value * 10 + d) rest
      else .error .tooLarge

def readNatural (limit : Nat) : Text → Except NaturalFault Nat
  | [] => .error .empty
  | ['+'] => .error .invalidDigit
  | '+' :: digits => readDigits limit 0 digits
  | digits => readDigits limit 0 digits

theorem isDigit_of_readDigits {limit value n : Nat} {t : Text} (h : readDigits limit value t = .ok n) :
    ∀ c ∈ t, c.isDigit := by
  induction t generalizing value with
  | nil => simp
  | cons c rest ih =>
    simp only [readDigits, digit?] at h
    by_cases hdigit : c.isDigit
    · simp only [hdigit, if_true] at h
      split at h
      · exact List.forall_mem_cons.2 ⟨hdigit, ih h⟩
      · cases h
    · simp [hdigit] at h

theorem isDigit_or_plus_of_readNatural {limit n : Nat} {t : Text} (h : readNatural limit t = .ok n) :
    ∀ c ∈ t, c.isDigit ∨ c = '+' := by
  unfold readNatural at h
  split at h
  · cases h
  · cases h
  · exact List.forall_mem_cons.2 ⟨Or.inr rfl, fun c hc => Or.inl (isDigit_of_readDigits h c hc)⟩
  · exact fun c hc => Or.inl (isDigit_of_readDigits h c hc)

theorem le_ofDigitChars (value : Nat) (t : Text) : value ≤ Nat.ofDigitChars 10 t value := by
  induction t generalizing value with
  | nil => exact Nat.le_refl _
  | cons c rest ih =>
    rw [Nat.ofDigitChars_cons]
    exact Nat.le_trans (by omega) (ih _)

theorem readDigits_of_isDigit {limit value : Nat} {t : Text} (hdigits : ∀ c ∈ t, c.isDigit)
    (hlimit : Nat.ofDigitChars 10 t value < limit) :
    readDigits limit value t = .ok (Nat.ofDigitChars 10 t value) := by
  induction t generalizing value with
  | nil => rfl
  | cons c rest ih =>
    obtain ⟨hc, hrest⟩ := List.forall_mem_cons.1 hdigits
    rw [Nat.ofDigitChars_cons, Nat.mul_comm] at hlimit ⊢
    -- what is read so far is no larger than the number, so that it is below the limit too
    have hfits := Nat.lt_of_le_of_lt (le_ofDigitChars _ rest) hlimit
    rw [readDigits, digit?, if_pos hc]
    simp only [if_pos hfits]
    exact ih hrest hlimit

theorem readNatural_toDigits {limit n : Nat} (h : n < limit) :
    readNatural limit (Nat.toDigits 10 n) = .ok n := by
  have hdigits : ∀ c ∈ Nat.toDigits 10 n, c.isDigit :=
    fun c hc => Nat.isDigit_of_mem_toDigits (by decide) (by decide) hc
  have hvalue : Nat.ofDigitChars 10 (Nat.toDigits 10 n) 0 = n :=
    Nat.ofDigitChars_toDigits (by decide) (by decide)
  have hread : readDigits limit 0 (Nat.toDigits 10 n) = .ok n := by
    rw [readDigits_of_isDigit hdigits (hvalue.symm ▸ h), hvalue]
  -- there is a digit, and no sign
  cases htext : Nat.toDigits 10 n with
  | nil => exact absurd htext Nat.toDigits_ne_nil
  | cons c rest =>
    have hsign : c ≠ '+' := by
      rintro rfl
      exact absurd (hdigits '+' (by simp [htext])) (by decide)
    rw [htext] at hread
    rw [readNatural]
    · exact hread
    · simp
    · simp [hsign]
    · simp [hsign]

def word32 : Nat := Nat.pow 2 32

def word64 : Nat := Nat.pow 2 64

end FuzzCoverage.Decimal
