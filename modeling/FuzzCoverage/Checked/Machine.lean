import FuzzCoverage.Count

/-! # Operations that can be refused

Counts and signed numbers are kept in words of 64 bits, and texts are cut at bytes.  Each operation
that has a range checks it, and is refused with a `Fault` outside of it. -/

namespace FuzzCoverage

open Decimal (word64)

inductive Fault where
  | overflow (o : Overflow)
  | underflow
  | signedOverflow
  | noEntry
  /-- A text would be cut inside of a character or past its end. -/
  | noBoundary
  deriving DecidableEq, Repr

def Text.byteCount (t : Text) : Nat := Count.total (t.map Char.utf8Size)

namespace Checked

/-! ## Words -/

def add (a b : Nat) : Except Fault Nat := (Count.add a b).mapError .overflow

def sub (a b : Nat) : Except Fault Nat := if b ≤ a then .ok (a - b) else .error .underflow

/-- The number of values that a signed word holds on each side of zero. -/
def signedLimit : Nat := Nat.pow 2 63

def signedWord (n : Int) : Except Fault Int :=
  if -signedLimit ≤ n ∧ n < signedLimit then .ok n else .error .signedOverflow

def signedAdd (a b : Int) : Except Fault Int := signedWord (a + b)

def signedSub (a b : Int) : Except Fault Int := signedWord (a - b)

/-- The bits of a count as a signed number.  Any word is one, but the upper half of the counts turns
    negative. -/
def signed (n : Nat) : Int := Int.bmod n word64

/-! ## Lists and texts -/

variable {α : Type}

def entry (l : List α) (i : Nat) : Except Fault α := l[i]?.elim (.error .noEntry) .ok

def fromByte : Nat → Text → Except Fault Text
  | 0, t => .ok t
  | _ + 1, [] => .error .noBoundary
  | n + 1, c :: rest =>
    if c.utf8Size ≤ n + 1 then fromByte (n + 1 - c.utf8Size) rest else .error .noBoundary

/-! ## When they are not refused -/

section

variable {β : Type}

@[simp] theorem ok_bind (a : α) (next : α → Except Fault β) : (Except.ok a >>= next) = next a := rfl

@[simp] theorem pure_eq_ok (a : α) : (pure a : Except Fault α) = .ok a := rfl

end

theorem add_eq {a b : Nat} (h : a + b < word64) : add a b = .ok (a + b) := by
  have hfits : Count.fits (a + b) := decide_eq_true h
  rw [add, Count.add, if_pos hfits]
  rfl

theorem sub_eq {a b : Nat} (h : b ≤ a) : sub a b = .ok (a - b) := if_pos h

theorem signedWord_eq {n : Int} (h : n.natAbs < signedLimit) : signedWord n = .ok n := by
  apply if_pos
  omega

theorem signed_eq {n : Nat} (h : n < signedLimit) : signed n = n := by
  have hlimit : word64 = 2 * signedLimit := by decide
  apply Int.bmod_eq_of_le
  · omega
  · omega

theorem entry_eq {l : List α} {i : Nat} {a : α} (h : l[i]? = some a) : entry l i = .ok a := by
  rw [entry, h]
  rfl

theorem mapM_eq_map {β : Type} {f : α → Except Fault β} {g : α → β} {l : List α}
    (h : ∀ a ∈ l, f a = .ok (g a)) : l.mapM f = .ok (l.map g) := by
  induction l with
  | nil => rfl
  | cons a l ih =>
    have hrest : l.mapM f = .ok (l.map g) := ih fun b hb => h b (List.mem_cons_of_mem a hb)
    rw [List.mapM_cons, h a List.mem_cons_self, hrest]
    rfl

end Checked

/-! ## Bytes -/

namespace Text

@[simp] theorem byteCount_nil : byteCount [] = 0 := rfl

@[simp] theorem byteCount_cons (c : Char) (t : Text) : byteCount (c :: t) = c.utf8Size + t.byteCount := rfl

@[simp] theorem byteCount_append (t u : Text) : (t ++ u).byteCount = t.byteCount + u.byteCount := by
  induction t with
  | nil => exact (Nat.zero_add _).symm
  | cons c rest ih =>
    have hrest : byteCount (rest ++ u) = byteCount rest + byteCount u := ih
    rw [List.cons_append, byteCount_cons, byteCount_cons, hrest, Nat.add_assoc]

theorem length_le_byteCount (t : Text) : t.length ≤ t.byteCount := by
  induction t with
  | nil => exact Nat.le_refl _
  | cons c rest ih =>
    have hpos := c.utf8Size_pos
    rw [byteCount_cons, List.length_cons]
    omega

theorem fromByte_append (t u : Text) : Checked.fromByte t.byteCount (t ++ u) = .ok u := by
  induction t with
  | nil => simp [Checked.fromByte]
  | cons c rest ih =>
    have hbytes := byteCount_cons c rest
    obtain ⟨n, hn⟩ := Nat.exists_eq_succ_of_ne_zero (Nat.ne_of_gt c.utf8Size_pos)
    have hrest : n + byteCount rest + 1 - c.utf8Size = byteCount rest := by omega
    have hsum : byteCount (c :: rest) = n + byteCount rest + 1 := by omega
    rw [hsum, List.cons_append, Checked.fromByte, if_pos (by omega), hrest, ih]

example : Checked.fromByte 1 "é = 1".toList = .error .noBoundary := rfl

end Text

end FuzzCoverage
