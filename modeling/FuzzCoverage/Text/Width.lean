import FuzzCoverage.Text.Ligature
import FuzzCoverage.Text.WidthTable

/-! # Display width

How many columns a text takes.  A text is added up from its end, since `Following` decides what a
character adds that joins with what comes after it. -/

namespace FuzzCoverage.Text

def charWidth (c : Char) : Nat :=
  if c.toNat < 0x80 || c = consonantJoiner then 1
  else if nonspacingRanges.has c || spacingExtenderRanges.has c || invisibleRanges.has c then 0
  else if wideRanges.has c then 2
  else 1

structure Following where
  follower : Follower := .other
  /-- Whether a selector of the emoji form comes first. -/
  selected : Bool := false
  deriving DecidableEq, Repr

namespace Following

/-- What a character adds that takes its emoji form: nothing if it goes on with a sequence of emoji,
    and else two columns. -/
def emojiWidth (next : Following) : Int := if next.follower.isEmojiSequence then 0 else 2

def unselected (next : Following) : Follower :=
  if next.selected && !next.follower.isScript then .other else next.follower

/-- What a character adds to the width that is not turned into an emoji, and what it and the text
    after it are for the characters before them. -/
def put (f : Follower) (c : Char) : Int × Following :=
  if c.toNat ≤ 0xA0 then (1, {})
  else if c = emojiSelector then (0, ⟨if f.keepsSelector then f else .other, true⟩)
  else if c = textSelector then (0, ⟨if f.isScript then f else .other, false⟩)
  else if f.isOpen && ignorableRanges.has c then
    (0, ⟨if c = joiner then f.withJoiner else f, false⟩)
  else match f.join? c with
    | some (added, f) => (added, ⟨f, false⟩)
    | none => (charWidth c, ⟨.of c, false⟩)

def before (next : Following) (c : Char) : Int × Following :=
  if next.selected && emojiFormRanges.has c then (next.emojiWidth, ⟨.emoji, false⟩)
  else put next.unselected c

end Following

def measure (t : Text) : Int × Following :=
  t.foldr (fun c (total, next) => let (added, next) := next.before c; (total + added, next)) (0, {})

def width (t : Text) : Nat := (measure t).1.toNat

end FuzzCoverage.Text
