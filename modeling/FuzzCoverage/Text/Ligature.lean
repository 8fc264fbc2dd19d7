import FuzzCoverage.Text.Basic
import FuzzCoverage.Text.MarkTable

/-! # Ligatures

Some letters are drawn as one with the letters after them, and some characters turn into an emoji
when a selector follows.  What a character adds to the width of a text can thus hang on what comes
after it.  Of the emoji only those matter that a word may hold, which are letters and digits by
themselves. -/

namespace FuzzCoverage.Text

def joiner : Char := '\u200d'

def textSelector : Char := '\ufe0e'

def emojiSelector : Char := '\ufe0f'

def keycap : Char := '\u20e3'

def consonantJoiner : Char := '\u2d7f'

/-! ## Classes of letters -/

def ignorableRanges : CharRanges := [
  (0x34F, 0x34F), (0x17B4, 0x17B5), (0x180B, 0x180D), (0x180F, 0x180F), (0x200D, 0x200D),
  (0xFE00, 0xFE0F), (0xE0100, 0xE01EF)]

def alefRanges : CharRanges := [
  (0x622, 0x623), (0x625, 0x625), (0x627, 0x627), (0x671, 0x673), (0x675, 0x675), (0x773, 0x774),
  (0x870, 0x882)]

def lamRanges : CharRanges := [
  (0x644, 0x644), (0x6B5, 0x6B8), (0x76A, 0x76A), (0x8A6, 0x8A6), (0x8C7, 0x8C7)]

/-- The Khmer letters whose subscript form needs no room beside the letter it stands below. -/
def subscriptRanges : CharRanges := [
  (0x1780, 0x1782), (0x1784, 0x1787), (0x1789, 0x178C), (0x178E, 0x1793), (0x1795, 0x1798),
  (0x179B, 0x179D), (0x17A0, 0x17A0), (0x17A2, 0x17A2), (0x17A7, 0x17A7), (0x17AB, 0x17AC),
  (0x17AF, 0x17AF)]

def tifinaghRanges : CharRanges := [(0x2D31, 0x2D65), (0x2D6F, 0x2D6F)]

def firstToneRanges : CharRanges := [(0xA4F8, 0xA4FB)]

def secondToneRanges : CharRanges := [(0xA4FC, 0xA4FD)]

def emojiFormRanges : CharRanges := [
  (0x30, 0x39), (0x2139, 0x2139), (0x24C2, 0x24C2), (0x1F170, 0x1F171), (0x1F17E, 0x1F17F)]

/-- Whether a character is a mark that Arabic letters join across. -/
def isArabicTransparent (c : Char) : Bool := nonspacingRanges.has c && c != consonantJoiner

/-! ## What follows a character -/

/-- What follows a character.  `joined` tells of a letter whether a joiner stands before it. -/
inductive Follower where
  | other
  /-- An alef, perhaps with marks before it. -/
  | alef
  | lamed (joined : Bool)
  | ya (joined : Bool)
  /-- The Buginese vowel sign i, a joiner and ya. -/
  | signAndYa
  | tifinagh (joined : Bool)
  /-- The joiner of consonants and a consonant of Tifinagh. -/
  | joinerAndTifinagh
  | secondTone
  | orkhonI (joined : Bool)
  | subscript
  /-- The Kirat Rai vowel sign e. -/
  | vowelE
  /-- The Kirat Rai vowel sign ai, which is e twice. -/
  | vowelAi
  | emoji
  | joinedEmoji
  /-- A keycap, a joiner and a character in its emoji form. -/
  | joinedKeycap
  deriving DecidableEq, Repr

namespace Follower

def of (c : Char) : Follower :=
  if alefRanges.has c then .alef
  else if c = '\u05dc' then .lamed false
  else if c = '\u1a10' then .ya false
  else if tifinaghRanges.has c then .tifinagh false
  else if secondToneRanges.has c then .secondTone
  else if c = Char.ofNat 0x10C03 then .orkhonI false
  else if subscriptRanges.has c then .subscript
  else if c = Char.ofNat 0x16D67 then .vowelE
  else if c = Char.ofNat 0x16D68 then .vowelAi
  else .other

/-- Whether a joiner and the marks that may be ignored leave it what it is. -/
def isOpen : Follower → Bool
  | .lamed _ | .ya _ | .signAndYa | .tifinagh _ | .joinerAndTifinagh | .secondTone | .orkhonI _
  | .subscript => true
  | _ => false

/-- Whether a selector of the text form leaves it what it is. -/
def isScript (f : Follower) : Bool := f.isOpen || f = .alef

/-- Whether it is part of a sequence of emoji that goes on before it. -/
def isEmojiSequence (f : Follower) : Bool := f = .joinedEmoji || f = .joinedKeycap

def keepsSelector (f : Follower) : Bool := f.isScript || f.isEmojiSequence

def withJoiner : Follower → Follower
  | .lamed _ => .lamed true
  | .ya _ => .ya true
  | .tifinagh _ => .tifinagh true
  | .orkhonI _ => .orkhonI true
  | f => f

/-- What a character adds to the width that joins with what follows it, and what the two are for the
    characters before them; `none` when the two do not join. -/
def join? (f : Follower) (c : Char) : Option (Int × Follower) :=
  match f with
  | .alef =>
    if lamRanges.has c then some (0, .other)
    else if isArabicTransparent c then some (0, .alef)
    else none
  | .lamed true => if c = '\u05d0' then some (0, .other) else none
  | .ya true => if c = '\u1a17' then some (0, .signAndYa) else none
  | .signAndYa => if c = '\u1a15' then some (0, .other) else none
  | .tifinagh joined =>
    if c = consonantJoiner then some (1, .joinerAndTifinagh)
    else if joined && tifinaghRanges.has c then some (0, .other)
    else none
  | .joinerAndTifinagh => if tifinaghRanges.has c then some (-1, .other) else none
  | .secondTone => if firstToneRanges.has c then some (0, .other) else none
  | .orkhonI true => if c = Char.ofNat 0x10C32 then some (0, .other) else none
  | .subscript => if c = '\u17d2' then some (-1, .other) else none
  | .vowelE =>
    if c = Char.ofNat 0x16D63 then some (0, .other)
    else if c = Char.ofNat 0x16D67 then some (0, .vowelAi)
    else if c = Char.ofNat 0x16D68 then some (1, .vowelE)
    else if c = Char.ofNat 0x16D69 then some (0, .other)
    else none
  | .vowelAi => if c = Char.ofNat 0x16D63 then some (0, .other) else none
  | .emoji => if c = joiner then some (0, .joinedEmoji) else none
  | .joinedEmoji => if c = keycap then some (0, .joinedKeycap) else none
  | _ => none

end Follower

end FuzzCoverage.Text
