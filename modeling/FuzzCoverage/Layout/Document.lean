import FuzzCoverage.Decimal.Rendering

/-! # Documents for programs

A document is a value that other programs read: it is written as indented JSON, with only the
characters escaped that have to be. -/

namespace FuzzCoverage.Layout

/-- A value of a document.  The fields of a record are written in their order. -/
inductive Document where
  | truth (b : Bool)
  | natural (n : Nat)
  | number (x : Float)
  | text (t : Text)
  | list (items : List Document)
  | record (fields : List (Text × Document))

namespace Document

def hexCode (code : Nat) : Text :=
  let digits := Nat.toDigits 16 code
  List.replicate (4 - digits.length) '0' ++ digits

def escapedChar (c : Char) : Text :=
  match c with
  | '"' => ['\\', '"']
  | '\\' => ['\\', '\\']
  | '\x08' => ['\\', 'b']
  | '\x0c' => ['\\', 'f']
  | '\n' => ['\\', 'n']
  | '\r' => ['\\', 'r']
  | '\t' => ['\\', 't']
  | _ => if c.toNat < 0x20 then ['\\', 'u'] ++ hexCode c.toNat else [c]

def escaped (t : Text) : Text := '"' :: t.flatMap escapedChar ++ ['"']

def indent (level : Nat) : Text := List.replicate (2 * level) ' '

/-- Items between brackets, each on a line of its own one level further in. -/
def bracketed (left right : Char) (level : Nat) (items : List Text) : Text :=
  if items.isEmpty then [left, right]
  else
    left :: '\n' :: Text.join [',', '\n'] (items.map (indent (level + 1) ++ ·))
      ++ '\n' :: indent level ++ [right]

mutual

def prettyAt (level : Nat) : Document → Text
  | .truth b => (if b then "true" else "false").toList
  | .natural n => Decimal.digitsOf n
  | .number x => Decimal.withFraction x
  | .text t => escaped t
  | .list items => bracketed '[' ']' level (prettyItems (level + 1) items)
  | .record fields => bracketed '\x7b' '\x7d' level (prettyFields (level + 1) fields)

def prettyItems (level : Nat) : List Document → List Text
  | [] => []
  | item :: rest => prettyAt level item :: prettyItems level rest

def prettyFields (level : Nat) : List (Text × Document) → List Text
  | [] => []
  | (name, value) :: rest =>
    (escaped name ++ [':', ' '] ++ prettyAt level value) :: prettyFields level rest

end

def pretty (d : Document) : Text := prettyAt 0 d

end Document

end FuzzCoverage.Layout
