import FuzzCoverage.Text.Width

/-! # Grids

A grid is a header and rows of cells, drawn with box characters.  Every cell is padded to the
width of its column, which is the display width of its widest cell. -/

namespace FuzzCoverage.Layout

structure Grid where
  header : List Text
  rows : List (List Text)

/-- The characters of a horizontal line: its left end, what it is drawn with, where it crosses a
    column line, and its right end. -/
structure RuleStyle where
  left : Char
  fill : Char
  cross : Char
  right : Char

def topRule : RuleStyle := ⟨'┌', '─', '┬', '┐'⟩

def headerRule : RuleStyle := ⟨'╞', '═', '╪', '╡'⟩

def innerRule : RuleStyle := ⟨'├', '╌', '┼', '┤'⟩

def bottomRule : RuleStyle := ⟨'└', '─', '┴', '┘'⟩

namespace Grid

variable (g : Grid)

def widths : List Nat :=
  g.rows.foldl (fun widths row => List.zipWith max widths (row.map Text.width))
    (g.header.map Text.width)

def rule (style : RuleStyle) (widths : List Nat) : Text :=
  style.left :: Text.join [style.cross] (widths.map fun w => List.replicate (w + 2) style.fill)
    ++ [style.right]

def cell (width : Nat) (content : Text) : Text :=
  ' ' :: content ++ List.replicate (width - content.width + 1) ' '

def rowLine (widths : List Nat) (cells : List Text) : Text :=
  '│' :: Text.join ['┆'] (List.zipWith cell widths cells) ++ ['│']

def lines : List Text :=
  let widths := g.widths
  let rows := (g.rows.map (rowLine widths)).intersperse (rule innerRule widths)
  rule topRule widths :: rowLine widths g.header :: rule headerRule widths
    :: rows ++ [rule bottomRule widths]

end Grid

end FuzzCoverage.Layout
