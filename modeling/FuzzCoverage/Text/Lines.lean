import FuzzCoverage.Text.Basic

/-! # Lines

A line ends at a line feed, and a carriage return right before that line feed belongs to the end of
the line. -/

namespace FuzzCoverage.Text

def dropCarriageReturn (line : Text) : Text :=
  if line.getLast? = some '\r' then line.dropLast else line

/-- The lines of a text, without their ends.  What follows the last line feed is a line of its own
    when it is not empty, and there a carriage return is kept. -/
def lines (t : Text) : List Text :=
  let parts := t.splitOn '\n'
  parts.dropLast.map dropCarriageReturn ++ (parts.drop (parts.length - 1)).filter (· ≠ [])

theorem lines_append_cons (first second : Text) :
    lines (first ++ '\n' :: second) = (first.splitOn '\n').map dropCarriageReturn ++ lines second := by
  have hne : second.splitOn '\n' ≠ [] := List.splitOn_ne_nil _ _
  have hpos : 0 < (second.splitOn '\n').length := List.length_pos_iff.2 hne
  have hlast : (first.splitOn '\n').length + (second.splitOn '\n').length - 1 =
      (first.splitOn '\n').length + ((second.splitOn '\n').length - 1) := by omega
  rw [lines, lines, List.splitOn_append_cons_self, List.length_append, hlast, List.drop_length_add_append,
    List.dropLast_append_of_ne_nil hne, List.map_append, List.append_assoc]

theorem lines_append {first : Text} (h : first = [] ∨ first.getLast? = some '\n') (second : Text) :
    lines (first ++ second) = lines first ++ lines second := by
  rcases h with rfl | hlast
  · rfl
  · obtain ⟨start, rfl⟩ := List.getLast?_eq_some_iff.1 hlast
    have hfirst : lines (start ++ ['\n']) = (start.splitOn '\n').map dropCarriageReturn ++ lines [] :=
      lines_append_cons start []
    rw [hfirst, List.append_assoc, List.singleton_append, lines_append_cons]
    simp [lines]

end FuzzCoverage.Text
