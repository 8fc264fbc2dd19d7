import FuzzCoverage.Text.Blank

/-! # Source paths

A line of a trace that names the source file of the rows below it is a marker: an absolute path of
at least two segments. -/

namespace FuzzCoverage

structure SourcePath where
  full : Text
  deriving DecidableEq, Repr

namespace SourcePath

/-- Reads a line as a marker: without the blanks at its end it begins with a slash and has another
    one after it. -/
def ofMarker? (line : Text) : Option SourcePath :=
  match line.trimEnd with
  | '/' :: rest => if rest.contains '/' then some ⟨'/' :: rest⟩ else none
  | _ => none

def isMarker (line : Text) : Bool := (ofMarker? line).isSome

variable (path : SourcePath)

/-- The stretches of the path between its slashes, empty ones included. -/
def parts : List Text := path.full.splitOn '/'

/-- The name that reports give to the file: the last two parts. -/
def key : Text := Text.join ['/'] (path.parts.drop (path.parts.length - 2))

def fileName : Text := path.parts.getLast?.getD []

def segments : List Text := path.parts.filter (· ≠ [])

def directories : List Text := path.segments.dropLast

end SourcePath

end FuzzCoverage
