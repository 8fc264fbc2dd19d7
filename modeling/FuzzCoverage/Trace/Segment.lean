import FuzzCoverage.Exclusion
import FuzzCoverage.Text.Lines

/-! # The files of a trace

A marker among the lines of a trace names the source file of the lines below it, up to the next
marker.  A file that is visited twice keeps its first place and its first path. -/

namespace FuzzCoverage.Trace

structure Segment where
  path : SourcePath
  lines : List Text
  deriving DecidableEq, Repr

def Segment.key (s : Segment) : Text := s.path.key

/-- The stretches of the lines that begin with a marker, without the markers. -/
def sections : List Text → List Segment
  | [] => []
  | line :: rest =>
    match SourcePath.ofMarker? line with
    | some path => ⟨path, rest.takeWhile (!SourcePath.isMarker ·)⟩ :: sections rest
    | none => sections rest

/-- Adds a section to the segments before it: to the one of its key, or as a new one at the end. -/
def insert (segments : List Segment) (s : Segment) : List Segment :=
  if segments.any (·.key = s.key) then
    segments.map fun t => if t.key = s.key then { t with lines := t.lines ++ s.lines } else t
  else segments ++ [s]

def gather (parts : List Segment) : List Segment := parts.foldl insert []

def isKept (o : Options) (path : SourcePath) : Bool := (Exclusion.of? o path).isNone

def segments (o : Options) (trace : Text) : List Segment :=
  gather ((sections trace.lines).filter fun s => isKept o s.path)

end FuzzCoverage.Trace
