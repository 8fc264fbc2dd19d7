import FuzzCoverage.Decimal.Rendering
import FuzzCoverage.Disk.Basic
import FuzzCoverage.Options
import FuzzCoverage.Scope.Entry

/-! # Failures

Why a run of the program comes to nothing. -/

namespace FuzzCoverage

inductive Failure where
  | traceRead (path : Text) (fault : DiskFault)
  | folderRead (path : Text) (fault : DiskFault)
  | noTraceFiles (folder : Text)
  | options (fault : OptionsFault)
  | scopeRead (fault : DiskFault)
  | scope (path : Text) (fault : ScopeFault)
  | threshold (given : Float)

namespace Failure

def message : Failure → Text
  | .traceRead path fault =>
    "Failed to read trace '".toList ++ path ++ "': ".toList ++ fault.message
  | .folderRead path fault =>
    "Failed to list trace folder '".toList ++ path ++ "': ".toList ++ fault.message
  | .noTraceFiles folder => "No .txt trace files found in '".toList ++ folder ++ ['\'']
  | .options fault => "Invalid configuration: ".toList ++ fault.message.toList
  | .scopeRead fault => "IO error: ".toList ++ fault.message
  | .scope path fault =>
    "Invalid scope file '".toList ++ path ++ "' at line ".toList ++ Decimal.digitsOf fault.line
      ++ ": ".toList ++ fault.problem.message.toList
  | .threshold given =>
    "Threshold must be between 0 and 100, got ".toList ++ Decimal.plain given

def reason? : Failure → Option Text
  | .traceRead _ fault | .folderRead _ fault | .scopeRead fault => some fault.message
  | _ => none

/-- What was tried when a failure came up, where that is told before it. -/
def attempt? : Failure → Option Text
  | .options _ | .threshold _ => some "invalid arguments".toList
  | _ => none

def chain (f : Failure) : Text :=
  Text.join ": ".toList (f.attempt?.toList ++ [f.message] ++ f.reason?.toList)

end Failure

end FuzzCoverage
