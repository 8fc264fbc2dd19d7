import FuzzCoverage.Failure
import FuzzCoverage.Notice

/-! # Finding a trace

The fuzzer writes its traces into the folder of a campaign's corpus, one file for each run. -/

namespace FuzzCoverage

variable {m : Type → Type} [Monad m]

/-- Whether a file's name is that of a trace: it has the extension `txt` and something before it. -/
def isTraceName (name : Text) : Bool :=
  ".txt".toList.isSuffixOf name && ".txt".length < name.length

/-- The newest of the entries, the first one of several. -/
def newest? (entries : List DiskEntry) : Option DiskEntry :=
  entries.foldl (fun best? entry =>
    match best? with
    | none => some entry
    | some best => if best.modified < entry.modified then some entry else some best) none

/-- The folder that traces are looked for in: the one of the fuzzer below the given one if there is
    such a folder, and else the given one. -/
def traceFolder (disk : Disk m) (folder : Text) : m Text := do
  let nested := joinPath folder "echidna".toList
  return if ← disk.isFolder nested then nested else folder

def newestTrace (disk : Disk m) (folder : Text) : m (Except Failure (Text × Notice)) := do
  let folder ← traceFolder disk folder
  match ← disk.list folder with
  | .error fault => return .error (.folderRead folder fault)
  | .ok entries =>
    match newest? (entries.filter fun entry => entry.isFile && isTraceName entry.name) with
    | none => return .error (.noTraceFiles folder)
    | some entry =>
      let path := joinPath folder entry.name
      return .ok (path, .newestTrace folder path)

def traceText (disk : Disk m) (path : Text) : m (Except Failure Text) := do
  return (← disk.read path).mapError (.traceRead path)

end FuzzCoverage
