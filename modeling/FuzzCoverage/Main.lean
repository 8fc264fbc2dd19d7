import FuzzCoverage.Command.Run

/-! # The command line

The outermost layer: the file system, the environment and the standard streams.  What the program
does with them is decided by `execute`. -/

namespace FuzzCoverage

def faultOf : IO.Error → DiskFault
  | .noFileOrDirectory .. => .notFound
  | .inappropriateType .. => .notFolder
  | .invalidArgument _ 36 _ => .nameTooLong
  | error => .other (toString error).toList

/-- Asks the system, and keeps the fault if it has no answer. -/
def asking {α : Type} (question : IO α) : IO (Except DiskFault α) := do
  match ← question.toBaseIO with
  | .ok answer => return .ok answer
  | .error error => return .error (faultOf error)

def entryOf (entry : IO.FS.DirEntry) : IO DiskEntry := do
  let data ← entry.path.metadata
  let modified := data.modified.sec * 1000000000 + data.modified.nsec.toNat
  return ⟨entry.fileName.toList, data.type == .file, modified⟩

def machineDisk : Disk IO where
  isFolder path := do
    match ← asking (IO.FS.realPath (String.ofList path)) with
    | .ok place => place.isDir
    | .error _ => return false
  list path := asking do
    let place ← IO.FS.realPath (String.ofList path)
    return (← (← place.readDir).mapM entryOf).toList
  read path := do
    match ← asking (IO.FS.readBinFile (String.ofList path)) with
    | .error .notFolder =>
      return .error (if ← machineIsFolder path then .isFolder else .notFolder)
    | .error fault => return .error fault
    | .ok bytes =>
      match String.fromUTF8? bytes with
      | some text => return .ok text.toList
      | none => return .error .notText
where
  machineIsFolder (path : Text) : IO Bool := do
    match ← asking (IO.FS.realPath (String.ofList path)) with
    | .ok place => place.isDir
    | .error _ => return false

def logVariable : String := "RUST_LOG"

def stopText : Stop → String
  | .displayHelp =>
    "Usage: echidna-coverage (--file <FILE> | --echidna-folder <FOLDER>) [OPTIONS]"
  | .displayVersion => "echidna-coverage 0.4.0"
  | stop => "error: " ++ stop.kind

end FuzzCoverage

open FuzzCoverage in
def main (words : List String) : IO UInt32 := do
  let logWord ← IO.getEnv logVariable
  match ← execute machineDisk (logWord.map String.toList) (words.map String.toList) with
  | .error stop =>
    if stop.exitCode = 0 then IO.println (stopText stop) else IO.eprintln (stopText stop)
    return stop.exitCode.toUInt32
  | .ok completion =>
    IO.eprint (String.ofList completion.stderr)
    IO.print (String.ofList completion.stdout)
    return completion.exitCode.toUInt32
