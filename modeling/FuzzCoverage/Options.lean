import FuzzCoverage.Block.Basic

/-! # Options of an analysis

The defaults fit a project of the usual layout.  `Options.Draft.build` completes with them what was
set by hand, or refuses it. -/

namespace FuzzCoverage

structure Options where
  /-- Keep the functions that do not change the state. -/
  allFunctions : Bool := false
  mode : CountingMode := .standard
  /-- Leave out what lies under the directories of tests and fuzzing. -/
  sourceOnly : Bool := false
  /-- Names of files to leave out, with or without their extension. -/
  exclude : List Text := []
  /-- Directories whose direct children are libraries. -/
  libraryRoots : List Text := ["lib", "dependencies", "node_modules"].map String.toList
  /-- Names of libraries, or what they begin with up to a hyphen. -/
  libraryNames : List Text := ["openzeppelin", "forge", "solady"].map String.toList
  testEndings : List Text := [".t.sol", ".s.sol"].map String.toList
  interfaceDirectories : List Text := ["interfaces", "interface"].map String.toList
  /-- Leave out a file whose name begins with two capitals, as the names of interfaces do. -/
  skipInterfaceNames : Bool := true
  fuzzingDirectories : List Text :=
    ["test", "tests", "fuzzing", "fuzz", "echidna", "medusa"].map String.toList
  logicalDirectory : Text := "logical".toList
  logicalNameStart : Text := "Logical".toList
  /-- The extension of source files, without a dot. -/
  extension : Text := "sol".toList
  deriving DecidableEq, Repr

def Options.isLogical (o : Options) : Bool := o.mode = .logical

inductive OptionsFault where
  /-- The extension is empty or begins with a dot. -/
  | extension (given : Text)
  | logicalDirectory
  deriving DecidableEq, Repr

def OptionsFault.message : OptionsFault → String
  | .extension given =>
    "source extension must be bare (e.g. `sol`), got `" ++ String.ofList given ++ "`"
  | .logicalDirectory => "logical mode needs a non-empty logical directory"

structure Options.Draft where
  allFunctions : Option Bool := none
  mode : Option CountingMode := none
  sourceOnly : Option Bool := none
  exclude : Option (List Text) := none
  libraryRoots : Option (List Text) := none
  libraryNames : Option (List Text) := none
  testEndings : Option (List Text) := none
  interfaceDirectories : Option (List Text) := none
  skipInterfaceNames : Option Bool := none
  fuzzingDirectories : Option (List Text) := none
  logicalDirectory : Option Text := none
  logicalNameStart : Option Text := none
  extension : Option Text := none

namespace Options.Draft

/-- The first fault of the options set by hand; the defaults have none. -/
def fault? (d : Draft) : Option OptionsFault :=
  match d.extension with
  | some [] => some (.extension [])
  | some ('.' :: rest) => some (.extension ('.' :: rest))
  | _ =>
    if d.mode = some .logical && d.logicalDirectory = some [] then some .logicalDirectory else none

def complete (d : Draft) : Options :=
  let o : Options := {}
  { allFunctions := d.allFunctions.getD o.allFunctions
    mode := d.mode.getD o.mode
    sourceOnly := d.sourceOnly.getD o.sourceOnly
    exclude := d.exclude.getD o.exclude
    libraryRoots := d.libraryRoots.getD o.libraryRoots
    libraryNames := d.libraryNames.getD o.libraryNames
    testEndings := d.testEndings.getD o.testEndings
    interfaceDirectories := d.interfaceDirectories.getD o.interfaceDirectories
    skipInterfaceNames := d.skipInterfaceNames.getD o.skipInterfaceNames
    fuzzingDirectories := d.fuzzingDirectories.getD o.fuzzingDirectories
    logicalDirectory := d.logicalDirectory.getD o.logicalDirectory
    logicalNameStart := d.logicalNameStart.getD o.logicalNameStart
    extension := d.extension.getD o.extension }

def build (d : Draft) : Except OptionsFault Options :=
  match d.fault? with
  | some fault => .error fault
  | none => .ok d.complete

end Options.Draft

end FuzzCoverage
