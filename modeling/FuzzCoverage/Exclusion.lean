import FuzzCoverage.Options
import FuzzCoverage.SourcePath
import FuzzCoverage.Text.Lowercase

/-! # Files that are left out

`Exclusion` names the reasons for leaving a file out in the order in which they are tried.  The
rules look at the whole path of a marker, not only at the name that reports give to the file. -/

namespace FuzzCoverage

inductive Exclusion where
  | dependency
  | testOrScript
  | interfaceDirectory
  | interfaceName
  | namedByUser
  | fuzzingDirectory
  /-- Outside of what logical coverage is restricted to. -/
  | notLogical
  deriving DecidableEq, Repr

namespace Exclusion

open Text

def inOrder : List Exclusion :=
  [.dependency, .testOrScript, .interfaceDirectory, .interfaceName, .namedByUser, .fuzzingDirectory,
    .notLogical]

def label : Exclusion → String
  | .dependency => "Vendored"
  | .testOrScript => "TestOrScript"
  | .interfaceDirectory => "InterfaceDirectory"
  | .interfaceName => "InterfaceName"
  | .namedByUser => "UserExcluded"
  | .fuzzingDirectory => "FuzzingDirectory"
  | .notLogical => "NotLogical"

def lowerDirectories (path : SourcePath) : List Text := path.directories.map asciiLowercase

def amongNames (names : List Text) (name : Text) : Bool :=
  (names.map asciiLowercase).contains name

/-- Whether a directory holds one of the libraries: it has the library's name, or that and a hyphen
    before something more.  At signs before the name are passed over. -/
def isLibrary (libraries : List Text) (directory : Text) : Bool :=
  let name := directory.dropWhile (· = '@')
  (libraries.map asciiLowercase).any fun library =>
    name = library || (library ++ ['-']).isPrefixOf name

/-- Whether a library stands right below one of the directories for libraries.  No other directory
    is compared, so that a checkout of a similar name is not taken for a dependency. -/
def isDependency (o : Options) (directories : List Text) : Bool :=
  (directories.zip (directories.drop 1)).any fun (root, child) =>
    amongNames o.libraryRoots root && isLibrary o.libraryNames child

def stem? (extension name : Text) : Option Text :=
  let ending := '.' :: extension
  if ending.isSuffixOf name then some (name.take (name.length - ending.length)) else none

/-- Whether a source file's name begins with two capitals, as names of interfaces do. -/
def hasInterfaceName (extension name : Text) : Bool :=
  match stem? extension name with
  | some (a :: b :: _) => a.isUpper && b.isUpper
  | _ => false

def withExtension (extension name : Text) : Text :=
  let ending := '.' :: extension
  if ending.isSuffixOf name then name else name ++ ending

def isNamedByUser (o : Options) (name : Text) : Bool :=
  o.exclude.any fun excluded =>
    withExtension o.extension excluded.trim = withExtension o.extension name

def isLogicalFile (o : Options) (path : SourcePath) : Bool :=
  path.directories.contains o.logicalDirectory && o.logicalNameStart.isPrefixOf path.fileName

def applies (o : Options) (path : SourcePath) : Exclusion → Bool
  | .dependency => isDependency o (lowerDirectories path)
  | .testOrScript => o.testEndings.any (·.isSuffixOf path.fileName)
  | .interfaceDirectory => (lowerDirectories path).any (amongNames o.interfaceDirectories)
  | .interfaceName => o.skipInterfaceNames && hasInterfaceName o.extension path.fileName
  | .namedByUser => isNamedByUser o path.fileName
  | .fuzzingDirectory =>
    o.sourceOnly && (lowerDirectories path).any (amongNames o.fuzzingDirectories)
  | .notLogical => o.isLogical && !isLogicalFile o path

def of? (o : Options) (path : SourcePath) : Option Exclusion := inOrder.find? (applies o path)

end Exclusion

end FuzzCoverage
