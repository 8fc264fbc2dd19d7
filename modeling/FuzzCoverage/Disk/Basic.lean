import FuzzCoverage.Text.Basic

/-! # Disks

What the program asks of a file system: whether a path is a folder, what a folder holds and what
text is in a file. -/

namespace FuzzCoverage

inductive DiskFault where
  | notFound
  | isFolder
  | notFolder
  | notText
  | nameTooLong
  /-- A path holds the character that ends paths. -/
  | endInPath
  | other (message : Text)
  deriving DecidableEq, Repr

def DiskFault.message : DiskFault → Text
  | .notFound => "No such file or directory (os error 2)".toList
  | .isFolder => "Is a directory (os error 21)".toList
  | .notFolder => "Not a directory (os error 20)".toList
  | .notText => "stream did not contain valid UTF-8".toList
  | .nameTooLong => "File name too long (os error 36)".toList
  | .endInPath => "file name contained an unexpected NUL byte".toList
  | .other message => message

def byteLength (t : Text) : Nat := t.foldr (fun c bytes => c.utf8Size + bytes) 0

def longestName : Nat := 255

def longestPath : Nat := 4095

/-- What is wrong with a path wherever it leads. -/
def pathFault? (path : Text) : Option DiskFault :=
  if path.contains '\x00' then some .endInPath
  else if path.isEmpty then some .notFound
  else if longestPath < byteLength path then some .nameTooLong
  else none

structure DiskEntry where
  name : Text
  isFile : Bool
  /-- When it was last written, in nanoseconds from a fixed moment. -/
  modified : Int
  deriving DecidableEq, Repr

structure Disk (m : Type → Type) where
  isFolder : Text → m Bool
  list : Text → m (Except DiskFault (List DiskEntry))
  read : Text → m (Except DiskFault Text)

def joinPath (folder name : Text) : Text :=
  if folder.isEmpty || folder.getLast? = some '/' then folder ++ name else folder ++ '/' :: name

end FuzzCoverage
