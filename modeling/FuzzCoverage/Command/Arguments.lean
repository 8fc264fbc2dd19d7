import FuzzCoverage.Decimal.Reading

/-! # Command-line arguments

A word of a command line is a long option, a cluster of short ones, a value, or the mark after
which only values may come.  An option whose value is not attached to it waits for the words after
it, and is settled when another option is read or the line ends. -/

namespace FuzzCoverage

inductive ReportForm where
  | table
  | json
  deriving DecidableEq, Repr

namespace ReportForm

def ofWord? (word : Text) : Option ReportForm :=
  if word = "table".toList then some .table
  else if word = "json".toList then some .json
  else none

def label : ReportForm → String
  | .table => "Table"
  | .json => "Json"

end ReportForm

inductive Stop where
  | displayHelp
  | displayVersion
  | unknownArgument
  | argumentConflict
  /-- A value is missing or not among those allowed. -/
  | invalidValue
  /-- A value has the wrong form. -/
  | valueValidation
  | tooManyValues
  | missingRequiredArgument
  deriving DecidableEq, Repr

namespace Stop

def kind : Stop → String
  | .displayHelp => "DisplayHelp"
  | .displayVersion => "DisplayVersion"
  | .unknownArgument => "UnknownArgument"
  | .argumentConflict => "ArgumentConflict"
  | .invalidValue => "InvalidValue"
  | .valueValidation => "ValueValidation"
  | .tooManyValues => "TooManyValues"
  | .missingRequiredArgument => "MissingRequiredArgument"

/-- The exit status: help and version are what was asked for, all else is a fault. -/
def exitCode : Stop → Nat
  | .displayHelp | .displayVersion => 0
  | _ => 2

end Stop

inductive ValueOption where
  | file
  | echidnaFolder
  | format
  | threshold
  | contract
  | exclude
  | scopeFile
  deriving DecidableEq, Repr

inductive Switch where
  | failUnder
  | verbose
  | allFunctions
  | logical
  | sourceOnly
  | debug
  | help
  | version
  deriving DecidableEq, Repr

inductive OptionKind where
  | value (option : ValueOption)
  | switch (switch : Switch)
  deriving DecidableEq, Repr

namespace OptionKind

def ofLong? (name : Text) : Option OptionKind :=
  ([("file", .value .file), ("echidna-folder", .value .echidnaFolder), ("format", .value .format),
    ("threshold", .value .threshold), ("fail-under", .switch .failUnder),
    ("contract", .value .contract), ("verbose", .switch .verbose),
    ("all-functions", .switch .allFunctions), ("logical", .switch .logical),
    ("source-only", .switch .sourceOnly), ("exclude", .value .exclude),
    ("scope-file", .value .scopeFile), ("debug", .switch .debug), ("help", .switch .help),
    ("version", .switch .version)].find? fun (long, _) => long.toList = name).map (·.2)

def ofShort? : Char → Option OptionKind
  | 'f' => some (.value .file)
  | 'e' => some (.value .echidnaFolder)
  | 't' => some (.value .threshold)
  | 'c' => some (.value .contract)
  | 'v' => some (.switch .verbose)
  | 'h' => some (.switch .help)
  | 'V' => some (.switch .version)
  | _ => none

end OptionKind

structure Arguments where
  file : Option Text := none
  echidnaFolder : Option Text := none
  format : Option ReportForm := none
  threshold : Option Float := none
  failUnder : Bool := false
  contract : Option Text := none
  verbose : Nat := 0
  allFunctions : Bool := false
  logical : Bool := false
  sourceOnly : Bool := false
  exclude : List Text := []
  scopeFile : Option Text := none
  debug : Bool := false

namespace Arguments

/-- A path that is given once and is not empty. -/
def readPath (given : Option Text) (value : Text) : Except Stop (Option Text) :=
  if given.isSome then .error .argumentConflict
  else if value.isEmpty then .error .invalidValue
  else .ok (some value)

def readName (given : Option Text) (value : Text) : Except Stop (Option Text) :=
  if given.isSome then .error .argumentConflict else .ok (some value)

def readFormat (given : Option ReportForm) (value : Text) : Except Stop (Option ReportForm) :=
  if given.isSome then .error .argumentConflict
  else match ReportForm.ofWord? value with
    | some format => .ok (some format)
    | none => .error .invalidValue

def readThreshold (given : Option Float) (value : Text) : Except Stop (Option Float) :=
  if given.isSome then .error .argumentConflict
  else match Decimal.readFloat? value with
    | some number => .ok (some number)
    | none => .error .valueValidation

def settle (a : Arguments) (option : ValueOption) (values : List Text) :
    Except Stop Arguments := do
  match values with
  | [] => .error .invalidValue
  | value :: _ =>
    match option with
    | .file => return { a with file := ← readPath a.file value }
    | .echidnaFolder => return { a with echidnaFolder := ← readPath a.echidnaFolder value }
    | .format => return { a with format := ← readFormat a.format value }
    | .threshold => return { a with threshold := ← readThreshold a.threshold value }
    | .contract => return { a with contract := ← readName a.contract value }
    | .exclude => return { a with exclude := a.exclude ++ values }
    | .scopeFile => return { a with scopeFile := ← readPath a.scopeFile value }

def turnOn (given : Bool) : Except Stop Bool :=
  if given then .error .argumentConflict else .ok true

/-- Turns a switch on.  Help and version end the reading. -/
def flip (a : Arguments) : Switch → Except Stop Arguments
  | .failUnder => return { a with failUnder := ← turnOn a.failUnder }
  | .verbose => return { a with verbose := a.verbose + 1 }
  | .allFunctions => return { a with allFunctions := ← turnOn a.allFunctions }
  | .logical => return { a with logical := ← turnOn a.logical }
  | .sourceOnly => return { a with sourceOnly := ← turnOn a.sourceOnly }
  | .debug => return { a with debug := ← turnOn a.debug }
  | .help => .error .displayHelp
  | .version => .error .displayVersion

end Arguments

/-! ## Words -/

inductive CommandWord where
  | escape
  | long (name : Text) (attached : Option Text)
  | shorts (letters : Text)
  | value (text : Text)
  deriving DecidableEq, Repr

/-- What a word is by what it begins with.  A lone hyphen is a value. -/
def CommandWord.of (word : Text) : CommandWord :=
  match word with
  | ['-', '-'] => .escape
  | '-' :: '-' :: rest =>
    match Text.cut? '=' rest with
    | some (name, attached) => .long name (some attached)
    | none => .long rest none
  | '-' :: c :: rest => .shorts (c :: rest)
  | _ => .value word

structure CommandReading where
  arguments : Arguments := {}
  /-- The option that waits for values, and those it has. -/
  waiting : Option (ValueOption × List Text) := none

namespace CommandReading

def settle (r : CommandReading) : Except Stop CommandReading :=
  match r.waiting with
  | none => .ok r
  | some (option, values) => return ⟨← r.arguments.settle option values, none⟩

def await (r : CommandReading) (option : ValueOption) : Except Stop CommandReading :=
  return { ← r.settle with waiting := some (option, []) }

def attach (r : CommandReading) (option : ValueOption) (value : Text) :
    Except Stop CommandReading := do
  let r ← r.settle
  return { r with arguments := ← r.arguments.settle option [value] }

def flip (r : CommandReading) (switch : Switch) : Except Stop CommandReading := do
  let r ← r.settle
  return { r with arguments := ← r.arguments.flip switch }

def long (r : CommandReading) (name : Text) (attached : Option Text) :
    Except Stop CommandReading :=
  match OptionKind.ofLong? name, attached with
  | some (.value option), none => r.await option
  | some (.value option), some value => r.attach option value
  | some (.switch switch), none => r.flip switch
  | some (.switch _), some _ => .error .tooManyValues
  | none, _ => .error .unknownArgument

/-- A cluster of short options.  What follows an option with a value is that value, with or without
    an equals sign between them. -/
def shorts (r : CommandReading) : Text → Except Stop CommandReading
  | [] => .ok r
  | letter :: rest =>
    match OptionKind.ofShort? letter with
    | none => .error .unknownArgument
    | some (.switch switch) => do (← r.flip switch).shorts rest
    | some (.value option) =>
      match rest with
      | [] => r.await option
      | '=' :: value => r.attach option value
      | value => r.attach option value

/-- A value: the option that waits takes it, if it may have one more. -/
def value (r : CommandReading) (text : Text) : Except Stop CommandReading :=
  match r.waiting with
  | some (.exclude, values) => .ok { r with waiting := some (.exclude, values ++ [text]) }
  | some (option, []) => .ok { r with waiting := some (option, [text]) }
  | _ => .error .unknownArgument

def words (r : CommandReading) : List Text → Except Stop CommandReading
  | [] => r.settle
  | word :: rest =>
    match CommandWord.of word with
    | .escape => if rest.isEmpty then r.settle else .error .unknownArgument
    | .long name attached => do (← r.long name attached).words rest
    | .shorts letters => do (← r.shorts letters).words rest
    | .value text => do (← r.value text).words rest

end CommandReading

/-- Reads a command line, without the program's own name.  It gives either a file or a folder. -/
def Arguments.read (words : List Text) : Except Stop Arguments := do
  let arguments := (← ({} : CommandReading).words words).arguments
  match arguments.file, arguments.echidnaFolder with
  | some _, some _ => .error .argumentConflict
  | none, none => .error .missingRequiredArgument
  | _, _ => .ok arguments

end FuzzCoverage
