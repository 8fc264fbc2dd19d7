import FuzzCoverage.Proofs.Trace.Layouts
import FuzzCoverage.Scope.Entry
import Mathlib.Order.Bounds.Defs

/-! # Scope files, as they are written and as they are read

A `ScopeFile` is a header and lines of two kinds: blank ones, and entries with blanks around their columns
and more columns behind them.  What is written so is read as its entries (`ScopeFile.readAll_text`).

Of any text the reader refuses exactly those in which a line after the first is bad (`IsBadLine`), and then
it names the first of these (`ScopeEntry.readAll_text_and_error`).  Lines are counted from one as they stand
in the text, so that the header and the blank lines have numbers of their own. -/

namespace FuzzCoverage

open Decimal (word64)
open Trace (Padding)

theorem Text.lines_of_not_mem {t : Text} (h : '\n' ∉ t) : t.lines = if t = [] then [] else [t] := by
  rw [lines, List.splitOn_eq_singleton h]
  by_cases hnone : t = []
  · simp [hnone]
  · simp [hnone]

/-! ## Numerals -/

namespace Decimal

/-- Whether a text is a number below a limit, as it is written: digits, at least one, with a plus sign
    in front at most. -/
def isNumeral (limit : Nat) (t : Text) : Bool :=
  let digits := (t.after? ['+']).getD t
  !digits.isEmpty && digits.all Char.isDigit && decide (Nat.ofDigitChars 10 digits 0 < limit)

theorem isOk_readDigits {limit value : Nat} (h : value < limit) (t : Text) :
    (readDigits limit value t).isOk =
      (t.all Char.isDigit && decide (Nat.ofDigitChars 10 t value < limit)) := by
  induction t generalizing value with
  | nil => simp [readDigits, Except.isOk, Except.toBool, h]
  | cons c rest ih =>
    rw [readDigits, digit?, List.all_cons, Nat.ofDigitChars_cons, Nat.mul_comm 10]
    cases hdigit : c.isDigit with
    | false => rfl
    | true =>
      simp only [if_true, Bool.true_and]
      split
      · next hfits => exact ih hfits
      · next hlarge =>
        -- what has been read is too large already, and more digits make it no smaller
        have hle := le_ofDigitChars (value * 10 + (c.toNat - '0'.toNat)) rest
        have hnot : ¬ Nat.ofDigitChars 10 rest (value * 10 + (c.toNat - '0'.toNat)) < limit := by omega
        rw [decide_eq_false hnot, Bool.and_false]
        rfl

theorem isOk_readNatural {limit : Nat} (h : 0 < limit) (t : Text) :
    (readNatural limit t).isOk = isNumeral limit t := by
  rw [isNumeral]
  cases t with
  | nil => rfl
  | cons c rest =>
    rw [Text.after?_cons_cons]
    by_cases hsign : c = '+'
    · cases rest with
      | nil => simp [hsign, readNatural, Except.isOk, Except.toBool]
      | cons d digits => simp [hsign, readNatural, isOk_readDigits h]
    · have hread : readNatural limit (c :: rest) = readDigits limit 0 (c :: rest) := by
        rw [readNatural] <;> simp [hsign]
      simp [hsign, hread, isOk_readDigits h]

end Decimal

theorem isOk_bind {ε α β : Type} (x : Except ε α) {f : α → Except ε β} {b : Bool}
    (h : ∀ a, (f a).isOk = b) : (x >>= f).isOk = (x.isOk && b) := by
  cases x with
  | error e => rfl
  | ok a => exact h a

theorem isOk_mapError {ε ε' α : Type} (f : ε → ε') (x : Except ε α) :
    (x.mapError f).isOk = x.isOk := by
  cases x <;> rfl

namespace ScopeEntry

/-! ## Lines as they are read -/

/-- The columns of a line without the blanks around them. -/
def columns (row : Text) : List Text := (row.splitOn ',').map Text.trim

/-- Whether a line has the columns of an entry: four of them or more, and numbers in the three after the
    first. -/
def isEntry (row : Text) : Bool :=
  4 ≤ (columns row).length && (((columns row).drop 1).take 3).all (Decimal.isNumeral word64)

/-- Whether a line holds something and no entry. -/
def isBad (row : Text) : Bool := !row.allBlank && !isEntry row

theorem isOk_readNumber (column : String) (value : Text) :
    (readNumber column value).isOk = Decimal.isNumeral word64 value := by
  rw [readNumber, isOk_mapError, Decimal.isOk_readNatural (by decide)]

theorem isOk_ofLine (row : Text) : (ofLine row).isOk = isEntry row := by
  rw [ofLine, isEntry, ← columns]
  split
  · next path source total comment more hcolumns =>
    refine Eq.trans (isOk_bind _ fun _ => isOk_bind _ fun _ => isOk_bind (b := true) _ fun _ => rfl) ?_
    simp [isOk_readNumber, hcolumns]
  · next hfew =>
    have hlength : ¬ 4 ≤ (columns row).length := by
      intro hfour
      match hcolumns : columns row with
      | path :: source :: total :: comment :: more => exact hfew path source total comment more hcolumns
      | [] | [_] | [_, _] | [_, _, _] => simp [hcolumns] at hfour
    simp [hlength, Except.isOk, Except.toBool]

theorem readLines_cons_of_allBlank {row : Text} (h : row.allBlank) (number : Nat) (rest : List Text) :
    readLines number (row :: rest) = readLines (number + 1) rest := by
  rw [readLines, if_pos h]

theorem readLines_cons_of_ok {row : Text} {e : ScopeEntry} (hblank : row.allBlank = false)
    (h : ofLine row = .ok e) (number : Nat) (rest : List Text) :
    readLines number (row :: rest) = (readLines (number + 1) rest).map (e :: ·) := by
  rw [readLines, if_neg (Bool.eq_false_iff.1 hblank), h]
  cases readLines (number + 1) rest <;> rfl

theorem readLines_cons_of_error {row : Text} {problem : ScopeProblem} (hblank : row.allBlank = false)
    (h : ofLine row = .error problem) (number : Nat) (rest : List Text) :
    readLines number (row :: rest) = .error ⟨number, problem⟩ := by
  rw [readLines, if_neg (Bool.eq_false_iff.1 hblank), h]
  rfl

/-- The line that the result of reading lines names. -/
def faultLine? : Except ScopeFault (List ScopeEntry) → Option Nat
  | .ok _ => none
  | .error fault => some fault.line

theorem faultLine?_map (read : Except ScopeFault (List ScopeEntry)) (f : List ScopeEntry → List ScopeEntry) :
    faultLine? (read.map f) = faultLine? read := by
  cases read <;> rfl

/-- Reading stops at the first bad line. -/
theorem faultLine?_readLines (number : Nat) (rows : List Text) :
    faultLine? (readLines number rows) = (rows.findIdx? isBad).map (number + ·) := by
  induction rows generalizing number with
  | nil => rfl
  | cons row rest ih =>
    have hnext : (rest.findIdx? isBad).map (number + 1 + ·) =
        ((rest.findIdx? isBad).map (· + 1)).map (number + ·) := by
      rw [Option.map_map]
      refine congrArg (Option.map · _) (funext fun i => ?_)
      show number + 1 + i = number + (i + 1)
      omega
    rw [List.findIdx?_cons, isBad, ← isOk_ofLine]
    cases hblank : row.allBlank with
    | true =>
      rw [readLines_cons_of_allBlank hblank]
      exact (ih (number + 1)).trans hnext
    | false =>
      cases hline : ofLine row with
      | error problem =>
        rw [readLines_cons_of_error hblank hline]
        rfl
      | ok e =>
        rw [readLines_cons_of_ok hblank hline, faultLine?_map]
        exact (ih (number + 1)).trans hnext

/-- A line with the same columns is read as the same entry, or as none. -/
theorem toOption_ofLine_congr {row row' : Text} (h : columns row = columns row') :
    (ofLine row).toOption = (ofLine row').toOption := by
  rw [ofLine, ofLine, ← columns, ← columns, h]
  split
  · rfl
  · rfl

/-- What a line holds. -/
inductive Holds (row : Text) : Option ScopeEntry → Prop
  | nothing (blank : row.allBlank) : Holds row none
  | entry {e : ScopeEntry} (notBlank : row.allBlank = false) (read : (ofLine row).toOption = some e) :
      Holds row (some e)

theorem readLines_cons_of_holds {row : Text} {content? : Option ScopeEntry} (h : Holds row content?)
    {rest : List Text} {entries : List ScopeEntry} {number : Nat}
    (hrest : readLines (number + 1) rest = .ok entries) :
    readLines number (row :: rest) = .ok (content?.toList ++ entries) := by
  cases h with
  | nothing blank => rw [readLines_cons_of_allBlank blank, hrest, Option.toList_none, List.nil_append]
  | entry notBlank read =>
    cases hline : ofLine row with
    | error problem => simp [hline, Except.toOption] at read
    | ok e =>
      cases (by simpa [hline, Except.toOption] using read : e = _)
      rw [readLines_cons_of_ok notBlank hline, hrest]
      rfl

/-- One more character in front of a comma or at the end belongs to the column before it. -/
theorem exists_splitOn_concat {c : Char} (hc : c ≠ ',') (row : Text) :
    ∃ front last, row.splitOn ',' = front ++ [last] ∧
      (row ++ [c]).splitOn ',' = front ++ [last ++ [c]] := by
  induction row with
  | nil => exact ⟨[], [], rfl, by simp [List.splitOn_eq_singleton, hc.symm]⟩
  | cons d row ih =>
    obtain ⟨front, last, hrow, hmore⟩ := ih
    rw [List.cons_append, List.splitOn_cons_eq_if_modifyHead, List.splitOn_cons_eq_if_modifyHead, hrow,
      hmore]
    split
    · exact ⟨[] :: front, last, rfl, rfl⟩
    · cases front with
      | nil => exact ⟨[], d :: last, rfl, rfl⟩
      | cons first front => exact ⟨(d :: first) :: front, last, rfl, rfl⟩

theorem columns_dropCarriageReturn (row : Text) : columns row.dropCarriageReturn = columns row := by
  rw [Text.dropCarriageReturn]
  split
  · next hlast =>
    obtain ⟨front, rfl⟩ := List.getLast?_eq_some_iff.1 hlast
    obtain ⟨before, last, hfront, hrow⟩ := exists_splitOn_concat (show '\r' ≠ ',' by decide) front
    have hend : Text.trim (last ++ ['\r']) = Text.trim last := by
      simpa [Padding.around] using Padding.trim_around { after := ['\r'] } last
    rw [List.dropLast_concat, columns, columns, hfront, hrow, List.map_append, List.map_append]
    simp [hend]
  · rfl

theorem allBlank_dropCarriageReturn (row : Text) : row.dropCarriageReturn.allBlank = row.allBlank := by
  rw [Text.dropCarriageReturn]
  split
  · next hlast =>
    obtain ⟨front, rfl⟩ := List.getLast?_eq_some_iff.1 hlast
    rw [List.dropLast_concat, Text.allBlank, Text.allBlank, List.all_append]
    simp [show Text.isBlank '\r' by decide]
  · rfl

theorem Holds.dropCarriageReturn {row : Text} {content? : Option ScopeEntry} (h : Holds row content?) :
    Holds row.dropCarriageReturn content? := by
  cases h with
  | nothing blank => exact .nothing (by rwa [allBlank_dropCarriageReturn])
  | entry notBlank read =>
    refine .entry (by rwa [allBlank_dropCarriageReturn]) ?_
    rwa [toOption_ofLine_congr (columns_dropCarriageReturn row)]

end ScopeEntry

/-! ## Lines as they are written -/

/-- An entry with blanks around its columns and more columns after them. -/
structure WrittenEntry where
  entry : ScopeEntry
  path : Padding := {}
  source : Padding := {}
  total : Padding := {}
  comment : Padding := {}
  more : List Text := []
  path_trim : entry.path.trim = entry.path
  path_noComma : ',' ∉ entry.path
  source_lt : entry.source < word64
  total_lt : entry.total < word64
  comment_lt : entry.comment < word64
  more_noComma : ∀ column ∈ more, ',' ∉ column

namespace WrittenEntry

def columns (w : WrittenEntry) : List Text :=
  w.path.around w.entry.path :: w.source.around (Nat.toDigits 10 w.entry.source) ::
    w.total.around (Nat.toDigits 10 w.entry.total) ::
      w.comment.around (Nat.toDigits 10 w.entry.comment) :: w.more

def text (w : WrittenEntry) : Text := Text.join [','] w.columns

theorem isBlank_of_mem_toDigits {n : Nat} {c : Char} (h : c ∈ Nat.toDigits 10 n) :
    c ≠ ',' ∧ Text.isBlank c = false := by
  have hdigit : c.isDigit := Nat.isDigit_of_mem_toDigits (by decide) (by decide) h
  refine ⟨?_, Trace.isBlank_of_isDigit hdigit⟩
  rintro rfl
  exact absurd hdigit (by decide)

theorem not_mem_columns (w : WrittenEntry) : ∀ column ∈ w.columns, ',' ∉ column := by
  have hnumber : ∀ (p : Padding) (n : Nat), ',' ∉ p.around (Nat.toDigits 10 n) := fun p n =>
    Padding.not_mem_around (by decide) fun hmem => (isBlank_of_mem_toDigits hmem).1 rfl
  have hpath : ',' ∉ w.path.around w.entry.path := Padding.not_mem_around (by decide) w.path_noComma
  simp only [columns, List.forall_mem_cons]
  exact ⟨hpath, hnumber _ _, hnumber _ _, hnumber _ _, w.more_noComma⟩

theorem columns_text (w : WrittenEntry) :
    ScopeEntry.columns w.text = w.entry.path :: Nat.toDigits 10 w.entry.source ::
      Nat.toDigits 10 w.entry.total :: Nat.toDigits 10 w.entry.comment :: w.more.map Text.trim := by
  have hdigits : ∀ n, Text.trim (Nat.toDigits 10 n) = Nat.toDigits 10 n :=
    fun n => Text.trim_of_forall fun c hc => (isBlank_of_mem_toDigits hc).2
  have hsplit : w.text.splitOn ',' = w.columns :=
    List.splitOn_intercalate ',' w.not_mem_columns (by simp [columns])
  rw [ScopeEntry.columns, hsplit]
  simp [columns, Padding.trim_around, w.path_trim, hdigits]

theorem readNumber_toDigits {n : Nat} (h : n < word64) (column : String) :
    ScopeEntry.readNumber column (Nat.toDigits 10 n) = .ok n := by
  rw [ScopeEntry.readNumber, Decimal.readNatural_toDigits h]
  rfl

theorem holds (w : WrittenEntry) : ScopeEntry.Holds w.text (some w.entry) := by
  refine .entry ?_ ?_
  · rw [text, columns, Text.join, List.intersperse_cons_cons]
    simp [Text.allBlank, show Text.isBlank ',' = false by decide]
  · rw [ScopeEntry.ofLine, ← ScopeEntry.columns, w.columns_text]
    simp only [readNumber_toDigits w.source_lt, readNumber_toDigits w.total_lt,
      readNumber_toDigits w.comment_lt]
    rfl

end WrittenEntry

/-- A line after the header. -/
inductive ScopeLine where
  | blank (blanks : Text) (allBlank : blanks.allBlank)
  | entry (written : WrittenEntry)

namespace ScopeLine

def text : ScopeLine → Text
  | .blank blanks _ => blanks
  | .entry written => written.text

def content? : ScopeLine → Option ScopeEntry
  | .blank _ _ => none
  | .entry written => some written.entry

theorem holds (line : ScopeLine) : ScopeEntry.Holds line.text line.content? := by
  cases line with
  | blank blanks allBlank => exact .nothing allBlank
  | entry written => exact written.holds

theorem readLines_lines {lines : List ScopeLine} (h : ∀ line ∈ lines, '\n' ∉ line.text) (number : Nat) :
    ScopeEntry.readLines number (Text.join ['\n'] (lines.map text)).lines =
      .ok (lines.filterMap content?) := by
  induction lines generalizing number with
  | nil => rfl
  | cons line rest ih =>
    obtain ⟨hline, hrest⟩ := List.forall_mem_cons.1 h
    have hcontent : (line :: rest).filterMap content? =
        line.content?.toList ++ rest.filterMap content? := by
      cases hcontent : line.content? with
      | none => simp [hcontent]
      | some e => simp [hcontent]
    rw [hcontent]
    cases rest with
    | nil =>
      have hlast : Text.join ['\n'] ([line].map text) = line.text := by simp [Text.join]
      rw [hlast, Text.lines_of_not_mem hline]
      split
      · next hnone =>
        -- an empty line at the end is no line of the text
        have hholds := line.holds
        rw [hnone] at hholds
        generalize line.content? = content? at hholds
        cases hholds with
        | nothing => rfl
        | entry notBlank => cases notBlank
      · exact ScopeEntry.readLines_cons_of_holds line.holds rfl
    | cons next rest =>
      have hjoin : Text.join ['\n'] ((line :: next :: rest).map text) =
          line.text ++ '\n' :: Text.join ['\n'] ((next :: rest).map text) := by
        simp [Text.join]
      rw [hjoin, Text.lines_append_cons, List.splitOn_eq_singleton hline]
      exact ScopeEntry.readLines_cons_of_holds line.holds.dropCarriageReturn (ih hrest (number + 1))

end ScopeLine

/-- A scope file as it is written: a header and lines, with a line feed between each two of them.  One
    that ends in a line feed has an empty line for its last. -/
structure ScopeFile where
  header : Text
  lines : List ScopeLine
  header_isLine : '\n' ∉ header
  lines_areLines : ∀ line ∈ lines, '\n' ∉ line.text

namespace ScopeFile

def text (file : ScopeFile) : Text := Text.join ['\n'] (file.header :: file.lines.map ScopeLine.text)

def entries (file : ScopeFile) : List ScopeEntry := file.lines.filterMap ScopeLine.content?

theorem drop_lines_text (file : ScopeFile) :
    file.text.lines.drop 1 = (Text.join ['\n'] (file.lines.map ScopeLine.text)).lines := by
  cases hlines : file.lines with
  | nil =>
    have htext : file.text = file.header := by simp [text, hlines, Text.join]
    rw [htext, Text.lines_of_not_mem file.header_isLine]
    split
    · rfl
    · rfl
  | cons line rest =>
    have htext : file.text =
        file.header ++ '\n' :: Text.join ['\n'] ((line :: rest).map ScopeLine.text) := by
      simp [text, hlines, Text.join]
    rw [htext, Text.lines_append_cons, List.splitOn_eq_singleton file.header_isLine]
    rfl

theorem readAll_text (file : ScopeFile) : ScopeEntry.readAll file.text = .ok file.entries := by
  rw [ScopeEntry.readAll, drop_lines_text]
  exact ScopeLine.readLines_lines file.lines_areLines 2

end ScopeFile

/-! ## Bad lines -/

/-- Whether the line of a text with this number is bad.  The first line is the header and never is. -/
def IsBadLine (text : Text) (number : Nat) : Prop :=
  1 < number ∧ ∃ row, text.lines[number - 1]? = some row ∧ ScopeEntry.isBad row

theorem isBadLine_iff {text : Text} {number : Nat} :
    IsBadLine text number ↔
      ∃ i row, number = 2 + i ∧ (text.lines.drop 1)[i]? = some row ∧ ScopeEntry.isBad row := by
  constructor
  · rintro ⟨hnumber, row, hrow, hbad⟩
    refine ⟨number - 2, row, by omega, ?_, hbad⟩
    rw [List.getElem?_drop, show 1 + (number - 2) = number - 1 by omega, hrow]
  · rintro ⟨i, row, rfl, hrow, hbad⟩
    refine ⟨by omega, row, ?_, hbad⟩
    rw [show 2 + i - 1 = 1 + i by omega, ← List.getElem?_drop, hrow]

theorem isLeast_of_readAll {text : Text} {fault : ScopeFault}
    (h : ScopeEntry.readAll text = .error fault) :
    IsLeast {number | IsBadLine text number} fault.line := by
  have hline := ScopeEntry.faultLine?_readLines 2 (text.lines.drop 1)
  rw [← ScopeEntry.readAll, h] at hline
  obtain ⟨i, hfind, hfault⟩ := Option.map_eq_some_iff.1 hline.symm
  obtain ⟨hlt, hbad, hfirst⟩ := List.findIdx?_eq_some_iff_getElem.1 hfind
  constructor
  · exact isBadLine_iff.2 ⟨i, _, hfault.symm, List.getElem?_eq_getElem hlt, hbad⟩
  · intro number hnumber
    obtain ⟨j, row, rfl, hrow, hrowBad⟩ := isBadLine_iff.1 hnumber
    obtain ⟨hj, rfl⟩ := List.getElem?_eq_some_iff.1 hrow
    have hle : i ≤ j := Nat.le_of_not_lt fun hlt => hfirst j hlt hrowBad
    rw [← hfault]
    exact Nat.add_le_add_left hle 2

theorem exists_error_iff (text : Text) :
    (∃ fault, ScopeEntry.readAll text = .error fault) ↔ ∃ number, IsBadLine text number := by
  constructor
  · rintro ⟨fault, hfault⟩
    exact ⟨fault.line, (isLeast_of_readAll hfault).1⟩
  · rintro ⟨number, hnumber⟩
    obtain ⟨i, row, -, hrow, hbad⟩ := isBadLine_iff.1 hnumber
    cases hread : ScopeEntry.readAll text with
    | error fault => exact ⟨fault, rfl⟩
    | ok entries =>
      have hline := ScopeEntry.faultLine?_readLines 2 (text.lines.drop 1)
      rw [← ScopeEntry.readAll, hread] at hline
      have hnone := List.findIdx?_eq_none_iff.1 (Option.map_eq_none_iff.1 hline.symm)
      rw [hnone row (List.mem_of_getElem? hrow)] at hbad
      cases hbad

/-- **Scope files are read as they are written, and refused at their first bad line.**  Whatever blank
    lines, blanks around columns and further columns a scope file has, its entries are read, all of them
    and in their order.  Reading a text fails exactly if one of its lines after the first is bad, and the
    fault names the first of them. -/
theorem ScopeEntry.readAll_text_and_error :
    (∀ file : ScopeFile, readAll file.text = .ok file.entries) ∧
    ∀ text, ((∃ fault, readAll text = .error fault) ↔ ∃ number, IsBadLine text number) ∧
      ∀ fault, readAll text = .error fault → IsLeast {number | IsBadLine text number} fault.line :=
  ⟨ScopeFile.readAll_text, fun text => ⟨exists_error_iff text, fun _ h => isLeast_of_readAll h⟩⟩

/-- Two entries with a blank line between them; the first has blanks around its columns, and one column
    more. -/
def paddedScope : ScopeFile where
  header := "File,nSLOC,Lines,Comments".toList
  lines :=
    [.entry
      { entry := ⟨"src/Vault.sol".toList, 120, 310, 64⟩
        path := { before := "\t ".toList, after := " \t".toList }
        source := { before := "    ".toList }
        comment := { after := "\t\t".toList }
        more := ["high".toList]
        path_trim := by decide
        path_noComma := by decide
        source_lt := by decide
        total_lt := by decide
        comment_lt := by decide
        more_noComma := by decide },
      .blank " \t".toList (by decide),
      .entry
      { entry := ⟨"src/Pool.sol".toList, 8, 20, 0⟩
        path_trim := by decide
        path_noComma := by decide
        source_lt := by decide
        total_lt := by decide
        comment_lt := by decide
        more_noComma := by decide }]
  header_isLine := by decide
  lines_areLines := by decide

/-- A header, a blank line, and two lines that are bad. -/
def badScope : Text := "File,nSLOC,Lines,Comments\n\nsrc/Vault.sol,120\nsrc/Pool.sol,8,x,0".toList

/-- The entries are read, and the first bad line is named, with the blank one before it counted. -/
theorem readAll_paddedScope :
    paddedScope.text =
        "File,nSLOC,Lines,Comments\n\t src/Vault.sol \t,    120,310,64\t\t,high\n \t\nsrc/Pool.sol,8,20,0".toList ∧
      ScopeEntry.readAll paddedScope.text =
        .ok [⟨"src/Vault.sol".toList, 120, 310, 64⟩, ⟨"src/Pool.sol".toList, 8, 20, 0⟩] ∧
      ∃ fault, ScopeEntry.readAll badScope = .error fault ∧ fault.line = 3 := by
  obtain ⟨hread, herror⟩ := ScopeEntry.readAll_text_and_error
  have hentries : paddedScope.entries =
      [⟨"src/Vault.sol".toList, 120, 310, 64⟩, ⟨"src/Pool.sol".toList, 8, 20, 0⟩] := by
    decide
  have hbad : IsBadLine badScope 3 := ⟨by decide, _, rfl, by decide⟩
  have hblank : ¬ IsBadLine badScope 2 := by
    rintro ⟨-, row, hrow, hrowBad⟩
    obtain rfl := Option.some.inj hrow
    exact absurd hrowBad (by decide)
  obtain ⟨fault, hfault⟩ := (herror badScope).1.2 ⟨3, hbad⟩
  obtain ⟨hline, hfirst⟩ := (herror badScope).2 fault hfault
  refine ⟨by decide, hentries ▸ hread paddedScope, fault, hfault, ?_⟩
  have hle : fault.line ≤ 3 := hfirst hbad
  have hpos : 1 < fault.line := hline.1
  have hne : fault.line ≠ 2 := by
    intro htwo
    exact hblank (htwo ▸ hline)
  omega

end FuzzCoverage
