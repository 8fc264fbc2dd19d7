import FuzzCoverage.Proofs.Scan.Counting
import FuzzCoverage.Proofs.Scan.Surroundings

/-! # What the filter on functions leaves of a file

Functions that do not change the state are left out of the blocks of a file, unless there are no
others.  The filter stands between the scan and the residue of the file, so that it must not see the
residue, neither as a function to leave out nor as one that is left.

* `isFunction_of_mem_blocks`, `kind_of_mem_residue?` — the kind of a block tells the functions of a
  file from its residue;
* `fileBlocks_false_eq_filter` — so the file without these functions is told from the whole file. -/

namespace FuzzCoverage

/-- Whether a block is that of a function or of a unit like one, and not the residue of a file. -/
def Block.isFunction (b : Block) : Bool := b.kind != .contractLevel

namespace Scan

open Solidity Trace

variable {lines : List Line} {parts : List Part} {rows : List Row} {b : Block}

/-! ## Functions and the residue -/

theorem Begins.kind_ne_contractLevel {unit : Heading} (h : Begins unit lines) :
    unit.kind ≠ .contractLevel := by
  cases lines with
  | nil => exact h.elim
  | cons first others =>
    obtain ⟨code, -, hcode⟩ := Option.bind_eq_some_iff.1 h.1
    exact Scan.kind_ne_contractLevel hcode

theorem Divides.isFunction_of_block? (h : Divides lines parts) :
    ∀ b ∈ parts.filterMap Part.block?, b.isFunction := by
  induction h with
  | nil => simp
  | outside begins divides ih => simpa [Part.block?] using ih
  | dropped begins givenUp divides ih => simpa [Part.block?] using ih
  | @definition unit heading body rest brace parts isDefinition divides ih =>
    have hkind : (definitionBlock unit heading brace body).complete.kind = unit.kind :=
      congrArg Heading.kind (definitionBlock_unit unit heading brace body)
    have hfirst : (definitionBlock unit heading brace body).complete.isFunction := by
      rw [Block.isFunction, hkind]
      exact bne_iff_ne.2 isDefinition.begins.kind_ne_contractLevel
    exact List.forall_mem_cons.2 ⟨hfirst, ih⟩

theorem isFunction_of_mem_blocks (h : b ∈ (({} : State).run rows).blocks) : b.isFunction := by
  obtain ⟨parts, hparts⟩ := exists_divides (linesOf false rows)
  rw [(State.run_of_divides hparts).1] at h
  exact hparts.isFunction_of_block? b h

theorem kind_of_mem_residue? (h : b ∈ (({} : State).run rows).residue?) :
    b.kind = .contractLevel := by
  obtain ⟨parts, hparts⟩ := exists_divides (linesOf false rows)
  rw [State.residue?, (State.run_of_divides hparts).2] at h
  obtain ⟨-, hb⟩ := Option.ite_none_left_eq_some.1 h
  rw [← Option.some.inj hb]
  exact congrArg Heading.kind (Block.readAll_unit Block.outside _)

/-! ## The filter -/

section

variable {functions : List Block} {residue? : Option Block}

theorem filter_isFunction (hfunctions : ∀ b ∈ functions, b.isFunction)
    (hresidue : ∀ b ∈ residue?, b.kind = .contractLevel) :
    (functions ++ residue?.toList).filter Block.isFunction = functions := by
  have hnone : residue?.toList.filter Block.isFunction = [] := by
    rw [List.filter_eq_nil_iff]
    intro b hb
    simp [Block.isFunction, hresidue b (Option.mem_toList.1 hb)]
  rw [List.filter_append, hnone, List.append_nil, List.filter_eq_self]
  exact hfunctions

theorem any_changesState (hfunctions : ∀ b ∈ functions, b.isFunction)
    (hresidue : ∀ b ∈ residue?, b.kind = .contractLevel) :
    ((functions ++ residue?.toList).any fun b => b.isFunction && !b.viewPure) =
      !functions.all (·.viewPure) := by
  rw [← List.any_filter, filter_isFunction hfunctions hresidue, List.not_all_eq_any_not]

/-- The residue passes a test on functions that a block has to fail to be left out. -/
theorem filter_changesState (hfunctions : ∀ b ∈ functions, b.isFunction)
    (hresidue : ∀ b ∈ residue?, b.kind = .contractLevel) :
    ((functions ++ residue?.toList).filter fun b => !(b.isFunction && b.viewPure)) =
      functions.filter (!·.viewPure) ++ residue?.toList := by
  have hkept : (residue?.toList.filter fun b => !(b.isFunction && b.viewPure)) = residue?.toList := by
    rw [List.filter_eq_self]
    intro b hb
    simp [Block.isFunction, hresidue b (Option.mem_toList.1 hb)]
  rw [List.filter_append, hkept]
  congr 1
  refine List.filter_congr fun b hb => ?_
  rw [hfunctions b hb, Bool.true_and]

theorem any_isFunction (hfunctions : ∀ b ∈ functions, b.isFunction)
    (hresidue : ∀ b ∈ residue?, b.kind = .contractLevel) :
    (functions ++ residue?.toList).any Block.isFunction ↔ functions ≠ [] := by
  have hfilter : (functions ++ residue?.toList).any Block.isFunction ↔
      (functions ++ residue?.toList).filter Block.isFunction ≠ [] := by
    rw [List.any_eq_true, ne_eq, List.filter_eq_nil_iff]
    simp only [not_forall, not_not, exists_prop]
  rw [hfilter, filter_isFunction hfunctions hresidue]

/-- The filter is at work only where some function changes the state. -/
theorem withoutViewPure_eq_nil (allFunctions : Bool) (blocks : List Block) :
    withoutViewPure allFunctions blocks = [] ↔ blocks = [] := by
  rw [withoutViewPure]
  split
  · exact Iff.rfl
  · next hsome =>
    rw [Bool.or_eq_true, not_or, List.all_eq_true] at hsome
    refine iff_of_false (fun hnone => hsome.2 fun b hb => ?_) ?_
    · simpa using List.filter_eq_nil_iff.1 hnone b hb
    · rintro rfl
      exact hsome.2 (by simp)

end

/-- **A file without the functions that do not change the state.**  If some function of the file changes
    it, what is left of the file is the file without exactly those functions that do not, in order;
    otherwise it is all of it.  The residue of the file comes last in both, and is the same block or
    missing in both, and a function is left exactly if the file has one. -/
theorem fileBlocks_false_eq_filter (lines : List Text) :
    let all := fileBlocks true lines
    let kept := fileBlocks false lines
    (kept = if all.any fun b => b.isFunction && !b.viewPure then
        all.filter fun b => !(b.isFunction && b.viewPure) else all) ∧
      (∃ residue? : Option Block, (∀ b ∈ residue?, b.kind = .contractLevel) ∧
        all = all.filter Block.isFunction ++ residue?.toList ∧
        kept = kept.filter Block.isFunction ++ residue?.toList) ∧
      kept.any Block.isFunction = all.any Block.isFunction := by
  intro all kept
  have hfunctions : ∀ b ∈ (afterLines lines).blocks, b.isFunction := fun b => isFunction_of_mem_blocks
  have hresidue : ∀ b ∈ (afterLines lines).residue?, b.kind = .contractLevel :=
    fun b => kind_of_mem_residue?
  have hleft : ∀ b ∈ withoutViewPure false (afterLines lines).blocks, b.isFunction :=
    fun b hb => hfunctions b ((withoutViewPure_sublist false _).subset hb)
  have hall : all = (afterLines lines).blocks ++ (afterLines lines).residue?.toList := rfl
  have hkept : kept =
      withoutViewPure false (afterLines lines).blocks ++ (afterLines lines).residue?.toList := rfl
  refine ⟨?_, ⟨(afterLines lines).residue?, hresidue, ?_, ?_⟩, ?_⟩
  · rw [hall, any_changesState hfunctions hresidue, filter_changesState hfunctions hresidue, hkept,
      withoutViewPure, Bool.false_or]
    cases (afterLines lines).blocks.all (·.viewPure) <;> rfl
  · rw [hall, filter_isFunction hfunctions hresidue]
  · rw [hkept, filter_isFunction hleft hresidue]
  · rw [hkept, hall, Bool.eq_iff_iff, any_isFunction hleft hresidue,
      any_isFunction hfunctions hresidue, ne_eq, withoutViewPure_eq_nil]

end Scan

end FuzzCoverage
