import FuzzCoverage.Proofs.Report.Figures
import FuzzCoverage.Scope.Summary

/-! # Reports in scope

The coverage of a scope is about the files that its entries name, and each of them has its lines once
(`ScopeSummary.CountsOnce`).  The summary goes through the entries, and an entry gives no more than the
name of a file: so it adds the lines of a report up once for every entry with that name
(`ScopeSummary.sum_flatMap_matching`).  That is once exactly where the lines of no report belong to two
entries (`ScopeSummary.countsOnce_iff`). -/

namespace FuzzCoverage

namespace ScopeSummary

/-- How many entries of a scope have the name of a report's file. -/
def entriesOf (scope : List Text) (r : FileReport) : Nat :=
  scope.countP fun entry => r.path.fileName = fileNameOf entry

/-- The reports on files that the scope names, each of them once. -/
def inScope (reports : List FileReport) (scope : List Text) : List FileReport :=
  reports.filter fun r => scope.any fun entry => r.path.fileName = fileNameOf entry

/-- The lines of a summary are those of the reports in scope. -/
structure CountsOnce (reports : List FileReport) (scope : List Text) : Prop where
  coveredLines : (ofReports reports scope).coveredLines =
    ((inScope reports scope).map (·.coverage.coveredLines)).sum
  untouchedLines : (ofReports reports scope).untouchedLines =
    ((inScope reports scope).map (·.coverage.untouchedLines)).sum

instance (reports : List FileReport) (scope : List Text) : Decidable (CountsOnce reports scope) :=
  decidable_of_iff (_ ∧ _) ⟨fun h => ⟨h.1, h.2⟩, fun h => ⟨h.1, h.2⟩⟩

variable {reports : List FileReport} {scope : List Text} (f : FileReport → Nat)

theorem sum_map_filter (p : FileReport → Bool) (reports : List FileReport) :
    ((reports.filter p).map f).sum = (reports.map fun r => if p r then f r else 0).sum := by
  induction reports with
  | nil => rfl
  | cons r reports ih =>
    cases hp : p r with
    | false => simp [hp, ih]
    | true => simp [hp, ih]

/-- **A report is added up once for every entry that names it.** -/
theorem sum_flatMap_matching (reports : List FileReport) (scope : List Text) :
    ((scope.flatMap (matching reports)).map f).sum =
      (reports.map fun r => entriesOf scope r * f r).sum := by
  induction scope with
  | nil => simp [entriesOf]
  | cons entry scope ih =>
    rw [List.flatMap_cons, List.map_append, List.sum_append, ih, matching, sum_map_filter,
      ← List.sum_map_add]
    refine congrArg List.sum (List.map_congr_left fun r _ => ?_)
    -- one entry more, which names the report or does not
    by_cases hname : r.path.fileName = fileNameOf entry
    · simp [entriesOf, hname, Nat.add_mul, Nat.add_comm]
    · simp [entriesOf, hname]

theorem sum_inScope (reports : List FileReport) (scope : List Text) :
    ((inScope reports scope).map f).sum =
      (reports.map fun r => min (entriesOf scope r) 1 * f r).sum := by
  rw [inScope, sum_map_filter]
  refine congrArg List.sum (List.map_congr_left fun r _ => ?_)
  cases hany : scope.any fun entry => r.path.fileName = fileNameOf entry with
  | false =>
    have hnone : entriesOf scope r = 0 := by simpa [entriesOf, List.countP_eq_zero] using hany
    simp [hnone]
  | true =>
    have hsome : 1 ≤ entriesOf scope r := by
      simpa [entriesOf, Nat.one_le_iff_ne_zero, List.countP_eq_zero] using hany
    simp [Nat.min_eq_right hsome]

theorem sum_map_eq_iff {f g : FileReport → Nat} (h : ∀ r ∈ reports, f r ≤ g r) :
    (reports.map g).sum = (reports.map f).sum ↔ ∀ r ∈ reports, g r = f r := by
  induction reports with
  | nil => simp
  | cons r reports ih =>
    obtain ⟨hr, hreports⟩ := List.forall_mem_cons.1 h
    have hle : (reports.map f).sum ≤ (reports.map g).sum := List.sum_le_sum hreports
    rw [List.forall_mem_cons, ← ih hreports, List.map_cons, List.map_cons, List.sum_cons, List.sum_cons]
    omega

theorem sum_eq_sum_inScope_iff (reports : List FileReport) (scope : List Text) :
    ((scope.flatMap (matching reports)).map f).sum = ((inScope reports scope).map f).sum ↔
      ∀ r ∈ reports, 1 < entriesOf scope r → f r = 0 := by
  rw [sum_flatMap_matching, sum_inScope,
    sum_map_eq_iff fun r _ => Nat.mul_le_mul_right _ (Nat.min_le_left _ 1)]
  refine forall₂_congr fun r _ => ?_
  rcases Nat.lt_or_ge 1 (entriesOf scope r) with htwo | hone
  · rw [Nat.min_eq_right htwo.le, Nat.one_mul]
    constructor
    · intro heq _
      by_contra hlines
      exact htwo.ne' ((Nat.mul_eq_right hlines).1 heq)
    · intro hzero
      rw [hzero htwo, Nat.mul_zero]
  · rw [Nat.min_eq_left hone]
    exact ⟨fun _ htwo => absurd htwo (by omega), fun _ => rfl⟩

/-- **When a summary counts the files in scope once.**  It does for the reports and the scope exactly if
    no report that has lines is on a file of whose name there are two entries. -/
theorem countsOnce_iff (reports : List FileReport) (scope : List Text) :
    CountsOnce reports scope ↔ ∀ r ∈ reports, 1 < entriesOf scope r → r.coverage.lines = 0 := by
  have hcovered := sum_eq_sum_inScope_iff (·.coverage.coveredLines) reports scope
  have huntouched := sum_eq_sum_inScope_iff (·.coverage.untouchedLines) reports scope
  rw [← Count.total_eq_sum] at hcovered huntouched
  constructor
  · intro h r hr htwo
    rw [Coverage.lines, hcovered.1 h.coveredLines r hr htwo, huntouched.1 h.untouchedLines r hr htwo]
  · intro h
    have hlines : ∀ r ∈ reports, 1 < entriesOf scope r →
        r.coverage.coveredLines = 0 ∧ r.coverage.untouchedLines = 0 :=
      fun r hr htwo => Nat.add_eq_zero_iff.1 (h r hr htwo)
    exact ⟨hcovered.2 fun r hr htwo => (hlines r hr htwo).1,
      huntouched.2 fun r hr htwo => (hlines r hr htwo).2⟩

/-- A pool with eight lines and a router with two. -/
def marketReports : List FileReport :=
  [⟨⟨"/p/src/Pool.sol".toList⟩, [], ⟨1, 0, 6, 0, 2⟩⟩,
    ⟨⟨"/p/src/Router.sol".toList⟩, [], ⟨1, 0, 1, 0, 1⟩⟩]

/-- A scope with two files of one name, of which one has been traced. -/
def marketScope : List Text :=
  ["amm/src/Pool.sol", "lending/src/Pool.sol", "amm/src/Router.sol"].map String.toList

/-- The lines of the pool count twice, and the scope appears to be covered better than it is. -/
theorem not_countsOnce_marketScope :
    ¬ CountsOnce marketReports marketScope ∧
      (ofReports marketReports marketScope).coveredLines = 13 ∧
      ((inScope marketReports marketScope).map (·.coverage.coveredLines)).sum = 7 ∧
      (ofReports marketReports marketScope).untouchedLines = 5 ∧
      ((inScope marketReports marketScope).map (·.coverage.untouchedLines)).sum = 3 := by
  decide

end ScopeSummary

end FuzzCoverage
