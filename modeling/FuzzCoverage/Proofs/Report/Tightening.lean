import FuzzCoverage.Proofs.Trace.Grouping
import FuzzCoverage.Report.Basic

/-! # Stricter options

Options that are at least as strict as others (`Options.Tightens`) leave out every file that the others
leave out.  The reason may be another one, since the first that applies is given; but each reason that
applies under the laxer options applies under the stricter ones (`Exclusion.applies_of_tightens`).

Files are reported by their key, and a key may stand for several paths of which some are left out.  It is
reported as long as one of them is not, so that no key is gained (`reported_of_tightens`). -/

namespace FuzzCoverage

/-- The first options leave out at least what the second ones ask to leave out, and mean the same by
    extensions and by the files of logical coverage. -/
structure Options.Tightens (o' o : Options) : Prop where
  exclude : o.exclude ⊆ o'.exclude
  libraryRoots : o.libraryRoots ⊆ o'.libraryRoots
  libraryNames : o.libraryNames ⊆ o'.libraryNames
  testEndings : o.testEndings ⊆ o'.testEndings
  interfaceDirectories : o.interfaceDirectories ⊆ o'.interfaceDirectories
  fuzzingDirectories : o.fuzzingDirectories ⊆ o'.fuzzingDirectories
  skipInterfaceNames : o.skipInterfaceNames → o'.skipInterfaceNames
  sourceOnly : o.sourceOnly → o'.sourceOnly
  mode : o.isLogical → o'.isLogical
  extension : o'.extension = o.extension
  logicalDirectory : o'.logicalDirectory = o.logicalDirectory
  logicalNameStart : o'.logicalNameStart = o.logicalNameStart

namespace Exclusion

open Text

/-! ## Each rule in its list -/

theorem any_of_subset {α : Type} {l l' : List α} {p p' : α → Bool} (h : l ⊆ l')
    (himp : ∀ a, p a → p' a) (hany : l.any p) : l'.any p' := by
  obtain ⟨a, hmem, ha⟩ := List.any_eq_true.1 hany
  exact List.any_eq_true.2 ⟨a, h hmem, himp a ha⟩

theorem amongNames_of_subset {names names' : List Text} (h : names ⊆ names') {name : Text}
    (hamong : amongNames names name) : amongNames names' name := by
  rw [amongNames, List.contains_iff_mem] at hamong ⊢
  exact List.map_subset _ h hamong

theorem isLibrary_of_subset {libraries libraries' : List Text} (h : libraries ⊆ libraries')
    {directory : Text} (hlibrary : isLibrary libraries directory) : isLibrary libraries' directory :=
  any_of_subset (List.map_subset _ h) (fun _ hname => hname) hlibrary

theorem isDependency_of_tightens {o o' : Options} (h : o'.Tightens o) {directories : List Text}
    (hdependency : isDependency o directories) : isDependency o' directories := by
  apply any_of_subset (List.Subset.refl _) _ hdependency
  intro pair hpair
  obtain ⟨hroot, hchild⟩ := Bool.and_eq_true_iff.1 hpair
  exact Bool.and_eq_true_iff.2
    ⟨amongNames_of_subset h.libraryRoots hroot, isLibrary_of_subset h.libraryNames hchild⟩

/-- A reason that applies under the laxer options applies under the stricter ones. -/
theorem applies_of_tightens {o o' : Options} (h : o'.Tightens o) {path : SourcePath} {reason : Exclusion}
    (happlies : applies o path reason) : applies o' path reason := by
  cases reason with
  | dependency => exact isDependency_of_tightens h happlies
  | testOrScript => exact any_of_subset h.testEndings (fun _ hending => hending) happlies
  | interfaceDirectory =>
    apply any_of_subset (List.Subset.refl _) _ happlies
    exact fun directory => amongNames_of_subset h.interfaceDirectories
  | interfaceName =>
    obtain ⟨hskips, hname⟩ := Bool.and_eq_true_iff.1 happlies
    rw [← h.extension] at hname
    exact Bool.and_eq_true_iff.2 ⟨h.skipInterfaceNames hskips, hname⟩
  | namedByUser =>
    apply any_of_subset h.exclude _ happlies
    intro excluded hsame
    rwa [h.extension]
  | fuzzingDirectory =>
    obtain ⟨honly, hdirectory⟩ := Bool.and_eq_true_iff.1 happlies
    refine Bool.and_eq_true_iff.2 ⟨h.sourceOnly honly, ?_⟩
    apply any_of_subset (List.Subset.refl _) _ hdirectory
    exact fun directory => amongNames_of_subset h.fuzzingDirectories
  | notLogical =>
    obtain ⟨hmode, hother⟩ := Bool.and_eq_true_iff.1 happlies
    have hfile : isLogicalFile o' path = isLogicalFile o path := by
      rw [isLogicalFile, isLogicalFile, h.logicalDirectory, h.logicalNameStart]
    refine Bool.and_eq_true_iff.2 ⟨h.mode hmode, ?_⟩
    rwa [hfile]

end Exclusion

/-! ## Files that are kept -/

namespace Trace

variable {o o' : Options}

theorem isKept_of_tightens (h : o'.Tightens o) {path : SourcePath} (hkept : isKept o' path) :
    isKept o path := by
  rw [isKept_iff] at hkept ⊢
  intro reason
  refine Bool.eq_false_iff.2 fun happlies => ?_
  have happlies' := Exclusion.applies_of_tightens h happlies
  rw [hkept reason] at happlies'
  cases happlies'

theorem mem_keys_iff {trace key : Text} :
    key ∈ (segments o trace).map Segment.key ↔ ∃ path ∈ keptMarkers o trace.lines, path.key = key := by
  rw [keys_segments, List.mem_eraseDups, List.mem_map]

theorem keys_subset_of_tightens (h : o'.Tightens o) (trace : Text) :
    (segments o' trace).map Segment.key ⊆ (segments o trace).map Segment.key := by
  intro key hkey
  obtain ⟨path, hpath, rfl⟩ := mem_keys_iff.1 hkey
  obtain ⟨hmarker, hkept⟩ := List.mem_filter.1 hpath
  exact mem_keys_iff.2 ⟨path, List.mem_filter.2 ⟨hmarker, isKept_of_tightens h hkept⟩, rfl⟩

end Trace

theorem map_key_analyze (o : Options) (trace : Text) :
    (analyze o trace).map (·.path.key) = (Trace.segments o trace).map Trace.Segment.key := by
  rw [analyze, List.map_map]
  rfl

/-- **Stricter options bring no file in.**  Every path that is left out under options is left out under
    stricter ones, and every key that is reported under the stricter ones is reported under the
    others. -/
theorem reported_of_tightens {o o' : Options} (h : o'.Tightens o) :
    (∀ path, (Exclusion.of? o path).isSome → (Exclusion.of? o' path).isSome) ∧
      ∀ trace, ∀ r' ∈ analyze o' trace, ∃ r ∈ analyze o trace, r.path.key = r'.path.key := by
  constructor
  · intro path hout
    refine Option.isSome_iff_ne_none.2 fun hnone => ?_
    have hkept : Trace.isKept o path := Trace.isKept_of_tightens h (Option.isNone_iff_eq_none.2 hnone)
    rw [Trace.isKept, Option.isNone_iff_eq_none] at hkept
    rw [hkept] at hout
    cases hout
  · intro trace r' hr'
    have hkey : r'.path.key ∈ (analyze o' trace).map (·.path.key) := List.mem_map_of_mem hr'
    rw [map_key_analyze] at hkey
    have hreported := Trace.keys_subset_of_tightens h trace hkey
    rw [← map_key_analyze] at hreported
    exact List.mem_map.1 hreported

/-- Logical coverage of what is no test, without one of the contracts. -/
def logicalOptions : Options := { mode := .logical, sourceOnly := true, exclude := ["Vault".toList] }

/-- Two paths of one key, of which the first is that of a test, and another file. -/
def sharedKeyTrace : Text :=
  "/p/test/logical/LogicalA.sol\n1|1|*|x = 1;\n/p/src/Vault.sol\n1|1|*|y = 1;\n/p/logical/LogicalA.sol\n2|1|*|z = 1;\n".toList

theorem logicalOptions_tightens : logicalOptions.Tightens {} where
  exclude := List.nil_subset _
  libraryRoots := List.Subset.refl _
  libraryNames := List.Subset.refl _
  testEndings := List.Subset.refl _
  interfaceDirectories := List.Subset.refl _
  fuzzingDirectories := List.Subset.refl _
  skipInterfaceNames := id
  sourceOnly := by decide
  mode := by decide
  extension := rfl
  logicalDirectory := rfl
  logicalNameStart := rfl

theorem reported_of_logicalOptions :
    logicalOptions.Tightens {} ∧
      (analyze {} sharedKeyTrace).map (·.path.key) = ["logical/LogicalA.sol".toList, "src/Vault.sol".toList] ∧
      (analyze logicalOptions sharedKeyTrace).map (·.path.full) = ["/p/logical/LogicalA.sol".toList] ∧
      (∀ path, (Exclusion.of? {} path).isSome → (Exclusion.of? logicalOptions path).isSome) ∧
      ∀ r' ∈ analyze logicalOptions sharedKeyTrace,
        ∃ r ∈ analyze {} sharedKeyTrace, r.path.key = r'.path.key := by
  obtain ⟨hexcluded, hreported⟩ := reported_of_tightens logicalOptions_tightens
  exact ⟨logicalOptions_tightens, by decide +kernel, by decide +kernel, hexcluded, hreported sharedKeyTrace⟩

end FuzzCoverage
