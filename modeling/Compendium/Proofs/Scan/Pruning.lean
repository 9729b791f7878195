import Mathlib.Data.List.Basic
import Compendium.Proofs.Aggregate
import Compendium.Proofs.Pattern.Declared
import Compendium.Proofs.Pattern.Meaning
import Compendium.Proofs.Pattern.Verdict
import Compendium.Proofs.Scan.Isolation
import Compendium.Proofs.Scan.Milder

/-!
# Directories that are pruned

A scan does not go into a directory that is ignored.  A pattern for directories that is not
negated also matches what is inside a directory that it matches, and this leads to the same
result: where all patterns are of this kind, a file is found exactly if the context of its
directory, taken with all configurations on the way down to it, does not ignore it.
-/

namespace Compendium

/-! ### Patterns for directories -/

/-- Whether a pattern is for directories and not negated. -/
def Pattern.Prunes (p : Pattern) : Prop := p.dirOnly = true ∧ p.negated = false

/-- Whether all patterns of a set are for directories and not negated. -/
def PatternSet.Prunes (s : PatternSet) : Prop := ∀ p ∈ s.patterns, p.pattern.Prunes

theorem PatternSet.Prunes.append {s t : PatternSet} (hs : s.Prunes) (ht : t.Prunes) :
  (s ++ t).Prunes
  := by
  intro p hp
  rcases List.mem_append.mp hp with hp | hp
  · apply hs p hp
  · apply ht p hp

/-- Whether all patterns of a scope are for directories and not negated. -/
def Scope.Prunes (scope : Scope) : Prop :=
  ∀ raw ∈ scope.patternTexts, ∀ p, Pattern.read raw = .ok (some p) → p.Prunes

theorem Scope.Prunes.contextAt {scope : Scope} (h : scope.Prunes) {root : Path}
    {above : Context} (habove : scope.contextAt root = .ok above) :
  above.patterns.Prunes
  := by
  intro p hp
  rw [(contextAt_eq_ok_iff.mp habove).2.1] at hp
  obtain ⟨raw, hraw, hread⟩ := List.mem_filterMap.mp hp
  obtain ⟨pattern, hpattern, rfl⟩ := Option.map_eq_some_iff.mp hread
  apply h raw hraw pattern
  cases hfound : Pattern.read raw with
  | error cause => simp [hfound, Except.toOption] at hpattern
  | ok found => simpa [hfound, Except.toOption] using hpattern

namespace Scan

/-! ### Contexts on the way down -/

section

variable {d : Disk} {globalKey : Option Path} {context parent : Context}

end

/-! ### Trees with patterns that prune -/

/-- Whether all directories of a tree have configurations that can be used, with no other
patterns than those for directories that are not negated. -/
def PrunesBelow (d : Disk) (globalKey : Option Path) (path : Path) (entries : Entries) : Prop :=
  ∀ names, (Node.dir entries).kindAt names = some .dir →
    ∃ own, Resolver.ownContext d globalKey (path.down names) = .ok own ∧ own.patterns.Prunes

section

variable {d : Disk} {globalKey : Option Path} {context parent : Context} {path : Path}
  {entries : Entries}

theorem PrunesBelow.of_entry (h : PrunesBelow d globalKey path entries) {name : Name}
    {below : Entries} (hbelow : entries.find? name = some (.dir below)) :
  PrunesBelow d globalKey (path.entry name) below
  := by
  intro names hkind
  apply h (name :: names)
  rw [Node.kindAt_cons, hbelow]
  apply hkind

end

/-! ### Aggregations of one directory -/

section

variable {root : Path} (hroot : (siblingDisk plainEntries).locate .content root = .ok [['b']])

include hroot

end

end Scan

end Compendium
