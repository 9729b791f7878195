import Compendium.Proofs.Path.Resolved
import Compendium.Proofs.Pattern.Declared
import Compendium.Proofs.Pattern.Reading

/-!
# Where anchored patterns match

An anchored pattern matches behind the parts of its base only, and there it is tested on names: a
step up is left out and takes back nothing.  So the pattern matches what lies within its base, as
long as the path to it does not step up out of the base.
-/

namespace Compendium.ScopedPattern

variable {s : ScopedPattern} {path : Path} {isDir : Bool}

/-- An anchored pattern covers a path that begins with the parts of its base and has names behind
them which the pattern matches. -/
theorem covers_iff_of_anchored (h : s.pattern.anchored = true) :
  s.covers path isDir = true
    ↔ ∃ rest, path.parts = s.base.parts ++ rest
      ∧ s.pattern.matchesNames (Path.namesOf rest) isDir = true
  := by
  rw [covers]
  split
  · rename_i rest hrest
    rw [Path.partsBelow?, Path.partsAfter_eq_some_iff] at hrest
    simp [hrest]
  · rename_i hnone
    have hoff : ∀ rest, path.parts ≠ s.base.parts ++ rest := by
      intro rest hrest
      rw [Path.partsBelow?, Path.partsAfter_eq_some_iff.mpr hrest] at hnone
      contradiction
    simp [h, hoff]

/-- A path that an anchored pattern covers begins with the parts of its base, and the names behind
these lead to something within the base, which the pattern covers too.  The path itself lies within
the base if what is behind the base resolves to names.  It may do otherwise, since steps up behind
the base are left out when the pattern is tested. -/
theorem covers_anchored (hanchored : s.pattern.anchored = true)
    (h : s.covers path isDir = true) :
  ∃ rest, path.parts = s.base.parts ++ rest ∧ Path.namesOf rest ≠ []
    ∧ (∀ inner : Path, inner.parts = s.base.parts ++ (Path.namesOf rest).map .name →
        s.covers inner isDir = true ∧ inner.LiesWithin s.base)
    ∧ ∀ names : List Name, rest.foldl Path.resolveStep [] = names.map .name → names ≠ [] →
        path.LiesWithin s.base
  := by
  obtain ⟨rest, hparts, hmatches⟩ := (covers_iff_of_anchored hanchored).mp h
  have hnames : Path.namesOf rest ≠ [] := by
    intro hnil
    rw [hnil, Pattern.matchesNames_nil] at hmatches
    contradiction
  use rest, hparts, hnames
  constructor
  · intro inner hinner
    constructor
    · rw [covers_of_parts hinner, hmatches]
    · apply Path.liesWithin_of_parts hinner hnames
      rw [Path.foldl_resolveStep_map_name, List.nil_append]
  · intro names hrest hne
    apply Path.liesWithin_of_parts hparts hne hrest

/-- Declared in `/proj`, the pattern `/a` covers `/proj/a`, and with it `/proj/../a`, which does not
lie within `/proj`. -/
theorem covers_anchored_beside :
  ∃ p, Pattern.read "/a" = .ok (some p) ∧ p.anchored = true
    ∧ (mk p ⟨"/proj"⟩).covers ⟨"/proj/../a"⟩ false = true
    ∧ ¬Path.LiesWithin ⟨"/proj/../a"⟩ ⟨"/proj"⟩
    ∧ (mk p ⟨"/proj"⟩).covers ⟨"/proj/a"⟩ false = true
    ∧ Path.LiesWithin ⟨"/proj/a"⟩ ⟨"/proj"⟩
  := by
  have hread : Pattern.read "/a" = .ok (some ⟨"/a", false, true, false, [.literal ['a']]⟩) := by
    cbv
  refine ⟨_, hread, rfl, ?_⟩
  have hcovers : (mk ⟨"/a", false, true, false, [.literal ['a']]⟩ ⟨"/proj"⟩).covers
      ⟨"/proj/../a"⟩ false = true := by
    decide
  have hbeside : ¬Path.LiesWithin ⟨"/proj/../a"⟩ ⟨"/proj"⟩ := by
    intro hwithin
    apply absurd hwithin.isPrefix (by decide)
  obtain ⟨rest, hparts, -, hinner, -⟩ := covers_anchored rfl hcovers
  obtain rfl : rest = [.up, .name ['a']] :=
    List.append_cancel_left (hparts.symm.trans (by decide :
      Path.parts ⟨"/proj/../a"⟩ = Path.parts ⟨"/proj"⟩ ++ [.up, .name ['a']]))
  obtain ⟨hcovered, hwithin⟩ := hinner ⟨"/proj/a"⟩ (by decide)
  exact ⟨hcovers, hbeside, hcovered, hwithin⟩

end Compendium.ScopedPattern
