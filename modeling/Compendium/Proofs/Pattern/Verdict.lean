import Mathlib.Data.List.Basic
import Compendium.Pattern.Set

/-!
# Verdicts of sets of patterns

The verdict of a set of patterns on an entry is that of the last pattern that covers the entry.
So the patterns of a set that stand behind others come first, and one more pattern can change a
verdict in one direction only.  `PatternSet.Milder` compares sets by what they ignore.
-/

namespace Compendium.PatternSet

variable {s t own : PatternSet} {path : Path} {isDir : Bool}

/-! ### The last match -/

theorem lastMatch?_append (s t : PatternSet) (path : Path) (isDir : Bool) :
  (s ++ t).lastMatch? path isDir = (t.lastMatch? path isDir).or (s.lastMatch? path isDir)
  := by
  change ((s.patterns ++ t.patterns).reverse.find? fun p => p.covers path isDir) = _
  rw [List.reverse_append, List.find?_append]
  rfl

/-- A set with one pattern has that for its last match if it covers the entry. -/
theorem lastMatch?_singleton (p : ScopedPattern) (path : Path) (isDir : Bool) :
  (mk [p]).lastMatch? path isDir = if p.covers path isDir then some p else none
  := by
  rw [lastMatch?, List.reverse_singleton, List.find?_singleton]

/-- What is ignored is ignored because of the last match. -/
theorem isIgnored_iff :
  s.isIgnored path isDir = true
    ↔ ∃ p, s.lastMatch? path isDir = some p ∧ p.pattern.negated = false
  := by
  rw [isIgnored, ignoredBy?]
  cases s.lastMatch? path isDir with
  | none => simp
  | some p => simp [Option.filter]

/-- What the patterns that stand behind say comes before what the others say. -/
theorem isIgnored_append (s t : PatternSet) (path : Path) (isDir : Bool) :
  (s ++ t).isIgnored path isDir =
    match t.lastMatch? path isDir with
    | some p => !p.pattern.negated
    | none => s.isIgnored path isDir
  := by
  rw [isIgnored, ignoredBy?, lastMatch?_append]
  cases t.lastMatch? path isDir with
  | none => rfl
  | some p => cases hp : p.pattern.negated <;> simp [Option.filter, hp]

theorem lastMatch?_eq_none_iff :
  s.lastMatch? path isDir = none ↔ ∀ p ∈ s.patterns, p.covers path isDir = false
  := by
  simp [lastMatch?]

/-! ### Milder sets -/

/-- Whether a set ignores nothing but what another ignores. -/
def Milder (t s : PatternSet) : Prop :=
  ∀ path isDir, t.isIgnored path isDir = true → s.isIgnored path isDir = true

/-- Of two sets the milder one stays so when the same patterns are added behind both. -/
theorem Milder.append (h : t.Milder s) (own : PatternSet) :
  (t ++ own).Milder (s ++ own)
  := by
  intro path isDir
  rw [isIgnored_append, isIgnored_append]
  cases own.lastMatch? path isDir with
  | none => apply h
  | some p => apply id

/-- A set with a pattern in the middle, as sets one after the other. -/
theorem mk_insert (before after : List ScopedPattern) (p : ScopedPattern) :
  mk (before ++ p :: after) = mk before ++ mk [p] ++ mk after
  := by
  change mk (before ++ p :: after) = mk ((before ++ [p]) ++ after)
  rw [List.append_assoc, List.singleton_append]

/-- A negated pattern makes a set milder, wherever it is inserted. -/
theorem milder_insert_of_negated {p : ScopedPattern} (hp : p.pattern.negated = true)
    (before after : List ScopedPattern) :
  (mk (before ++ p :: after)).Milder (mk before ++ mk after)
  := by
  rw [mk_insert]
  apply Milder.append
  intro path isDir
  rw [isIgnored_append, lastMatch?_singleton]
  cases p.covers path isDir <;> simp [hp]

/-- A pattern that is not negated makes a set less mild, wherever it is inserted. -/
theorem milder_of_insert {p : ScopedPattern} (hp : p.pattern.negated = false)
    (before after : List ScopedPattern) :
  (mk before ++ mk after).Milder (mk (before ++ p :: after))
  := by
  rw [mk_insert]
  apply Milder.append
  intro path isDir
  rw [isIgnored_append, lastMatch?_singleton]
  cases p.covers path isDir <;> simp [hp]

/-! ### Sets without negated patterns -/

/-- Whether a pattern that stands before others decides on an entry: it covers the entry, and none
of those behind it does. -/
def Decides (p : ScopedPattern) (after : List ScopedPattern) (path : Path) (isDir : Bool) : Prop :=
  p.covers path isDir = true ∧ ∀ later ∈ after, later.covers path isDir = false

instance (p : ScopedPattern) (after : List ScopedPattern) (path : Path) (isDir : Bool) :
    Decidable (Decides p after path isDir) :=
  inferInstanceAs (Decidable (_ ∧ _))

/-- A pattern that is inserted is the last match where it decides, and elsewhere the last match is
the one that there was. -/
theorem lastMatch?_insert (before after : List ScopedPattern) (p : ScopedPattern) (path : Path)
    (isDir : Bool) :
  (mk (before ++ p :: after)).lastMatch? path isDir
    = if Decides p after path isDir then some p
      else (mk (before ++ after)).lastMatch? path isDir
  := by
  have hwithout : mk (before ++ after) = mk before ++ mk after := rfl
  rw [mk_insert, hwithout, lastMatch?_append, lastMatch?_append, lastMatch?_append,
    lastMatch?_singleton]
  cases hafter : (mk after).lastMatch? path isDir with
  | none =>
    have hnone : ∀ later ∈ after, later.covers path isDir = false :=
      lastMatch?_eq_none_iff.mp hafter
    simp only [Decides, and_iff_left hnone, Option.none_or]
    split <;> rfl
  | some last =>
    have hlast : ¬Decides p after path isDir := by
      rintro ⟨-, hnone⟩
      rw [lastMatch?_eq_none_iff.mpr hnone] at hafter
      contradiction
    rw [if_neg hlast]
    rfl

/-- Where a pattern that is inserted does not decide, the verdict stays as it is. -/
theorem isIgnored_insert_of_not_decides {before after : List ScopedPattern} {p : ScopedPattern}
    (h : ¬Decides p after path isDir) :
  (mk (before ++ p :: after)).isIgnored path isDir = (mk (before ++ after)).isIgnored path isDir
  := by
  rw [isIgnored, isIgnored, ignoredBy?, ignoredBy?, lastMatch?_insert, if_neg h]

/-- The last match of a set with another one behind it is the last match of that one, and that of
the set itself if there is none.  One more pattern changes the verdict on an entry only if it covers
the entry and no pattern behind it does; one that is negated never makes an entry ignored, and one
that is not negated never makes it included.  What is ignored is so because of a pattern of the set
that covers it and is not negated. -/
theorem verdicts_layered (s t : PatternSet) (before after : List ScopedPattern) (p : ScopedPattern)
    (path : Path) (isDir : Bool) :
  ((s ++ t).lastMatch? path isDir =
      match t.lastMatch? path isDir with
      | some last => some last
      | none => s.lastMatch? path isDir)
    ∧ ((mk (before ++ p :: after)).lastMatch? path isDir
        = if Decides p after path isDir then some p
          else (mk (before ++ after)).lastMatch? path isDir)
    ∧ ((mk (before ++ p :: after)).isIgnored path isDir
          ≠ (mk (before ++ after)).isIgnored path isDir →
        Decides p after path isDir)
    ∧ (p.pattern.negated = true →
        (mk (before ++ p :: after)).isIgnored path isDir = true →
        (mk (before ++ after)).isIgnored path isDir = true)
    ∧ (p.pattern.negated = false →
        (mk (before ++ after)).isIgnored path isDir = true →
        (mk (before ++ p :: after)).isIgnored path isDir = true)
    ∧ (s.isIgnored path isDir = true →
        ∃ q ∈ s.patterns, s.lastMatch? path isDir = some q ∧ q.covers path isDir = true
          ∧ q.pattern.negated = false)
  := by
  refine ⟨?_, lastMatch?_insert before after p path isDir, ?_, ?_, ?_, ?_⟩
  · rw [lastMatch?_append]
    cases t.lastMatch? path isDir <;> rfl
  · contrapose!
    apply isIgnored_insert_of_not_decides
  · intro hp
    apply milder_insert_of_negated hp
  · intro hp
    apply milder_of_insert hp
  · intro hignored
    obtain ⟨q, hlast, hq⟩ := isIgnored_iff.mp hignored
    refine ⟨q, ?_, hlast, ?_, hq⟩
    · apply List.mem_reverse.mp
      apply List.mem_of_find?_eq_some hlast
    · rw [lastMatch?] at hlast
      simpa using List.find?_some hlast

/-- Behind `**`, the pattern `!keep` decides on `p/keep` and includes it.  It leaves `p/other`
ignored, because of `**`, and another `**` behind both changes nothing there. -/
theorem verdicts_layered_keep :
  let every : ScopedPattern := ⟨⟨"**", false, false, false, [.anyDepth]⟩, ⟨"p"⟩⟩
  let keep : ScopedPattern :=
    ⟨⟨"!keep", true, false, false, [.anyDepth, .literal ['k', 'e', 'e', 'p']]⟩, ⟨"p"⟩⟩
  ((mk [every, keep]).isIgnored ⟨"p/keep"⟩ false ≠ (mk [every]).isIgnored ⟨"p/keep"⟩ false
      ∧ Decides keep [] ⟨"p/keep"⟩ false)
    ∧ (mk [every, keep]).isIgnored ⟨"p/other"⟩ false = true
    ∧ (mk [every]).isIgnored ⟨"p/other"⟩ false = true
    ∧ (mk [every, keep, every]).isIgnored ⟨"p/other"⟩ false = true
    ∧ ∃ q ∈ [every, keep], (mk [every, keep]).lastMatch? ⟨"p/other"⟩ false = some q
        ∧ q.covers ⟨"p/other"⟩ false = true ∧ q.pattern.negated = false
  := by
  intro every keep
  have hchanged : (mk [every, keep]).isIgnored ⟨"p/keep"⟩ false
      ≠ (mk [every]).isIgnored ⟨"p/keep"⟩ false := by decide
  have hother : (mk [every, keep]).isIgnored ⟨"p/other"⟩ false = true := by decide
  obtain ⟨-, -, hdecides, -, -, -⟩ :=
    verdicts_layered .empty .empty [every] [] keep ⟨"p/keep"⟩ false
  obtain ⟨-, -, -, hnegated, -, -⟩ :=
    verdicts_layered .empty .empty [every] [] keep ⟨"p/other"⟩ false
  obtain ⟨-, -, -, -, hplain, hbecause⟩ :=
    verdicts_layered (mk [every, keep]) .empty [every, keep] [] every ⟨"p/other"⟩ false
  use ⟨hchanged, hdecides hchanged⟩, hother, hnegated rfl hother, hplain rfl hother
  apply hbecause hother

end Compendium.PatternSet
