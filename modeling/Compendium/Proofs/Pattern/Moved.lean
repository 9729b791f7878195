import Mathlib.Data.List.Forall2
import Compendium.Proofs.Pattern.Declared

/-!
# Patterns at two roots

The same pattern may be declared at two roots, or in directories below them that the same names
lead to.  It gives the same verdicts on entries that the same names lead to from both roots,
whatever the roots are called and whatever is above them.
-/

namespace Compendium

/-- Whether two results are values that are related, or are both failures. -/
inductive Corresponding {ε α β : Type} (related : α → β → Prop) : Except ε α → Except ε β → Prop
  | error (failure failure' : ε) : Corresponding related (.error failure) (.error failure')
  | ok {a : α} {b : β} (h : related a b) : Corresponding related (.ok a) (.ok b)

/-! ### One pattern -/

/-- Whether a pattern is another one that has been moved with its root: both are declared in the
directory that the same names lead to, on the way down along `names`. -/
structure ScopedPattern.Moved (root root' : Path) (names : List Name) (p p' : ScopedPattern) :
    Prop where
  pattern : p.pattern = p'.pattern
  base : ∃ before, before <+: names ∧ p.base = root.down before ∧ p'.base = root'.down before

section

variable {root root' : Path} {names : List Name} {p p' : ScopedPattern}
  (h : p.Moved root root' names p')

include h

theorem ScopedPattern.Moved.further (more : List Name) :
  p.Moved root root' (names ++ more) p'
  := by
  obtain ⟨before, hbefore, hbase⟩ := h.base
  exact ⟨h.pattern, before, hbefore.trans (List.prefix_append names more), hbase⟩

/-- A pattern that is moved covers the same entries. -/
theorem ScopedPattern.Moved.covers_eq {more : List Name}
    (hv : ∀ n ∈ names ++ more, Name.Valid n) (isDir : Bool) :
  p.covers (root.down (names ++ more)) isDir = p'.covers (root'.down (names ++ more)) isDir
  := by
  obtain ⟨before, ⟨after, rfl⟩, hbase, hbase'⟩ := h.base
  have hafter : ∀ n ∈ after ++ more, Name.Valid n := by
    intro n hn
    apply hv n
    rw [List.append_assoc]
    apply List.mem_append_right before hn
  have hparts (top : Path) : (top.down (before ++ after ++ more)).parts
      = (top.down before).parts ++ (after ++ more).map .name := by
    rw [List.append_assoc, Path.down_append, Path.parts_down hafter]
  rw [covers_of_parts (hbase ▸ hparts root), covers_of_parts (hbase' ▸ hparts root'), h.pattern]

end

/-! ### Sets of patterns -/

namespace PatternSet

/-- Whether the patterns of a set are those of another, moved with their root. -/
def Moved (root root' : Path) (names : List Name) (s s' : PatternSet) : Prop :=
  List.Forall₂ (ScopedPattern.Moved root root' names) s.patterns s'.patterns

variable {root root' : Path} {names : List Name} {s s' : PatternSet}

theorem moved_empty :
  PatternSet.empty.Moved root root' names .empty
  := .nil

theorem Moved.further (h : s.Moved root root' names s') (more : List Name) :
  s.Moved root root' (names ++ more) s'
  := h.imp fun _ _ hp => hp.further more

theorem Moved.append {own own' : PatternSet} (h : s.Moved root root' names s')
    (hown : own.Moved root root' names own') :
  (s ++ own).Moved root root' names (s' ++ own')
  := List.rel_append h hown

/-- The patterns on lines are moved with the directory that they are declared in. -/
theorem moved_patternsOn {lines : List String}
    (h : s.patterns = patternsOn (root.down names) lines)
    (h' : s'.patterns = patternsOn (root'.down names) lines) :
  s.Moved root root' names s'
  := by
  rw [Moved, h, h', patternsOn, patternsOn, ← List.map_filterMap, ← List.map_filterMap,
    List.forall₂_map_left_iff, List.forall₂_map_right_iff, List.forall₂_same]
  exact fun pattern _ => ⟨rfl, names, List.prefix_rfl, rfl, rfl⟩

/-- Where corresponding patterns cover the same entries, they are the last ones to do so. -/
theorem map_lastMatch?_eq {path path' : Path} {isDir : Bool}
    (h : List.Forall₂
      (fun p p' : ScopedPattern =>
        p.pattern = p'.pattern ∧ p.covers path isDir = p'.covers path' isDir)
      s.patterns s'.patterns) :
  (s.lastMatch? path isDir).map (·.pattern) = (s'.lastMatch? path' isDir).map (·.pattern)
  := by
  rw [← List.forall₂_reverse_iff] at h
  rw [lastMatch?, lastMatch?]
  generalize s.patterns.reverse = ps, s'.patterns.reverse = ps' at h
  induction h with
  | nil => rfl
  | cons hhead _ ih =>
    obtain ⟨hpattern, hcovers⟩ := hhead
    rw [List.find?_cons, List.find?_cons, hcovers]
    split
    · apply congrArg some hpattern
    · apply ih

/-- A set that is moved ignores the same entries. -/
theorem Moved.isIgnored_eq (h : s.Moved root root' names s') {more : List Name}
    (hv : ∀ n ∈ names ++ more, Name.Valid n) (isDir : Bool) :
  s.isIgnored (root.down (names ++ more)) isDir = s'.isIgnored (root'.down (names ++ more)) isDir
  := by
  have hlast := map_lastMatch?_eq (h.imp fun p p' hp =>
    And.intro hp.pattern (hp.covers_eq hv isDir))
  have hverdict (last : Option ScopedPattern) :
      (last.filter fun p => !p.pattern.negated).isSome
        = (last.map (·.pattern)).any fun pattern => !pattern.negated := by
    cases last with
    | none => rfl
    | some p => cases hp : p.pattern.negated <;> simp [Option.filter, hp]
  rw [isIgnored, ignoredBy?, hverdict, hlast, ← hverdict]
  rfl

end PatternSet

/-! ### Contexts -/

namespace Context

/-- Whether a context is another one that has been moved with its root. -/
structure Moved (root root' : Path) (names : List Name) (c c' : Context) : Prop where
  patterns : c.patterns.Moved root root' names c'.patterns
  rules : c.rules = c'.rules

variable {root root' : Path} {names : List Name}

theorem moved_empty :
  Context.empty.Moved root root' names .empty
  := ⟨PatternSet.moved_empty, rfl⟩

theorem Moved.extended {c c' own own' : Context} (h : c.Moved root root' names c')
    (more : List Name) (hown : own.Moved root root' (names ++ more) own') :
  (c.extended own).Moved root root' (names ++ more) (c'.extended own')
  := by
  constructor
  · apply (h.patterns.further more).append hown.patterns
  · rw [Context.extended, Context.extended, h.rules, hown.rules]

/-- A configuration contributes the same to the contexts at both roots. -/
theorem moved_ofConfig (config : Config) (origin origin' : String) :
  Corresponding (Moved root root' names) (ofConfig config (root.down names) origin)
    (ofConfig config (root'.down names) origin')
  := by
  have htransfer {base : Path} {origin : String} {c : Context}
      (hc : ofConfig config base origin = .ok c) (base' : Path) (origin' : String) :
      ∃ c', ofConfig config base' origin' = .ok c' := by
    obtain ⟨hread, hcompile, -, hrules⟩ := ofConfig_eq_ok_iff.mp hc
    use ⟨⟨patternsOn base' config.patterns⟩, c.rules⟩
    exact ofConfig_eq_ok_iff.mpr ⟨hread, hcompile, rfl, hrules⟩
  cases hc : ofConfig config (root.down names) origin with
  | error failure =>
    cases hc' : ofConfig config (root'.down names) origin' with
    | error failure' => constructor
    | ok c' =>
      obtain ⟨c, hok⟩ := htransfer hc' (root.down names) origin
      simp [hc] at hok
  | ok c =>
    obtain ⟨c', hc'⟩ := htransfer hc (root'.down names) origin'
    rw [hc']
    obtain ⟨hpatterns, hrules⟩ := of_ofConfig_eq_ok hc
    obtain ⟨hpatterns', hrules'⟩ := of_ofConfig_eq_ok hc'
    constructor
    use PatternSet.moved_patternsOn hpatterns hpatterns'
    apply congrArg RuleSet.mk (hrules.trans hrules'.symm)

end Context

/-- A scope has the same context at both roots. -/
theorem Scope.moved_contextAt (scope : Scope) (root root' : Path) :
  Corresponding (Context.Moved root root' []) (scope.contextAt root) (scope.contextAt root')
  := by
  have htransfer {top : Path} {above : Context} (h : scope.contextAt top = .ok above)
      (top' : Path) :
      scope.contextAt top' = .ok ⟨⟨patternsOn top' scope.patternTexts⟩, scope.rules⟩ :=
    contextAt_eq_ok_iff.mpr ⟨(contextAt_eq_ok_iff.mp h).1, rfl, rfl⟩
  cases h : scope.contextAt root with
  | error failure =>
    cases h' : scope.contextAt root' with
    | error failure' => constructor
    | ok above' => simp [htransfer h' root] at h
  | ok above =>
    rw [htransfer h root']
    obtain ⟨-, hpatterns, hrules⟩ := contextAt_eq_ok_iff.mp h
    constructor
    use PatternSet.moved_patternsOn hpatterns rfl, hrules

end Compendium
