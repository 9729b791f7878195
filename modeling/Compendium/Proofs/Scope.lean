import Mathlib.Data.List.Forall2
import Compendium.Proofs.Context
import Compendium.Proofs.Pattern.Reading

/-!
# Scopes at every root

A scope is tried at one root when it is made.  Whether its lines can be read has nothing to do with
the root, so that it has a context at every root, and these differ in nothing but where the patterns
are declared.  A scope that cannot be made fails with the first faulty rule of its configuration, or
else with the first faulty line of its sources.
-/

namespace Compendium

/-! ### Lines and rules -/

/-- Whether a pattern is read from a line, of which it keeps the text without the blanks around it,
and is declared at a root. -/
structure ScopedPattern.ReadAt (root : Path) (raw : String) (p : ScopedPattern) : Prop where
  read : Pattern.read raw = .ok (some p.pattern)
  text : p.pattern.text = String.ofList (Text.trim raw.toList)
  base : p.base = root

/-- The lines that are neither blank nor comments. -/
def patternLines (lines : List String) : List String :=
  lines.filter fun raw => !Pattern.isComment (Text.trim raw.toList)

theorem Pattern.read_eq_none_iff {raw : String} :
  read raw = .ok none ↔ isComment (Text.trim raw.toList) = true
  := readText_eq_none_iff

theorem Pattern.text_of_read {raw : String} {p : Pattern} (h : read raw = .ok (some p)) :
  p.text = String.ofList (Text.trim raw.toList)
  := text_of_readText h

/-- If no line is faulty, there is a pattern on each that is neither blank nor a comment. -/
theorem forall₂_patternsOn {lines : List String}
    (h : ∀ raw ∈ lines, ∃ found, Pattern.read raw = .ok found) (root : Path) :
  List.Forall₂ (ScopedPattern.ReadAt root) (patternLines lines) (patternsOn root lines)
  := by
  induction lines with
  | nil => exact .nil
  | cons raw rest ih =>
    rw [List.forall_mem_cons] at h
    obtain ⟨⟨found, hfound⟩, hrest⟩ := h
    have hcomment : Pattern.isComment (Text.trim raw.toList) = true ↔ found = none := by
      rw [← Pattern.read_eq_none_iff, hfound, Except.ok.injEq]
    rw [patternLines, patternsOn, List.filter_cons, List.filterMap_cons, hfound]
    cases found with
    | none =>
      rw [hcomment.mpr rfl]
      apply ih hrest
    | some p =>
      rw [Bool.eq_false_iff.mpr (hcomment.not.mpr (by simp))]
      exact .cons ⟨hfound, Pattern.text_of_read hfound, rfl⟩ (ih hrest)

/-- If no rule is faulty, each is compiled. -/
theorem forall₂_rulesOn {specs : List RuleSpec}
    (h : ∀ spec ∈ specs, ∃ rule, Rule.compile spec = .ok rule) :
  List.Forall₂ (fun spec rule => Rule.compile spec = .ok rule) specs (rulesOn specs)
  := by
  induction specs with
  | nil => exact .nil
  | cons spec rest ih =>
    rw [List.forall_mem_cons] at h
    obtain ⟨⟨rule, hrule⟩, hrest⟩ := h
    rw [rulesOn, List.filterMap_cons, hrule]
    exact .cons hrule (ih hrest)

/-- Declared at another root, the patterns on lines are the same. -/
theorem patternsOn_eq_map (root root' : Path) (lines : List String) :
  patternsOn root' lines = (patternsOn root lines).map fun p => { p with base := root' }
  := by
  rw [patternsOn, patternsOn, List.map_filterMap]
  apply List.filterMap_congr
  intro raw _
  rw [Option.map_map]
  rfl

namespace Scope

/-! ### The sources of a scope -/

/-- The lines of sources, each with the name that failures give its source. -/
def labelled (sources : List (String × List String)) : List (String × String) :=
  sources.flatMap fun source => source.2.map fun raw => (source.1, raw)

/-- The lines of a scope that is made, each with the name that failures give its source. -/
def linesOf (builtin : List String) (config : Option LoadedConfig) (extra : List String) :
    List (String × String) :=
  builtin.map (fun raw => ("built-in ignores", raw))
    ++ (config.toList.flatMap fun loaded =>
      loaded.config.patterns.map fun raw => (loaded.origin, raw))
    ++ extra.map fun raw => ("command line", raw)

/-- Read a line of a source. -/
def readLine (line : String × String) : Except Pattern.Fault (Option Pattern) :=
  Pattern.read line.2

/-- What a faulty line fails with. -/
def lineFailure (line : String × String) (cause : Pattern.Fault) : Failure :=
  .pattern (String.ofList (Text.trim line.2.toList)) line.1 cause

theorem labelled_sources (builtin : List String) (config : Option LoadedConfig)
    (extra : List String) (rules : RuleSet) :
  labelled (sources ⟨builtin, config, extra, rules⟩) = linesOf builtin config extra
  := by
  cases config <;> simp [labelled, sources, linesOf]

/-- Sources fail with the first line that is faulty, at whichever root. -/
theorem patternsOf_eq_error_iff {root : Path} {sources : List (String × List String)}
    {failure : Failure} :
  patternsOf root sources = .error failure
    ↔ ∃ line cause, FirstFault readLine (labelled sources) line cause
      ∧ failure = lineFailure line cause
  := by
  induction sources with
  | nil => simp [patternsOf, labelled, not_firstFault_nil]
  | cons source rest ih =>
    obtain ⟨origin, lines⟩ := source
    have hlines : (∃ first, PatternSet.ofLines lines root origin = .ok first)
        ↔ ∀ line ∈ lines.map fun raw => (origin, raw), ∃ found, readLine line = .ok found := by
      rw [List.forall_mem_map]
      constructor
      · rintro ⟨first, hfirst⟩
        apply (ofLines_eq_ok_iff.mp hfirst).1
      · intro hread
        use ⟨patternsOn root lines⟩
        apply ofLines_eq_ok_iff.mpr ⟨hread, rfl⟩
    have hcons : labelled ((origin, lines) :: rest)
        = lines.map (fun raw => (origin, raw)) ++ labelled rest := rfl
    rw [hcons]
    constructor
    · intro h
      rcases bind_eq_error_iff.mp h with hfirst | ⟨first, hfirst, hrest⟩
      · obtain ⟨raw, cause, hfault, rfl⟩ := readLines_eq_error_iff.mp (map_eq_error_iff.mp hfirst)
        use (origin, raw), cause, firstFault_append_iff.mpr (.inl ?_)
        · rfl
        · exact firstFault_map_iff.mpr ⟨raw, rfl, hfault⟩
      · rcases bind_eq_error_iff.mp hrest with hothers | ⟨others, -, hpure⟩
        · obtain ⟨line, cause, hfault, rfl⟩ := ih.mp hothers
          use line, cause, firstFault_append_iff.mpr (.inr ⟨hlines.mp ⟨first, hfirst⟩, hfault⟩)
        · cases hpure
    · rintro ⟨line, cause, hfault, rfl⟩
      apply bind_eq_error_iff.mpr
      rcases firstFault_append_iff.mp hfault with hfault | ⟨hread, hfault⟩
      · obtain ⟨raw, rfl, hraw⟩ := firstFault_map_iff.mp hfault
        left
        apply map_eq_error_iff.mpr (readLines_eq_error_iff.mpr ⟨raw, cause, hraw, rfl⟩)
      · obtain ⟨first, hfirst⟩ := hlines.mpr hread
        have hothers := ih.mpr ⟨line, cause, hfault, rfl⟩
        right
        use first, hfirst
        apply bind_eq_error_iff.mpr (.inl hothers)

theorem contextAt_eq_error_iff {scope : Scope} {root : Path} {failure : Failure} :
  scope.contextAt root = .error failure
    ↔ ∃ line cause, FirstFault readLine (labelled scope.sources) line cause
      ∧ failure = lineFailure line cause
  := map_eq_error_iff.trans patternsOf_eq_error_iff

/-! ### Making a scope -/

/-- Whether no rule of a configuration, if there is one, is faulty. -/
def RulesCompile (config : Option LoadedConfig) : Prop :=
  ∀ loaded, config = some loaded →
    ∀ spec ∈ loaded.config.rules, ∃ rule, Rule.compile spec = .ok rule

/-- Whether a failure is that of the first faulty rule of a configuration. -/
def FailsByRule (config : Option LoadedConfig) (failure : Failure) : Prop :=
  ∃ loaded spec cause, config = some loaded ∧ FirstFault Rule.compile loaded.config.rules spec cause
    ∧ failure = .rule (Rule.nameOf spec) loaded.origin cause

/-- Whether a failure is that of the first faulty line of the sources. -/
def FailsByLine (builtin : List String) (config : Option LoadedConfig) (extra : List String)
    (failure : Failure) : Prop :=
  ∃ line cause, FirstFault readLine (linesOf builtin config extra) line cause
    ∧ failure = lineFailure line cause

/-- What a scope gives at a root: on those of its lines that are neither blank nor comments, in
order, the patterns declared there, and the rules of its configuration in order. -/
structure Gives (s : Scope) (root : Path) (c : Context) : Prop where
  contextAt : s.contextAt root = .ok c
  patterns : List.Forall₂ (ScopedPattern.ReadAt root) (patternLines s.patternTexts)
    c.patterns.patterns
  rules : List.Forall₂ (fun spec rule => Rule.compile spec = .ok rule)
    (s.config.toList.flatMap (·.config.rules)) c.rules.rules

/-- What comes of making a scope. -/
def MadeOf (builtin : List String) (config : Option LoadedConfig) (extra : List String) :
    Except Failure Scope → Prop
  | .ok s =>
    s.patternTexts = builtin ++ config.toList.flatMap (·.config.patterns) ++ extra
      ∧ s.config = config
      ∧ (∀ root, ∃ c, s.Gives root c)
      ∧ ∀ root root' c c', s.contextAt root = .ok c → s.contextAt root' = .ok c' →
        c'.patterns.patterns = c.patterns.patterns.map (fun p => { p with base := root' })
          ∧ c'.rules = c.rules
  | .error failure =>
    FailsByRule config failure ∨ RulesCompile config ∧ FailsByLine builtin config extra failure

section

variable {builtin extra : List String} {config : Option LoadedConfig}

theorem of_rulesOf_eq_error {failure : Failure} (h : rulesOf config = .error failure) :
  FailsByRule config failure
  := by
  cases config with
  | none => cases h
  | some loaded =>
    obtain ⟨spec, cause, hfault, rfl⟩ := readSpecs_eq_error_iff.mp (map_eq_error_iff.mp h)
    exact ⟨loaded, spec, cause, rfl, hfault, rfl⟩

/-- A scope that cannot be made fails with the first faulty rule, or else with the first faulty
line. -/
theorem of_make_eq_error {failure : Failure} (h : make builtin config extra = .error failure) :
  FailsByRule config failure ∨ RulesCompile config ∧ FailsByLine builtin config extra failure
  := by
  rw [make_eq] at h
  rcases bind_eq_error_iff.mp h with hrules | ⟨rules, hrules, hrest⟩
  · left
    apply of_rulesOf_eq_error hrules
  · rcases bind_eq_error_iff.mp hrest with hcontext | ⟨here, -, hpure⟩
    · obtain ⟨line, cause, hfault, rfl⟩ := contextAt_eq_error_iff.mp hcontext
      rw [labelled_sources] at hfault
      exact .inr ⟨(rulesOf_eq_ok_iff.mp hrules).1, line, cause, hfault, rfl⟩
    · cases hpure

theorem ofContent_of_contextAt {scope : Scope} {root : Path} {failure : Failure}
    (h : scope.contextAt root = .error failure) :
  failure.OfContent
  := by
  obtain ⟨line, cause, -, rfl⟩ := contextAt_eq_error_iff.mp h
  apply Failure.OfContent.pattern

theorem ofContent_of_make {failure : Failure} (h : make builtin config extra = .error failure) :
  failure.OfContent
  := by
  rcases of_make_eq_error h with ⟨loaded, spec, cause, -, -, rfl⟩ | ⟨-, line, cause, -, rfl⟩
  · apply Failure.OfContent.rule
  · apply Failure.OfContent.pattern

/-- A scope that is made gives something at every root. -/
theorem exists_gives_of_make {s : Scope} (h : make builtin config extra = .ok s) (root : Path) :
  ∃ c, s.Gives root c
  := by
  obtain ⟨rules, here, rfl, hcompile, hrules, hhere⟩ := make_eq_ok h
  obtain ⟨hread, -⟩ := contextAt_eq_ok_iff.mp hhere
  use ⟨⟨patternsOn root (patternTexts ⟨builtin, config, extra, rules⟩)⟩, rules⟩
  constructor
  · apply contextAt_eq_ok_iff.mpr ⟨hread, rfl, rfl⟩
  · apply forall₂_patternsOn hread root
  · rw [hrules]
    cases config with
    | none => exact .nil
    | some loaded => simpa using forall₂_rulesOn (hcompile loaded rfl)

/-- What a scope gives at two roots differs in nothing but where the patterns are declared. -/
theorem contextAt_eq_of_root {s : Scope} {root root' : Path} {c c' : Context}
    (h : s.contextAt root = .ok c) (h' : s.contextAt root' = .ok c') :
  c'.patterns.patterns = c.patterns.patterns.map (fun p => { p with base := root' })
    ∧ c'.rules = c.rules
  := by
  obtain ⟨-, hpatterns, hrules⟩ := contextAt_eq_ok_iff.mp h
  obtain ⟨-, hpatterns', hrules'⟩ := contextAt_eq_ok_iff.mp h'
  rw [hpatterns, hpatterns', ← patternsOn_eq_map]
  use rfl
  apply hrules'.trans hrules.symm

theorem patternTexts_mk (builtin : List String) (config : Option LoadedConfig)
    (extra : List String) (rules : RuleSet) :
  patternTexts ⟨builtin, config, extra, rules⟩
    = builtin ++ config.toList.flatMap (·.config.patterns) ++ extra
  := by
  simp [patternTexts, sources, List.flatMap_map]

end

/-- A scope that is made gives at every root the patterns of its lines, declared there, and the
rules of its configuration; one that cannot be made fails with the first faulty rule, or else with
the first faulty line. -/
theorem make_gives (builtin : List String) (config : Option LoadedConfig) (extra : List String) :
  MadeOf builtin config extra (make builtin config extra)
  := by
  cases h : make builtin config extra with
  | error failure => apply of_make_eq_error h
  | ok s =>
    refine ⟨?_, ?_, exists_gives_of_make h, fun _ _ _ _ => contextAt_eq_of_root⟩
    · obtain ⟨rules, -, rfl, -⟩ := make_eq_ok h
      apply patternTexts_mk
    · obtain ⟨rules, -, rfl, -⟩ := make_eq_ok h
      rfl

/-- Of two scopes that differ in one line from the command line, one is made and has a context at
every root, and the other fails with this line. -/
theorem make_gives_line :
  (∃ s, make ["a", "#b"] none ["c/d"] = .ok s ∧ ∀ root, ∃ c, s.Gives root c)
    ∧ make ["a", "#b"] none [" c//d"] = .error (.pattern "c//d" "command line" .emptySegment)
    ∧ FailsByLine ["a", "#b"] none [" c//d"] (.pattern "c//d" "command line" .emptySegment)
  := by
  have hmade : (make ["a", "#b"] none ["c/d"]).toOption.isSome = true := by cbv
  have hfails : make ["a", "#b"] none [" c//d"]
      = .error (.pattern "c//d" "command line" .emptySegment) := by cbv
  constructor
  · obtain ⟨s, hs⟩ := Option.isSome_iff_exists.mp hmade
    have hgives := make_gives ["a", "#b"] none ["c/d"]
    rw [toOption_eq_some_iff.mp hs] at hgives
    use s, toOption_eq_some_iff.mp hs, hgives.2.2.1
  · have hgives := make_gives ["a", "#b"] none [" c//d"]
    rw [hfails] at hgives
    rcases hgives with ⟨loaded, -, -, hnone, -⟩ | ⟨-, hline⟩
    · cases hnone
    · constructor
      · apply hfails
      · apply hline

end Scope

end Compendium
