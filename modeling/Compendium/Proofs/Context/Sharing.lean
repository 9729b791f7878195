import Compendium.Context.Sharing
import Compendium.Proofs.Scan.Cascade
import Compendium.Proofs.Scope

/-!
# Contexts that share their halves

Contexts are made one out of another, and those that have been made stay as they are.  Two halves
have the same mark only where one of them was taken over from the other, so that contexts which
share both halves are equal; and a context shares both halves with the one it was made from exactly
when nothing was added.  What a directory adds is on the disk: nothing, if it has no configuration
file that can be read, if this is the one that has been selected, or if there is neither a pattern
nor a rule in it.
-/

namespace Compendium

namespace Resolver

/-! ### What a directory adds -/

section

variable (d : Disk) (selection : Option Selection) (directory : Path)

/-- Whether a file is the one that has been selected. -/
def IsSelected (path : Path) : Prop :=
  ∃ s ∈ selection, d.canonical path = d.canonical s.loaded.path

/-- Whether a directory has a configuration file of its own, which has not been selected. -/
structure OwnConfig (path : Path) (config : Config) : Prop where
  isConfigOf : IsConfigOf d directory path
  config : configIn d path = .ok (some config)
  other : ¬ IsSelected d selection path

/-- Whether a directory has no configuration file of its own that can be read. -/
def NoOwnConfig : Prop :=
  ∀ path, IsConfigOf d directory path → configIn d path = .ok none
    ∨ IsSelected d selection path ∧ ∃ config, configIn d path = .ok (some config)

/-- The patterns and rules that a directory adds. -/
inductive Adds : List ScopedPattern → List Rule → Prop
  | nothing (h : NoOwnConfig d selection directory) : Adds [] []
  | own (path : Path) (config : Config) (h : OwnConfig d selection directory path config) :
    Adds (patternsOn directory config.patterns) (rulesOn config.rules)

/-- Whether a directory adds nothing: it has no configuration file that can be read, or this is
the one that has been selected, or it has no lines but blanks and comments, and no rules. -/
def AddsNothing : Prop :=
  (∀ path, IsConfigOf d directory path → configIn d path = .ok none)
    ∨ (∃ path, IsConfigOf d directory path ∧ IsSelected d selection path)
    ∨ ∃ path config, IsConfigOf d directory path ∧ configIn d path = .ok (some config)
      ∧ patternLines config.patterns = [] ∧ config.rules = []

/-- Whether the configuration file of a directory cannot be used: it is malformed, or it is its
own and a line or a rule in it is faulty. -/
def Unusable : Prop :=
  (∃ path failure, IsConfigOf d directory path ∧ configIn d path = .error failure)
    ∨ ∃ path config, OwnConfig d selection directory path config
      ∧ ¬ ((∀ raw ∈ config.patterns, ∃ found, Pattern.read raw = .ok found)
        ∧ ∀ spec ∈ config.rules, ∃ rule, Rule.compile spec = .ok rule)

end

section

variable {d : Disk} {selection : Option Selection} {directory path : Path} {config : Config}

/-- A directory has one configuration file at most. -/
theorem IsConfigOf.unique {path' : Path} (h : IsConfigOf d directory path)
    (h' : IsConfigOf d directory path') :
  path' = path
  := by
  rw [← findConfig?_eq_some_iff] at h h'
  apply Option.some.inj (h'.symm.trans h)

theorem NoOwnConfig.addsNothing (h : NoOwnConfig d selection directory) :
  AddsNothing d selection directory
  := by
  by_cases hselected : ∃ path, IsConfigOf d directory path ∧ IsSelected d selection path
  · right
    left
    apply hselected
  · left
    intro path hpath
    apply (h path hpath).resolve_right fun hsame => hselected ⟨path, hpath, hsame.1⟩

theorem NoOwnConfig.not_unusable (h : NoOwnConfig d selection directory) :
  ¬ Unusable d selection directory
  := by
  rintro (⟨path, failure, hpath, herror⟩ | ⟨path, config, hown, -⟩)
  · rcases h path hpath with hnone | ⟨-, config, hconfig⟩
    · simp [hnone] at herror
    · simp [hconfig] at herror
  · rcases h path hown.isConfigOf with hnone | ⟨hsame, -⟩
    · simp [hown.config] at hnone
    · apply hown.other hsame

/-- A directory has one configuration of its own at most. -/
theorem OwnConfig.unique {path' : Path} {config' : Config}
    (h : OwnConfig d selection directory path config) (hpath : IsConfigOf d directory path')
    (hconfig : configIn d path' = .ok (some config')) :
  config' = config
  := by
  rw [h.isConfigOf.unique hpath, h.config, Except.ok.injEq, Option.some.injEq] at hconfig
  apply hconfig.symm

theorem OwnConfig.addsNothing_iff (h : OwnConfig d selection directory path config) :
  AddsNothing d selection directory ↔ patternLines config.patterns = [] ∧ config.rules = []
  := by
  constructor
  · rintro (hnone | ⟨path', hpath', hsame⟩ | ⟨path', config', hpath', hconfig', hempty⟩)
    · simpa [h.config] using hnone path h.isConfigOf
    · apply absurd (h.isConfigOf.unique hpath' ▸ hsame) h.other
    · rwa [h.unique hpath' hconfig'] at hempty
  · intro hempty
    exact .inr (.inr ⟨path, config, h.isConfigOf, h.config, hempty⟩)

theorem OwnConfig.unusable_iff (h : OwnConfig d selection directory path config) :
  Unusable d selection directory
    ↔ ¬ ((∀ raw ∈ config.patterns, ∃ found, Pattern.read raw = .ok found)
      ∧ ∀ spec ∈ config.rules, ∃ rule, Rule.compile spec = .ok rule)
  := by
  constructor
  · rintro (⟨path', failure, hpath', herror⟩ | ⟨path', config', hown', hfaulty⟩)
    · simp [h.isConfigOf.unique hpath', h.config] at herror
    · rwa [h.unique hown'.isConfigOf hown'.config] at hfaulty
  · intro hfaulty
    right
    use path, config, h, hfaulty

/-- Where no line and no rule is faulty, there are patterns and rules unless there are only blanks
and comments. -/
theorem nothing_on_iff (hread : ∀ raw ∈ config.patterns, ∃ found, Pattern.read raw = .ok found)
    (hcompile : ∀ spec ∈ config.rules, ∃ rule, Rule.compile spec = .ok rule) :
  patternsOn directory config.patterns = [] ∧ rulesOn config.rules = []
    ↔ patternLines config.patterns = [] ∧ config.rules = []
  := by
  have hpatterns := (forall₂_patternsOn hread directory).length_eq
  have hrules := (forall₂_rulesOn hcompile).length_eq
  simp only [← List.length_eq_zero_iff, hpatterns, hrules]

section

variable (hd : d.WellFormed) (hs : ∀ s ∈ selection, s.Sound d)

include hd hs

/-- The global key is that of the file that has been selected. -/
theorem isSelected_iff (h : d.isFile path = true) :
  ((selection.map fun s => keyOf d s.file).any fun key => key.same (keyOf d path)) = true
    ↔ IsSelected d selection path
  := by
  cases selection with
  | none => simp [IsSelected]
  | some s =>
    have hsound := hs s rfl
    have hloaded := isFile_of_configIn hsound.config
    have hglobal : (keyOf d s.file).same (keyOf d path) = true
        ↔ (d.canonical path).toOption = (d.canonical s.loaded.path).toOption := by
      rw [eq_comm (a := (d.canonical path).toOption), ← same_keyOf_iff hd hloaded h]
      use Path.same_trans hsound.same
      apply Path.same_trans (Path.same_symm hsound.same)
    rw [Option.map_some, Option.any_some, hglobal]
    simp [IsSelected, Except.toOption, canonical_of_isFile hloaded, canonical_of_isFile h]

/-- A directory contributes nothing, or what its own configuration file says, or it cannot be
used. -/
theorem ownContext_cases (directory : Path) :
  (NoOwnConfig d selection directory
      ∧ ownContext d (selection.map fun s => keyOf d s.file) directory = .ok .empty)
    ∨ (∃ path config, OwnConfig d selection directory path config
      ∧ ownContext d (selection.map fun s => keyOf d s.file) directory
        = Context.ofConfig config directory path.text)
    ∨ ∃ path failure, IsConfigOf d directory path ∧ configIn d path = .error failure
      ∧ ownContext d (selection.map fun s => keyOf d s.file) directory = .error failure
  := by
  rw [ownContext]
  cases hfind : findConfig? d directory with
  | none => exact .inl ⟨fun path hpath => absurd hpath (findConfig?_eq_none_iff.mp hfind path), rfl⟩
  | some path =>
    have hpath := findConfig?_eq_some_iff.mp hfind
    have hselected := isSelected_iff hd hs (isFile_of_findConfig? hfind)
    dsimp only
    cases hconfig : configIn d path with
    | error failure => exact .inr (.inr ⟨path, failure, hpath, hconfig, rfl⟩)
    | ok found =>
      cases found with
      | none => exact .inl ⟨fun path' hpath' => .inl (hpath.unique hpath' ▸ hconfig), rfl⟩
      | some config =>
        dsimp only
        by_cases hsame : IsSelected d selection path
        · rw [if_pos (hselected.mpr hsame)]
          left
          exact ⟨fun path' hpath' => .inr (hpath.unique hpath' ▸ ⟨hsame, config, hconfig⟩), rfl⟩
        · rw [if_neg (hselected.not.mpr hsame)]
          exact .inr (.inl ⟨path, config, ⟨hpath, hconfig, hsame⟩, rfl⟩)

/-- What a directory contributes is what it adds. -/
theorem adds_of_ownContext {own : Context}
    (h : ownContext d (selection.map fun s => keyOf d s.file) directory = .ok own) :
  ¬ Unusable d selection directory
    ∧ Adds d selection directory own.patterns.patterns own.rules.rules
    ∧ (own.patterns.patterns = [] ∧ own.rules.rules = [] ↔ AddsNothing d selection directory)
  := by
  rcases ownContext_cases hd hs directory with
    ⟨hnone, hown⟩ | ⟨path, config, hconfig, hown⟩ | ⟨path, failure, -, -, hown⟩
  · obtain rfl := Except.ok.inj (hown.symm.trans h)
    use hnone.not_unusable, .nothing hnone
    apply iff_of_true ⟨rfl, rfl⟩ hnone.addsNothing
  · obtain ⟨hread, hcompile, hpatterns, hrules⟩ := ofConfig_eq_ok_iff.mp (hown.symm.trans h)
    rw [hpatterns, hrules, hconfig.unusable_iff, hconfig.addsNothing_iff]
    use not_not_intro ⟨hread, hcompile⟩, .own path config hconfig
    apply nothing_on_iff hread hcompile
  · simp [hown] at h

/-- A directory that fails to contribute cannot be used. -/
theorem unusable_of_ownContext {failure : Failure}
    (h : ownContext d (selection.map fun s => keyOf d s.file) directory = .error failure) :
  Unusable d selection directory
  := by
  rcases ownContext_cases hd hs directory with
    ⟨-, hown⟩ | ⟨path, config, hconfig, hown⟩ | ⟨path, failure, hpath, herror, -⟩
  · simp [hown] at h
  · rw [hconfig.unusable_iff]
    rintro ⟨hread, hcompile⟩
    have hok : Context.ofConfig config directory path.text
        = .ok ⟨⟨patternsOn directory config.patterns⟩, ⟨rulesOn config.rules⟩⟩ :=
      ofConfig_eq_ok_iff.mpr ⟨hread, hcompile, rfl, rfl⟩
    simp [← hown, h] at hok
  · left
    use path, failure, hpath, herror

end

end

section

variable {d : Disk} {searchDirs : List Path} {r : Resolver} {selection : Option Selection}
  (hr : Scan.Reached d searchDirs r selection)

include hr

/-- To ask what a directory contributes selects no file. -/
theorem reached_contribution (directory : Path) :
  Scan.Reached d searchDirs (contribution d directory r).state selection
  := by
  have hcall := hr.call (.extend .empty directory)
  rw [Request.run, Action.bind_unit_state, extend_state] at hcall
  apply hcall

/-- A directory contributes what it adds. -/
theorem adds_of_contribution (hd : d.WellFormed) {directory : Path} {own : Context}
    (h : (contribution d directory r).result = .ok own) :
  ¬ Unusable d selection directory
    ∧ Adds d selection directory own.patterns.patterns own.rules.rules
    ∧ (own.patterns.patterns = [] ∧ own.rules.rules = [] ↔ AddsNothing d selection directory)
  := by
  obtain ⟨hcurrent, hkey, hs⟩ := hr.sound hd
  have hown := ((meets_contribution hd (hcurrent.faithful hd) directory).of_ok h).2
  rw [hkey] at hown
  apply adds_of_ownContext hd hs hown

theorem unusable_of_contribution (hd : d.WellFormed) {directory : Path} {failure : Failure}
    (h : (contribution d directory r).result = .error failure) :
  Unusable d selection directory
  := by
  obtain ⟨hcurrent, hkey, hs⟩ := hr.sound hd
  obtain ⟨failure', hown⟩ :=
    ((meets_contribution hd (hcurrent.faithful hd) directory).of_error h).2
  rw [hkey] at hown
  apply unusable_of_ownContext hd hs hown

end

end Resolver

/-! ### Marks -/

/-- Whether marks tell halves apart: each of them is among those that have been given, and the
content of a half is a matter of its mark. -/
def ToldApart {α : Type} (supply : Nat) (halves : List (Nat × α)) : Prop :=
  ∃ contentAt : Nat → α, ∀ half ∈ halves, half.1 < supply ∧ half.2 = contentAt half.1

section

variable {α : Type} {supply : Nat} {halves : List (Nat × α)} {half half' : Nat × α}

theorem toldApart_nil (supply : Nat) (content : α) :
  ToldApart supply ([] : List (Nat × α))
  := ⟨fun _ => content, by simp⟩

theorem ToldApart.lt (h : ToldApart supply halves) (hmem : half ∈ halves) :
  half.1 < supply
  := by
  obtain ⟨contentAt, hall⟩ := h
  apply (hall half hmem).1

/-- Halves with one mark have one content. -/
theorem ToldApart.content_eq (h : ToldApart supply halves) (hmem : half ∈ halves)
    (hmem' : half' ∈ halves) (hmark : half.1 = half'.1) :
  half.2 = half'.2
  := by
  obtain ⟨contentAt, hall⟩ := h
  rw [(hall half hmem).2, (hall half' hmem').2, hmark]

/-- Marks still tell halves apart when there is one more, which is one of them or has a mark that
has not been given before. -/
theorem ToldApart.concat (h : ToldApart supply halves) {supply' : Nat} (hle : supply ≤ supply')
    (hhalf : half ∈ halves ∨ supply ≤ half.1 ∧ half.1 < supply') :
  ToldApart supply' (halves ++ [half])
  := by
  obtain ⟨contentAt, hall⟩ := h
  use fun mark => if mark < supply then contentAt mark else half.2
  have hold : ∀ given ∈ halves, given.1 < supply'
      ∧ given.2 = if given.1 < supply then contentAt given.1 else half.2 := by
    intro given hmem
    obtain ⟨hlt, hcontent⟩ := hall given hmem
    rw [if_pos hlt]
    use Nat.lt_of_lt_of_le hlt hle, hcontent
  intro given hmem
  rcases List.mem_append.mp hmem with hmem | hmem
  · apply hold given hmem
  · obtain rfl := List.mem_singleton.mp hmem
    rcases hhalf with hmem | ⟨hfresh, hlt⟩
    · apply hold given hmem
    · use hlt
      apply (if_neg (Nat.not_lt.mpr hfresh)).symm

end

namespace SharedContext

variable {s t : SharedContext} {supply : Nat}

/-- The patterns of a context, with their mark. -/
def patternsHalf (s : SharedContext) : Nat × PatternSet := (s.patternsMark, s.context.patterns)

/-- The rules of a context, with their mark. -/
def rulesHalf (s : SharedContext) : Nat × RuleSet := (s.rulesMark, s.context.rules)

theorem sharesWith_iff :
  s.sharesWith t = true ↔ s.patternsMark = t.patternsMark ∧ s.rulesMark = t.rulesMark
  := by
  simp [sharesWith]

/-- Patterns to which none are added are taken over. -/
theorem patternsHalf_extended (s : SharedContext) (supply : Nat) (contribution : Context) :
  (s.extended supply contribution).1.patternsHalf
    = if contribution.patterns.patterns = [] then s.patternsHalf
      else (supply, s.context.patterns ++ contribution.patterns)
  := by
  obtain ⟨⟨⟨patterns⟩, rules⟩, patternsMark, rulesMark⟩ := s
  obtain ⟨⟨added⟩, addedRules⟩ := contribution
  by_cases hempty : added = []
  · subst hempty
    rw [if_pos rfl, patternsHalf, patternsHalf, Prod.mk.injEq]
    use rfl
    apply congrArg PatternSet.mk (List.append_nil patterns)
  · rw [if_neg hempty, patternsHalf, Prod.mk.injEq]
    constructor
    · apply if_neg (by simpa [PatternSet.isEmpty] using hempty)
    · rfl

/-- Rules to which none are added are taken over. -/
theorem rulesHalf_extended (s : SharedContext) (supply : Nat) (contribution : Context) :
  (s.extended supply contribution).1.rulesHalf
    = if contribution.rules.rules = [] then s.rulesHalf
      else (supply + 1, s.context.rules ++ contribution.rules)
  := by
  obtain ⟨⟨patterns, ⟨rules⟩⟩, patternsMark, rulesMark⟩ := s
  obtain ⟨addedPatterns, ⟨added⟩⟩ := contribution
  by_cases hempty : added = []
  · subst hempty
    rw [if_pos rfl, rulesHalf, rulesHalf, Prod.mk.injEq]
    use rfl
    apply congrArg RuleSet.mk (List.append_nil rules)
  · rw [if_neg hempty, rulesHalf, Prod.mk.injEq]
    constructor
    · apply if_neg (by simpa [RuleSet.isEmpty] using hempty)
    · rfl

/-- A context of its own shares with none that there is. -/
theorem sharesWith_fresh (h : t.patternsMark < supply) (context : Context) :
  (fresh supply context).1.sharesWith t = false
  := by
  rw [Bool.eq_false_iff, Ne, sharesWith_iff]
  rintro ⟨hpatterns, -⟩
  apply Nat.ne_of_gt h hpatterns

/-- An extended context shares with what its parent shares with, if nothing is added. -/
theorem sharesWith_extended_iff (hpatterns : t.patternsMark < supply)
    (hrules : t.rulesMark < supply) (contribution : Context) :
  (s.extended supply contribution).1.sharesWith t = true
    ↔ (contribution.patterns.patterns = [] ∧ contribution.rules.rules = [])
      ∧ s.sharesWith t = true
  := by
  have hfresh : supply ≠ t.patternsMark := Nat.ne_of_gt hpatterns
  have hfresh' : supply + 1 ≠ t.rulesMark := Nat.ne_of_gt (Nat.lt_succ_of_lt hrules)
  rw [sharesWith_iff, sharesWith_iff]
  simp only [extended, PatternSet.isEmpty, RuleSet.isEmpty, List.isEmpty_iff]
  by_cases hnone : contribution.patterns.patterns = []
  · by_cases hnone' : contribution.rules.rules = []
    · simp only [hnone, hnone', if_true, true_and]
    · simp only [hnone', if_false, hfresh', and_false, false_and]
  · simp only [hnone, if_false, hfresh, false_and]

end SharedContext

/-! ### Contexts made one out of another -/

/-- What makes a context: it is made of its own, or by extending one of the contexts that there
are with what a directory contributes, or with a contribution that is given. -/
inductive Making where
  | fresh (context : Context)
  | extend (parent : Nat) (directory : Path)
  | append (parent : Nat) (contribution : Context)

/-- The contexts that have been made with a resolver, in order, and the supply of marks. -/
structure Lineage where
  resolver : Resolver
  contexts : List SharedContext
  supply : Nat

namespace Lineage

/-- No contexts yet. -/
def start (r : Resolver) : Lineage := ⟨r, [], 0⟩

/-- Keep a context that has been made. -/
def keep (l : Lineage) (made : SharedContext × Nat) : Lineage :=
  { l with contexts := l.contexts ++ [made.1], supply := made.2 }

/-- Make a context, if there is a parent for it and the directory does not fail to contribute. -/
def make (d : Disk) (l : Lineage) : Making → Lineage
  | .fresh context => l.keep (SharedContext.fresh l.supply context)
  | .extend place directory =>
    match l.contexts[place]? with
    | none => l
    | some parent =>
      let outcome := Resolver.contribution d directory l.resolver
      match outcome.result with
      | .error _ => { l with resolver := outcome.state }
      | .ok contribution =>
        { l with resolver := outcome.state }.keep (parent.extended l.supply contribution)
  | .append place contribution =>
    match l.contexts[place]? with
    | none => l
    | some parent => l.keep (parent.extended l.supply contribution)

/-- Make one context after the other. -/
def makeAll (d : Disk) (l : Lineage) (makings : List Making) : Lineage :=
  makings.foldl (make d) l

/-- Whether marks tell the halves of all contexts apart. -/
structure Marked (l : Lineage) : Prop where
  patterns : ToldApart l.supply (l.contexts.map SharedContext.patternsHalf)
  rules : ToldApart l.supply (l.contexts.map SharedContext.rulesHalf)

theorem marked_start (r : Resolver) :
  (start r).Marked
  := ⟨toldApart_nil 0 .empty, toldApart_nil 0 .empty⟩

section

variable {l : Lineage} (h : l.Marked)

include h

theorem Marked.patternsMark_lt {s : SharedContext} (hs : s ∈ l.contexts) :
  s.patternsMark < l.supply
  := h.patterns.lt (List.mem_map_of_mem hs)

theorem Marked.rulesMark_lt {s : SharedContext} (hs : s ∈ l.contexts) :
  s.rulesMark < l.supply
  := h.rules.lt (List.mem_map_of_mem hs)

/-- Contexts that share both halves are equal. -/
theorem Marked.context_eq {s t : SharedContext} (hs : s ∈ l.contexts) (ht : t ∈ l.contexts)
    (hshare : s.sharesWith t = true) :
  s.context = t.context
  := by
  obtain ⟨hpatterns, hrules⟩ := SharedContext.sharesWith_iff.mp hshare
  have hsame : s.context.patterns = t.context.patterns :=
    h.patterns.content_eq (List.mem_map_of_mem hs) (List.mem_map_of_mem ht) hpatterns
  have hsame' : s.context.rules = t.context.rules :=
    h.rules.content_eq (List.mem_map_of_mem hs) (List.mem_map_of_mem ht) hrules
  have hboth : (⟨s.context.patterns, s.context.rules⟩ : Context)
      = ⟨t.context.patterns, t.context.rules⟩ := by rw [hsame, hsame']
  apply hboth

theorem Marked.keep {made : SharedContext × Nat} (hle : l.supply ≤ made.2)
    (hpatterns : made.1.patternsHalf ∈ l.contexts.map SharedContext.patternsHalf
      ∨ l.supply ≤ made.1.patternsHalf.1 ∧ made.1.patternsHalf.1 < made.2)
    (hrules : made.1.rulesHalf ∈ l.contexts.map SharedContext.rulesHalf
      ∨ l.supply ≤ made.1.rulesHalf.1 ∧ made.1.rulesHalf.1 < made.2) :
  (l.keep made).Marked
  := by
  constructor
  · rw [Lineage.keep, List.map_append]
    apply h.patterns.concat hle hpatterns
  · rw [Lineage.keep, List.map_append]
    apply h.rules.concat hle hrules

theorem Marked.keep_fresh (context : Context) :
  (l.keep (SharedContext.fresh l.supply context)).Marked
  := by
  apply h.keep (Nat.le_add_right l.supply 2)
  · right
    use Nat.le_refl l.supply
    apply Nat.lt_add_of_pos_right (by decide)
  · right
    use Nat.le_succ l.supply
    apply Nat.lt_succ_self (l.supply + 1)

theorem Marked.keep_extended {parent : SharedContext} (hparent : parent ∈ l.contexts)
    (contribution : Context) :
  (l.keep (parent.extended l.supply contribution)).Marked
  := by
  apply h.keep (Nat.le_add_right l.supply 2)
  · rw [SharedContext.patternsHalf_extended]
    split
    · left
      apply List.mem_map_of_mem hparent
    · right
      use Nat.le_refl l.supply
      apply Nat.lt_add_of_pos_right (by decide)
  · rw [SharedContext.rulesHalf_extended]
    split
    · left
      apply List.mem_map_of_mem hparent
    · right
      use Nat.le_succ l.supply
      apply Nat.lt_succ_self (l.supply + 1)

end

/-! ### One context more -/

/-- What holds at any time: marks tell halves apart, and the resolver has been used on the disk. -/
structure Sound (d : Disk) (searchDirs : List Path) (selection : Option Resolver.Selection)
    (l : Lineage) : Prop where
  marked : l.Marked
  reached : Scan.Reached d searchDirs l.resolver selection

/-- How a context that has been made out of another is related to this one and to all that were
there: its lists are those of its parent with some behind them, and it shares with its parent, and
with what this shares with, if and only if nothing was added. -/
structure Follows (earlier : List SharedContext) (parent new : SharedContext)
    (patterns : List ScopedPattern) (rules : List Rule) (nothing : Prop) : Prop where
  patterns : new.context.patterns.patterns = parent.context.patterns.patterns ++ patterns
  rules : new.context.rules.rules = parent.context.rules.rules ++ rules
  shares : new.sharesWith parent = true ↔ nothing
  others : ∀ t ∈ earlier, new.sharesWith t = true ↔ nothing ∧ parent.sharesWith t = true

/-- What becomes of the contexts that there are when one more is made. -/
structure Grows (d : Disk) (selection : Option Resolver.Selection) (l : Lineage) : Prop where
  fresh : ∀ context, ∃ new, (l.make d (.fresh context)).contexts = l.contexts ++ [new]
    ∧ new.context = context ∧ ∀ t ∈ l.contexts, new.sharesWith t = false
  append : ∀ place parent contribution, l.contexts[place]? = some parent →
    ∃ new, (l.make d (.append place contribution)).contexts = l.contexts ++ [new]
      ∧ Follows l.contexts parent new contribution.patterns.patterns contribution.rules.rules
        (contribution.patterns.patterns = [] ∧ contribution.rules.rules = [])
  extend : ∀ place parent directory, l.contexts[place]? = some parent →
    Resolver.Unusable d selection directory
        ∧ (l.make d (.extend place directory)).contexts = l.contexts
      ∨ ¬ Resolver.Unusable d selection directory
        ∧ ∃ new patterns rules, (l.make d (.extend place directory)).contexts = l.contexts ++ [new]
          ∧ Resolver.Adds d selection directory patterns rules
          ∧ Follows l.contexts parent new patterns rules
            (Resolver.AddsNothing d selection directory)

section

variable {d : Disk} {searchDirs : List Path} {selection : Option Resolver.Selection} {l : Lineage}

theorem Marked.follows (h : l.Marked) {parent : SharedContext} (hparent : parent ∈ l.contexts)
    (contribution : Context) {nothing : Prop}
    (hnothing : contribution.patterns.patterns = [] ∧ contribution.rules.rules = [] ↔ nothing) :
  Follows l.contexts parent (parent.extended l.supply contribution).1
    contribution.patterns.patterns contribution.rules.rules nothing
  := by
  have hshares : ∀ t ∈ l.contexts,
      (parent.extended l.supply contribution).1.sharesWith t = true
        ↔ nothing ∧ parent.sharesWith t = true := by
    intro t ht
    rw [SharedContext.sharesWith_extended_iff (h.patternsMark_lt ht) (h.rulesMark_lt ht), hnothing]
  refine ⟨rfl, rfl, ?_, hshares⟩
  rw [hshares parent hparent, SharedContext.sharesWith_iff]
  simp

theorem Sound.make (h : l.Sound d searchDirs selection) (m : Making) :
  (l.make d m).Sound d searchDirs selection
  := by
  cases m with
  | fresh context => use h.marked.keep_fresh context, h.reached
  | append place contribution =>
    rw [Lineage.make]
    split
    · apply h
    · rename_i parent hparent
      use h.marked.keep_extended (List.mem_of_getElem? hparent) contribution, h.reached
  | extend place directory =>
    have hreached := Resolver.reached_contribution h.reached directory
    rw [Lineage.make]
    split
    · apply h
    · rename_i parent hparent
      dsimp only
      split
      · use ⟨h.marked.patterns, h.marked.rules⟩, hreached
      · rename_i contribution _
        have hmarked := h.marked.keep_extended (List.mem_of_getElem? hparent) contribution
        use ⟨hmarked.patterns, hmarked.rules⟩, hreached

theorem Sound.grows (hd : d.WellFormed) (h : l.Sound d searchDirs selection) :
  l.Grows d selection
  := by
  constructor
  · intro context
    use (SharedContext.fresh l.supply context).1, rfl, rfl
    intro t ht
    apply SharedContext.sharesWith_fresh (h.marked.patternsMark_lt ht) context
  · intro place parent contribution hparent
    use (parent.extended l.supply contribution).1
    rw [Lineage.make, hparent]
    use rfl
    apply h.marked.follows (List.mem_of_getElem? hparent) contribution Iff.rfl
  · intro place parent directory hparent
    rw [Lineage.make, hparent]
    dsimp only
    cases hresult : (Resolver.contribution d directory l.resolver).result with
    | error failure =>
      left
      exact ⟨Resolver.unusable_of_contribution h.reached hd hresult, rfl⟩
    | ok contribution =>
      right
      obtain ⟨husable, hadds, hnothing⟩ := Resolver.adds_of_contribution h.reached hd hresult
      exact ⟨husable, _, _, _, rfl, hadds,
        h.marked.follows (List.mem_of_getElem? hparent) contribution hnothing⟩

theorem isPrefix_contexts_make (d : Disk) (l : Lineage) (m : Making) :
  l.contexts <+: (l.make d m).contexts
  := by
  cases m with
  | fresh context => apply List.prefix_append _ _
  | append place contribution =>
    rw [make]
    split
    · apply List.prefix_refl _
    · apply List.prefix_append _ _
  | extend place directory =>
    rw [make]
    split
    · apply List.prefix_refl _
    · dsimp only
      split
      · apply List.prefix_refl _
      · apply List.prefix_append _ _

end

/-! ### Any number of contexts -/

section

variable {d : Disk} {searchDirs : List Path} {selection : Option Resolver.Selection}

/-- Contexts stay as they are when others are made. -/
theorem isPrefix_contexts_makeAll (d : Disk) (l : Lineage) (makings : List Making) :
  l.contexts <+: (l.makeAll d makings).contexts
  := by
  induction makings generalizing l with
  | nil => apply List.prefix_refl _
  | cons m makings ih => apply (isPrefix_contexts_make d l m).trans (ih (l.make d m))

theorem Sound.makeAll {l : Lineage} (h : l.Sound d searchDirs selection) (makings : List Making) :
  (l.makeAll d makings).Sound d searchDirs selection
  := by
  induction makings generalizing l with
  | nil => apply h
  | cons m makings ih => apply ih (h.make m)

/-- To share both halves is an equivalence. -/
theorem equivalence_sharesWith (contexts : List SharedContext) :
  Equivalence fun s t : {s // s ∈ contexts} => s.val.sharesWith t.val = true
  := by
  simp only [SharedContext.sharesWith_iff]
  constructor
  · intro s
    constructor
    · rfl
    · rfl
  · exact fun h => ⟨h.1.symm, h.2.symm⟩
  · exact fun h h' => ⟨h.1.trans h'.1, h.2.trans h'.2⟩

/-- Whichever contexts are made one out of another, those that have been made stay as they are, and
a new one has the lists of its parent and behind them what is added.  It shares with its parent if
and only if nothing is added.  To share is an equivalence, and contexts that share are equal. -/
theorem makings_share {r : Resolver} (hd : d.WellFormed)
    (hr : Scan.Reached d searchDirs r selection) (before after : List Making) :
  ((start r).makeAll d before).contexts <+: ((start r).makeAll d (before ++ after)).contexts
    ∧ ((start r).makeAll d before).Grows d selection
    ∧ (Equivalence fun s t : {s // s ∈ ((start r).makeAll d before).contexts} =>
      s.val.sharesWith t.val = true)
    ∧ ∀ s ∈ ((start r).makeAll d before).contexts, ∀ t ∈ ((start r).makeAll d before).contexts,
      s.sharesWith t = true → s.context = t.context
  := by
  have hstart : (start r).Sound d searchDirs selection := ⟨marked_start r, hr⟩
  have hsound := hstart.makeAll before
  refine ⟨?_, hsound.grows hd, equivalence_sharesWith _, ?_⟩
  · rw [makeAll, makeAll, List.foldl_append]
    apply isPrefix_contexts_makeAll d _ after
  · intro s hs t ht
    apply hsound.marked.context_eq hs ht

/-- A directory whose configuration file leads to the one that has been selected is given the
context of its parent. -/
theorem makings_share_selected :
  ∃ r parent new, Scan.Reached Scan.linkedDisk [] r (some Scan.linkedSelection)
    ∧ ((start r).makeAll Scan.linkedDisk [.fresh .empty]).contexts = [parent]
    ∧ (((start r).makeAll Scan.linkedDisk [.fresh .empty]).make Scan.linkedDisk
      (.extend 0 ⟨"."⟩)).contexts = [parent, new]
    ∧ new.sharesWith parent = true
  := by
  obtain ⟨r, hr⟩ := Scan.linkedDisk_reached
  obtain ⟨hcanonical, hcanonical', hfind, hconfig⟩ := Scan.linkedDisk_config
  obtain ⟨-, hgrows, -⟩ := makings_share Scan.linkedDisk_wellFormed hr [.fresh .empty] []
  have hpath := Resolver.findConfig?_eq_some_iff.mp hfind
  have hselected : Resolver.IsSelected Scan.linkedDisk (some Scan.linkedSelection)
      ((⟨"."⟩ : Path).entry "maid.json".toList) :=
    ⟨_, rfl, hcanonical'.trans hcanonical.symm⟩
  have hnone : Resolver.NoOwnConfig Scan.linkedDisk (some Scan.linkedSelection) ⟨"."⟩ := by
    intro path hpath'
    rw [hpath.unique hpath']
    exact .inr ⟨hselected, _, hconfig⟩
  rcases hgrows.extend 0 (SharedContext.fresh 0 .empty).1 ⟨"."⟩ rfl with
    ⟨hunusable, -⟩ | ⟨-, new, patterns, rules, hcontexts, -, hfollows⟩
  · apply absurd hunusable hnone.not_unusable
  · exact ⟨r, _, new, hr, rfl, hcontexts, hfollows.shares.mpr hnone.addsNothing⟩

end

end Lineage

end Compendium
