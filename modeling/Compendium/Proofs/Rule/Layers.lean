import Compendium.Proofs.Resolver.Local
import Compendium.Proofs.Rule.Chain

/-!
# Rules in layers

The rules of two sets run as those of the first set and then those of the second.  A directory
has the rules of its parent and behind them those of its own configuration, so that what it adds
only takes lines away.
-/

namespace Compendium

namespace RuleSet

theorem applicable_append (a b : RuleSet) (path : Path) :
  (a ++ b).applicable path = a.applicable path ++ b.applicable path
  := List.filter_append a.rules b.rules

/-- The rules of two sets remove what those of the first do, and then what those of the second
do of what is left. -/
theorem filter_append (a b : RuleSet) (path : Path) (lines : List String) :
  (a ++ b).filter path lines
    = ⟨(b.filter path (a.filter path lines).lines).lines,
      (a.filter path lines).removed + (b.filter path (a.filter path lines).lines).removed,
      (a.filter path lines).applied ++ (b.filter path (a.filter path lines).lines).applied⟩
  := by
  have hfirst := (sublist_applyAll (a.applicable path) lines).length_le
  have hsecond :=
    (sublist_applyAll (b.applicable path) (applyAll (a.applicable path) lines)).length_le
  simp only [filter, applicable_append, applyAll_append, List.map_append, Filtered.mk.injEq,
    true_and, and_true]
  omega

/-- Rules of a second set leave no more lines than there are without them. -/
theorem sublist_filter_append (a b : RuleSet) (path : Path) (lines : List String) :
  ((a ++ b).filter path lines).lines.Sublist (a.filter path lines).lines
    ∧ (a.filter path lines).removed ≤ ((a ++ b).filter path lines).removed
  := by
  rw [filter_append]
  use sublist_applyAll _ _
  apply Nat.le_add_right _ _

end RuleSet

/-! ### The rules of a directory -/

/-- The context in a directory has the rules of that of its parent, and then its own. -/
theorem exists_rules_of_extend {d : Disk} {parent context : Context} {directory : Path}
    {r : Resolver} (h : (Resolver.extend d parent directory r).result = .ok context) :
  ∃ own, context.rules = parent.rules ++ own
  := by
  cases hown : (Resolver.contribution d directory r).result with
  | error failure =>
    rw [Resolver.extend, Action.bind_of_error hown] at h
    cases h
  | ok own =>
    rw [Resolver.extend, Action.bind_of_ok hown] at h
    obtain rfl := Except.ok.inj h
    exact ⟨own.rules, rfl⟩

/-- The rules of two sets run as those of the first and then those of the second, on what is
left.  So a directory, whose rules come behind those of its parent, only takes lines away from
what its parent would leave of a file. -/
theorem filter_layers (path : Path) (lines : List String) :
  (∀ a b : RuleSet,
    (a ++ b).filter path lines
      = ⟨(b.filter path (a.filter path lines).lines).lines,
        (a.filter path lines).removed + (b.filter path (a.filter path lines).lines).removed,
        (a.filter path lines).applied ++ (b.filter path (a.filter path lines).lines).applied⟩)
    ∧ (∀ parent own : Context,
      ((parent.extended own).rules.filter path lines).lines.Sublist
          (parent.rules.filter path lines).lines
        ∧ (parent.rules.filter path lines).removed
          ≤ ((parent.extended own).rules.filter path lines).removed)
    ∧ ∀ (d : Disk) (parent context : Context) (directory : Path) (r : Resolver),
      (Resolver.extend d parent directory r).result = .ok context →
      (context.rules.filter path lines).lines.Sublist (parent.rules.filter path lines).lines
        ∧ (parent.rules.filter path lines).removed ≤ (context.rules.filter path lines).removed
  := by
  refine ⟨fun a b => a.filter_append b path lines, ?_, ?_⟩
  · intro parent own
    apply parent.rules.sublist_filter_append own.rules path lines
  · intro d parent context directory r h
    obtain ⟨own, hown⟩ := exists_rules_of_extend h
    rw [hown]
    apply RuleSet.sublist_filter_append

/-! ### A directory with a rule of its own -/

/-- A configuration with the rule that notes are removed. -/
def notesConfig : String :=
  "\x7b\"rules\":[\x7b\"pattern\":\"*\",\"start\":\"^#\",\"delete\":\"::line::\"\x7d]\x7d"

/-- A disk on which the working directory has this configuration. -/
def notesDisk : Disk :=
  ⟨.dir (.cons "maid.json".toList (.file (Text.bytesOf notesConfig)) .nil), []⟩

theorem notesConfig_read (path : Path) :
  Resolver.readConfig path (Text.bytesOf notesConfig)
    = .ok ⟨[], [⟨"*", none, "^#", "::line::", false⟩]⟩
  := by
  have hconfig : Config.read notesConfig
      = .ok ⟨[], [⟨"*", none, "^#", "::line::", false⟩]⟩ := by decide +kernel
  rw [Resolver.readConfig_bytesOf, hconfig]
  rfl

theorem valid_notesName :
  Name.Valid "maid.json".toList
  := Resolver.valid_of_mem_fileNames (by decide : "maid.json" ∈ Config.fileNames)

theorem notesDisk_read :
  notesDisk.read ((⟨"."⟩ : Path).entry "maid.json".toList) = .ok (Text.bytesOf notesConfig)
  := by
  have hsteps : Disk.steps ((⟨"."⟩ : Path).entry "maid.json".toList).text.toList
      = [.stay, .name "maid.json".toList] := by decide +kernel
  have hvalid : ∀ n ∈ ["maid.json".toList], Name.Valid n := by
    rw [List.forall_mem_singleton]
    apply valid_notesName
  have hfile : notesDisk.root.at? ([] ++ ["maid.json".toList])
      = some (.file (Text.bytesOf notesConfig)) := rfl
  apply Disk.read_eq_ok_iff.mpr
  use [] ++ ["maid.json".toList]
  refine ⟨Disk.locate_eq_ok_iff.mpr ⟨by decide +kernel, by decide +kernel, by decide +kernel, ?_⟩,
    hfile⟩
  rw [hsteps, Disk.follow_stay _ _ _ rfl]
  apply Disk.follow_names _ hfile nofun hvalid

theorem notesDisk_wellFormed :
  notesDisk.WellFormed
  := by
  constructor
  · simp only [notesDisk, Node.WellFormed, Entries.WellFormed, valid_notesName, Entries.names_nil,
      true_and, and_true]
    exact nofun
  · rfl

/-- The directory contributes the rule. -/
theorem notesDisk_ownContext :
  Resolver.ownContext notesDisk none ⟨"."⟩
    = Context.ofConfig ⟨[], [⟨"*", none, "^#", "::line::", false⟩]⟩ ⟨"."⟩
      ((⟨"."⟩ : Path).entry "maid.json".toList).text
  := by
  have hfind : Resolver.findConfig? notesDisk ⟨"."⟩
      = some ((⟨"."⟩ : Path).entry "maid.json".toList) := by
    rw [Resolver.findConfig?, Config.fileNames, List.map_cons]
    apply List.find?_cons_of_pos (Disk.isFile_iff.mpr ⟨_, notesDisk_read⟩)
  have hconfig := Resolver.configIn_eq_some_iff.mpr ⟨_, notesDisk_read, notesConfig_read _⟩
  rw [Resolver.ownContext, hfind]
  simp only [hconfig, Option.any_none, Bool.false_eq_true, if_false]

/-- The rule takes a line away from what a rule of the parent leaves. -/
theorem filter_layers_notes :
  ∃ parent context,
    (Resolver.extend notesDisk parent ⟨"."⟩ (.empty [])).result = .ok context
      ∧ parent.rules.filter ⟨"a"⟩ ["# 1", "BEGIN", "# 2", "END", "b"]
        = ⟨["# 1", "BEGIN", "b"], 2, ["parent"]⟩
      ∧ context.rules.filter ⟨"a"⟩ ["# 1", "BEGIN", "# 2", "END", "b"]
        = ⟨["BEGIN", "b"], 3, ["parent", "*"]⟩
      ∧ ["BEGIN", "b"].Sublist ["# 1", "BEGIN", "b"] ∧ 2 ≤ 3
  := by
  have hsample : ∃ rules ∈
        (RuleSet.ofSpecs [⟨"*", some "parent", "BEGIN", "END", true⟩] "g").toOption,
      ∃ own ∈ (Context.ofConfig ⟨[], [⟨"*", none, "^#", "::line::", false⟩]⟩ ⟨"."⟩
        ((⟨"."⟩ : Path).entry "maid.json".toList).text).toOption,
      rules.filter ⟨"a"⟩ ["# 1", "BEGIN", "# 2", "END", "b"]
          = ⟨["# 1", "BEGIN", "b"], 2, ["parent"]⟩
        ∧ (rules ++ own.rules).filter ⟨"a"⟩ ["# 1", "BEGIN", "# 2", "END", "b"]
          = ⟨["BEGIN", "b"], 3, ["parent", "*"]⟩ := by
    decide +kernel
  obtain ⟨rules, -, own, hown, hparent, hchild⟩ := hsample
  rw [Option.mem_def, toOption_eq_some_iff, ← notesDisk_ownContext] at hown
  have hmeets := Resolver.meets_extend notesDisk_wellFormed
    (Resolver.faithful_empty [] notesDisk) ⟨.empty, rules⟩ ⟨"."⟩
  cases hresult : (Resolver.extend notesDisk ⟨.empty, rules⟩ ⟨"."⟩ (.empty [])).result with
  | error failure =>
    obtain ⟨-, failure', hfailure⟩ := hmeets.of_error hresult
    cases hown.symm.trans hfailure
  | ok context =>
    obtain ⟨-, own', hown', rfl⟩ := hmeets.of_ok hresult
    obtain rfl := Except.ok.inj (hown.symm.trans hown')
    have hcontext : ((⟨.empty, rules⟩ : Context).extended own).rules.filter ⟨"a"⟩
        ["# 1", "BEGIN", "# 2", "END", "b"] = ⟨["BEGIN", "b"], 3, ["parent", "*"]⟩ := hchild
    obtain ⟨hlines, hremoved⟩ := (filter_layers ⟨"a"⟩
      ["# 1", "BEGIN", "# 2", "END", "b"]).2.2 notesDisk ⟨.empty, rules⟩ _ ⟨"."⟩ _ hresult
    rw [hparent, hcontext] at hlines hremoved
    exact ⟨_, _, hresult, hparent, hcontext, hlines, hremoved⟩

end Compendium
