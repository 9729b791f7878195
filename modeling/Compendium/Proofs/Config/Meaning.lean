import Mathlib.Tactic.Tauto
import Compendium.Failure
import Compendium.Proofs.Config.Objects

/-!
# What configurations are read from

The documented form of a configuration is a JSON object, with a list of objects for the rules.
Every text of that form is read for just the configuration it describes.  The reader takes
another form as well: in place of an object, a list of what its keys hold, in a fixed order.
What it reads is therefore exactly the texts of either form, and it fails on any other.
-/

namespace Compendium.Config

open Json

/-! ### The forms of a configuration -/

/-- The value of the name of a rule. -/
def IsName (v : Value) (name : Option String) : Prop :=
  v = .null ∧ name = none ∨ ∃ s, v = .string s ∧ name = some s

/-- The members of an object that describes a rule, with keys of their own, none of them twice;
`match` is another name of `start`. -/
structure RuleMembers (ms : List (String × Value)) (r : RuleSpec) : Prop where
  known : ∀ m ∈ ms, m.1 ∈ ["pattern", "name", "start", "match", "delete", "keep_start"]
  pattern : valuesOf ["pattern"] ms = [.string r.pattern]
  name : valuesOf ["name"] ms = [] ∧ r.name = none
    ∨ ∃ v, valuesOf ["name"] ms = [v] ∧ IsName v r.name
  start : valuesOf ["start", "match"] ms = [.string r.start]
  delete : valuesOf ["delete"] ms = [.string r.delete]
  keepStart : valuesOf ["keep_start"] ms = [] ∧ r.keepStart = false
    ∨ valuesOf ["keep_start"] ms = [.bool r.keepStart]

/-- The members of an object that describes a configuration, when `Rule` says which values
describe a rule. -/
structure ConfigMembers (Rule : Value → RuleSpec → Prop) (ms : List (String × Value))
    (c : Config) : Prop where
  known : ∀ m ∈ ms, m.1 ∈ ["patterns", "rules"]
  patterns : valuesOf ["patterns"] ms = [] ∧ c.patterns = []
    ∨ valuesOf ["patterns"] ms = [.list (c.patterns.map .string)]
  rules : valuesOf ["rules"] ms = [] ∧ c.rules = []
    ∨ ∃ vs, valuesOf ["rules"] ms = [.list vs] ∧ List.Forall₂ Rule vs c.rules

/-- The value is an object that describes a rule. -/
def DocumentedRule (v : Value) (r : RuleSpec) : Prop := ∃ ms, v = .object ms ∧ RuleMembers ms r

/-- The value is an object that describes a configuration, in the documented form. -/
def Documented (v : Value) (c : Config) : Prop :=
  ∃ ms, v = .object ms ∧ ConfigMembers DocumentedRule ms c

/-- The values of a rule in a list: the pattern, the name, the start, the delete, and whether to
keep the start, which may be left out. -/
def RuleRow (vs : List Value) (r : RuleSpec) : Prop :=
  ∃ name, IsName name r.name
    ∧ (vs = [.string r.pattern, name, .string r.start, .string r.delete] ∧ r.keepStart = false
      ∨ vs = [.string r.pattern, name, .string r.start, .string r.delete, .bool r.keepStart])

/-- The values of a configuration in a list: the patterns and the rules, either of which may be
left out if nothing follows it. -/
def ConfigRow (Rule : Value → RuleSpec → Prop) (vs : List Value) (c : Config) : Prop :=
  vs = [] ∧ c = empty
    ∨ vs = [.list (c.patterns.map .string)] ∧ c.rules = []
    ∨ ∃ rs, vs = [.list (c.patterns.map .string), .list rs] ∧ List.Forall₂ Rule rs c.rules

/-- The value is an object or a list that describes a rule. -/
def AcceptedRule (v : Value) (r : RuleSpec) : Prop :=
  DocumentedRule v r ∨ ∃ vs, v = .list vs ∧ RuleRow vs r

/-- The value is an object or a list that describes a configuration. -/
def Accepted (v : Value) (c : Config) : Prop :=
  (∃ ms, v = .object ms ∧ ConfigMembers AcceptedRule ms c)
    ∨ ∃ vs, v = .list vs ∧ ConfigRow AcceptedRule vs c

/-- The documented form is one of the two. -/
theorem Documented.accepted {v : Value} {c : Config} (h : Documented v c) :
  Accepted v c
  := by
  obtain ⟨ms, rfl, hknown, hpatterns, hrules⟩ := h
  refine .inl ⟨ms, rfl, hknown, hpatterns, hrules.imp_right ?_⟩
  rintro ⟨vs, hvs, hforms⟩
  use vs, hvs
  apply hforms.imp fun _ _ => .inl

/-! ### Rules in objects -/

/-- What a member of an object does to the rule that has been read so far. -/
structure RuleTakes (r : PartialRule) (m : String × Value) (r' : PartialRule) : Prop where
  known : m.1 ∈ ["pattern", "name", "start", "match", "delete", "keep_start"]
  pattern : Fill ["pattern"] (fun v s => v = .string s) r.pattern m r'.pattern
  name : Fill ["name"] IsName r.name m r'.name
  start : Fill ["start", "match"] (fun v s => v = .string s) r.start m r'.start
  delete : Fill ["delete"] (fun v s => v = .string s) r.delete m r'.delete
  keepStart : Fill ["keep_start"] (fun v b => v = .bool b) r.keepStart m r'.keepStart

theorem ruleTakes_iff {r r' : PartialRule} {m : String × Value} :
  RuleTakes r m r' ↔ m.1 ∈ ["pattern", "name", "start", "match", "delete", "keep_start"]
    ∧ Fill ["pattern"] (fun v s => v = .string s) r.pattern m r'.pattern
    ∧ Fill ["name"] IsName r.name m r'.name
    ∧ Fill ["start", "match"] (fun v s => v = .string s) r.start m r'.start
    ∧ Fill ["delete"] (fun v s => v = .string s) r.delete m r'.delete
    ∧ Fill ["keep_start"] (fun v b => v = .bool b) r.keepStart m r'.keepStart
  := by
  constructor
  · rintro ⟨hknown, hpattern, hname, hstart, hdelete, hkeep⟩
    use hknown, hpattern, hname, hstart, hdelete
  · rintro ⟨hknown, hpattern, hname, hstart, hdelete, hkeep⟩
    use hknown, hpattern, hname, hstart, hdelete

/-- The value of a key of a rule is read into its place. -/
theorem gives_readRuleKey (r : PartialRule) (key : String) (k : Cursor) (r' : PartialRule)
    (rest : List Char) :
  Gives (r.read key k) r' rest
    ↔ ∃ value v, Mark ':' k.rest value ∧ Denotes value v rest ∧ RuleTakes r (key, v) r'
  := by
  obtain ⟨pattern', name', start', delete', keepStart'⟩ := r'
  unfold PartialRule.read
  -- A member fills the one place its key belongs to and leaves the other four.
  split
  · apply gives_fill_map readsValue_readString (by intros; rfl)
    intro v
    grind [ruleTakes_iff, fill_iff_of_mem, fill_iff_of_notMem]
  · apply gives_fill_map readsValue_readOptionalString (by intros; rfl)
    intro v
    grind [ruleTakes_iff, fill_iff_of_mem, fill_iff_of_notMem, IsName]
  · apply gives_fill_map readsValue_readString (by intros; rfl)
    intro v
    grind [ruleTakes_iff, fill_iff_of_mem, fill_iff_of_notMem]
  · apply gives_fill_map readsValue_readString (by intros; rfl)
    intro v
    grind [ruleTakes_iff, fill_iff_of_mem, fill_iff_of_notMem]
  · apply gives_fill_map readsValue_readString (by intros; rfl)
    intro v
    grind [ruleTakes_iff, fill_iff_of_mem, fill_iff_of_notMem]
  · apply gives_fill_map readsValue_readBool (by intros; rfl)
    intro v
    grind [ruleTakes_iff, fill_iff_of_mem, fill_iff_of_notMem]
  · next hpattern hname hstart hmatch hdelete hkeep =>
    simp only [not_gives_error, false_iff]
    rintro ⟨value, v, -, -, hT⟩
    have hknown := hT.known
    simp only [List.mem_cons, List.not_mem_nil, or_false] at hknown
    tauto

/-- A run over the members of an object is a run for each place of a rule. -/
theorem run_ruleTakes_iff {r r' : PartialRule} {ms : List (String × Value)} :
  Run RuleTakes r ms r'
    ↔ (∀ m ∈ ms, m.1 ∈ ["pattern", "name", "start", "match", "delete", "keep_start"])
      ∧ Run (Fill ["pattern"] fun v s => v = .string s) r.pattern ms r'.pattern
      ∧ Run (Fill ["name"] IsName) r.name ms r'.name
      ∧ Run (Fill ["start", "match"] fun v s => v = .string s) r.start ms r'.start
      ∧ Run (Fill ["delete"] fun v s => v = .string s) r.delete ms r'.delete
      ∧ Run (Fill ["keep_start"] fun v b => v = .bool b) r.keepStart ms r'.keepStart
  := by
  induction ms generalizing r with
  | nil =>
    obtain ⟨pattern, name, start, delete, keepStart⟩ := r
    obtain ⟨pattern', name', start', delete', keepStart'⟩ := r'
    simp [Run]
  | cons m ms ih =>
    simp only [Run, ih, ruleTakes_iff, List.forall_mem_cons]
    constructor
    · rintro ⟨t, ⟨hm, hp, hn, hs, hd, hk⟩, hms, hps, hns, hss, hds, hks⟩
      exact ⟨⟨hm, hms⟩, ⟨_, hp, hps⟩, ⟨_, hn, hns⟩, ⟨_, hs, hss⟩, ⟨_, hd, hds⟩, ⟨_, hk, hks⟩⟩
    · rintro ⟨⟨hm, hms⟩, ⟨p, hp, hps⟩, ⟨n, hn, hns⟩, ⟨s, hs, hss⟩, ⟨d, hd, hds⟩, ⟨b, hk, hks⟩⟩
      use ⟨p, n, s, d, b⟩, ⟨hm, hp, hn, hs, hd, hk⟩, hms, hps, hns, hss, hds, hks

/-- The rule that has been read, when its object ends. -/
def RuleEnds (r : PartialRule) (spec : RuleSpec) : Prop :=
  r.pattern = some spec.pattern ∧ r.name.getD none = spec.name ∧ r.start = some spec.start
    ∧ r.delete = some spec.delete ∧ r.keepStart.getD false = spec.keepStart

theorem gives_finish (r : PartialRule) (k : Cursor) (spec : RuleSpec) (rest : List Char) :
  Gives (r.finish k) spec rest ↔ RuleEnds r spec ∧ rest = k.rest
  := by
  obtain ⟨pattern, name, start, delete, keepStart⟩ := r
  obtain ⟨pattern', name', start', delete', keepStart'⟩ := spec
  cases pattern with
  | none => simp [PartialRule.finish, RuleEnds]
  | some pattern =>
    cases start with
    | none => simp [PartialRule.finish, RuleEnds]
    | some start =>
      cases delete with
      | none => simp [PartialRule.finish, RuleEnds]
      | some delete =>
        simp only [PartialRule.finish, RuleEnds, gives_ok, RuleSpec.mk.injEq, Option.some.injEq]
        grind

/-- What is read from the members of an object is the rule that they describe. -/
theorem ruleMembers_iff {ms : List (String × Value)} {spec : RuleSpec} :
  (∃ r, Run RuleTakes ⟨none, none, none, none, none⟩ ms r ∧ RuleEnds r spec) ↔ RuleMembers ms spec
  := by
  simp only [run_ruleTakes_iff]
  constructor
  · rintro ⟨⟨p, n, s, d, b⟩, ⟨hknown, hp, hn, hs, hd, hb⟩, rfl, hname, rfl, rfl, hkeep⟩
    obtain ⟨_, hp, rfl⟩ := required_iff.mp hp
    obtain ⟨_, hs, rfl⟩ := required_iff.mp hs
    obtain ⟨_, hd, rfl⟩ := required_iff.mp hd
    have hname := optional_iff.mp ⟨n, hn, hname⟩
    have hkeep := optional_iff.mp ⟨b, hb, hkeep⟩
    simp only [exists_eq_right] at hkeep
    use hknown, hp, hname, hs, hd, hkeep
  · rintro ⟨hknown, hp, hn, hs, hd, hb⟩
    obtain ⟨n, hn, hname⟩ := optional_iff.mpr hn
    obtain ⟨b, hb, hkeep⟩ := (optional_iff (R := fun v b => v = .bool b)).mpr (by simpa using hb)
    use ⟨some spec.pattern, n, some spec.start, some spec.delete, b⟩,
      ⟨hknown, required_iff.mpr ⟨_, hp, rfl⟩, hn, required_iff.mpr ⟨_, hs, rfl⟩,
        required_iff.mpr ⟨_, hd, rfl⟩, hb⟩, rfl, hname, rfl, rfl, hkeep

/-! ### Rules -/

/-- What is read from a list are the values of a rule in their order. -/
theorem closes_readRuleList {k : Cursor} {r : RuleSpec} {rest : List Char} :
  Closes ']' (readRuleList k) r rest ↔ ∃ vs, Elements true k.rest vs rest ∧ RuleRow vs r
  := by
  rw [readRuleList]
  refine Iff.trans (closes_readNext (d := none) (by simp) readsValue_readString fun pattern k =>
    closes_readNext (d := some none) (by simp [eq_comm]) readsValue_readOptionalString fun name k =>
      closes_readNext (d := none) (by simp) readsValue_readString fun start k =>
        closes_readNext (d := none) (by simp) readsValue_readString fun delete k =>
          closes_readNext (d := some false) (by simp [eq_comm]) readsValue_readBool
            fun keepStart k => closes_last) ?_
  obtain ⟨pattern, name, start, delete, keepStart⟩ := r
  apply exists_congr
  rintro (_ | ⟨v₁, _ | ⟨v₂, _ | ⟨v₃, _ | ⟨v₄, _ | ⟨v₅, _ | ⟨v₆, vs⟩⟩⟩⟩⟩⟩)
  all_goals
    apply and_congr_right
    intro
    grind [RuleRow, IsName]

/-- An object or a list is read, each with a reader of its own. -/
theorem readsValue_readStructure {α : Type} {expected : String}
    {fromList fromObject : Cursor → Except Trouble (α × Cursor)}
    {L : List Value → α → Prop} {O : List (String × Value) → α → Prop}
    (hlist : ∀ k a rest, Closes ']' (fromList k) a rest
      ↔ ∃ vs, Elements true k.rest vs rest ∧ L vs a)
    (hobject : ∀ k a rest, Closes '}' (fromObject k) a rest
      ↔ ∃ ms, Members true k.rest ms rest ∧ O ms a) :
  ReadsValue (readStructure expected fromList fromObject)
    fun v a => (∃ ms, v = .object ms ∧ O ms a) ∨ ∃ vs, v = .list vs ∧ L vs a
  := by
  intro k a rest
  have hforms : (∃ v, Denotes k.rest v rest
        ∧ ((∃ ms, v = .object ms ∧ O ms a) ∨ ∃ vs, v = .list vs ∧ L vs a))
      ↔ (∃ inside, k.skip.rest = '{' :: inside ∧ ∃ ms, Members true inside ms rest ∧ O ms a)
        ∨ ∃ inside, k.skip.rest = '[' :: inside ∧ ∃ vs, Elements true inside vs rest ∧ L vs a := by
    constructor
    · rintro ⟨v, hv, ⟨ms, rfl, hO⟩ | ⟨vs, rfl, hL⟩⟩
      · obtain ⟨inside, hk, hms⟩ := denotes_object_iff.mp hv
        left
        use inside, hk, ms, hms, hO
      · obtain ⟨inside, hk, hvs⟩ := denotes_list_iff.mp hv
        right
        use inside, hk, vs, hvs, hL
    · rintro (⟨inside, hk, ms, hms, hO⟩ | ⟨inside, hk, vs, hvs, hL⟩)
      · exact ⟨_, denotes_object_iff.mpr ⟨inside, hk, hms⟩, .inl ⟨ms, rfl, hO⟩⟩
      · exact ⟨_, denotes_list_iff.mpr ⟨inside, hk, hvs⟩, .inr ⟨vs, rfl, hL⟩⟩
  dsimp only
  rw [hforms, readStructure]
  split
  · next hk => simp [hk]
  · next inside hk =>
    rw [gives_enclose endList_iff, hlist, Cursor.next_rest, hk, List.tail_cons]
    simp
  · next inside hk =>
    rw [gives_enclose endObject_iff, hobject, Cursor.next_rest, hk, List.tail_cons]
    simp
  · next hnil hopen hbrace =>
    simp only [not_gives_error, false_iff]
    rintro (⟨inside, hk, -⟩ | ⟨inside, hk, -⟩)
    · apply hbrace inside hk
    · apply hopen inside hk

/-- A rule is read where a value of either form describes it. -/
theorem readsValue_readRule :
  ReadsValue readRule AcceptedRule
  := by
  apply readsValue_readStructure fun k r rest => closes_readRuleList
  intro k r rest
  rw [readRuleKeys_eq, closes_readKeys gives_readRuleKey gives_finish (Nat.lt_succ_self _)]
  simp only [ruleMembers_iff]

/-! ### Configurations -/

/-- The value is a list of strings. -/
def IsStrings (v : Value) (ss : List String) : Prop := v = .list (ss.map .string)

/-- The value is a list of values that describe rules. -/
def IsRules (v : Value) (rs : List RuleSpec) : Prop :=
  ∃ vs, v = .list vs ∧ List.Forall₂ AcceptedRule vs rs

theorem readsValue_readStrings :
  ReadsValue (readList readString) IsStrings
  := by
  intro k ss rest
  rw [readsValue_readList readsValue_readString k ss rest]
  apply exists_congr
  intro v
  have hstrings (vs : List Value) : List.Forall₂ (fun v s => v = .string s) vs ss
      ↔ vs = ss.map .string := by
    rw [← List.forall₂_map_right_iff, List.forall₂_eq_eq_eq]
  simp [hstrings, IsStrings]

/-- What a member of an object does to the configuration that has been read so far. -/
structure ConfigTakes (c : PartialConfig) (m : String × Value) (c' : PartialConfig) : Prop where
  known : m.1 ∈ ["patterns", "rules"]
  patterns : Fill ["patterns"] IsStrings c.patterns m c'.patterns
  rules : Fill ["rules"] IsRules c.rules m c'.rules

theorem configTakes_iff {c c' : PartialConfig} {m : String × Value} :
  ConfigTakes c m c' ↔ m.1 ∈ ["patterns", "rules"]
    ∧ Fill ["patterns"] IsStrings c.patterns m c'.patterns
    ∧ Fill ["rules"] IsRules c.rules m c'.rules
  := by
  constructor
  · rintro ⟨hknown, hpatterns, hrules⟩
    use hknown, hpatterns
  · rintro ⟨hknown, hpatterns, hrules⟩
    use hknown, hpatterns

/-- The value of a key of a configuration is read into its place. -/
theorem gives_readConfigKey (c : PartialConfig) (key : String) (k : Cursor) (c' : PartialConfig)
    (rest : List Char) :
  Gives (c.read key k) c' rest
    ↔ ∃ value v, Mark ':' k.rest value ∧ Denotes value v rest ∧ ConfigTakes c (key, v) c'
  := by
  obtain ⟨patterns', rules'⟩ := c'
  unfold PartialConfig.read
  split
  · apply gives_fill_map readsValue_readStrings (by intros; rfl)
    intro v
    grind [configTakes_iff, fill_iff_of_mem, fill_iff_of_notMem]
  · apply gives_fill_map (readsValue_readList readsValue_readRule) (by intros; rfl)
    intro v
    grind [configTakes_iff, fill_iff_of_mem, fill_iff_of_notMem, IsRules]
  · next hpatterns hrules =>
    simp only [not_gives_error, false_iff]
    rintro ⟨value, v, -, -, hT⟩
    have hknown := hT.known
    simp only [List.mem_cons, List.not_mem_nil, or_false] at hknown
    tauto

/-- A run over the members of an object is a run for each place of a configuration. -/
theorem run_configTakes_iff {c c' : PartialConfig} {ms : List (String × Value)} :
  Run ConfigTakes c ms c'
    ↔ (∀ m ∈ ms, m.1 ∈ ["patterns", "rules"])
      ∧ Run (Fill ["patterns"] IsStrings) c.patterns ms c'.patterns
      ∧ Run (Fill ["rules"] IsRules) c.rules ms c'.rules
  := by
  induction ms generalizing c with
  | nil =>
    obtain ⟨patterns, rules⟩ := c
    obtain ⟨patterns', rules'⟩ := c'
    simp [Run]
  | cons m ms ih =>
    simp only [Run, ih, configTakes_iff, List.forall_mem_cons]
    constructor
    · rintro ⟨t, ⟨hm, hp, hr⟩, hms, hps, hrs⟩
      exact ⟨⟨hm, hms⟩, ⟨_, hp, hps⟩, ⟨_, hr, hrs⟩⟩
    · rintro ⟨⟨hm, hms⟩, ⟨p, hp, hps⟩, ⟨r, hr, hrs⟩⟩
      use ⟨p, r⟩, ⟨hm, hp, hr⟩, hms, hps, hrs

/-- The configuration that has been read, when its object ends. -/
def ConfigEnds (p : PartialConfig) (c : Config) : Prop :=
  p.patterns.getD [] = c.patterns ∧ p.rules.getD [] = c.rules

/-- What is read from the members of an object is the configuration that they describe. -/
theorem configMembers_iff {ms : List (String × Value)} {c : Config} :
  (∃ p, Run ConfigTakes ⟨none, none⟩ ms p ∧ ConfigEnds p c) ↔ ConfigMembers AcceptedRule ms c
  := by
  simp only [run_configTakes_iff]
  constructor
  · rintro ⟨⟨p, r⟩, ⟨hknown, hp, hr⟩, hpatterns, hrules⟩
    have hpatterns := optional_iff.mp ⟨p, hp, hpatterns⟩
    have hrules := optional_iff.mp ⟨r, hr, hrules⟩
    simp only [IsStrings, exists_eq_right] at hpatterns
    refine ⟨hknown, hpatterns, hrules.imp_right ?_⟩
    rintro ⟨_, hvalues, vs, rfl, hvs⟩
    use vs, hvalues, hvs
  · rintro ⟨hknown, hp, hr⟩
    obtain ⟨p, hp, hpatterns⟩ := (optional_iff (R := IsStrings)).mpr (hp.imp_right fun hp =>
      ⟨_, hp, rfl⟩)
    obtain ⟨r, hr, hrules⟩ := (optional_iff (R := IsRules)).mpr (hr.imp_right fun ⟨vs, hr, hvs⟩ =>
      ⟨_, hr, vs, rfl, hvs⟩)
    use ⟨p, r⟩, ⟨hknown, hp, hr⟩, hpatterns, hrules

/-- What is read from a list are the values of a configuration in their order. -/
theorem closes_readConfigList {k : Cursor} {c : Config} {rest : List Char} :
  Closes ']' (readConfigList k) c rest
    ↔ ∃ vs, Elements true k.rest vs rest ∧ ConfigRow AcceptedRule vs c
  := by
  rw [readConfigList]
  refine Iff.trans (closes_readNext (d := some []) (by simp [eq_comm]) readsValue_readStrings
    fun patterns k => closes_readNext (d := some []) (by simp [eq_comm])
      (readsValue_readList readsValue_readRule) fun rules k => closes_last) ?_
  obtain ⟨patterns, rules⟩ := c
  apply exists_congr
  rintro (_ | ⟨v₁, _ | ⟨v₂, _ | ⟨v₃, vs⟩⟩⟩)
  all_goals
    apply and_congr_right
    intro
    grind [ConfigRow, IsStrings, empty]

/-- A configuration is read where a value of either form describes it. -/
theorem readsValue_readValue :
  ReadsValue readValue Accepted
  := by
  apply readsValue_readStructure fun k c rest => closes_readConfigList
  intro k c rest
  have hfinish : ∀ (p : PartialConfig) (k : Cursor) (c : Config) (rest : List Char),
      Gives (.ok (⟨p.patterns.getD [], p.rules.getD []⟩, k) : Except Trouble _) c rest
        ↔ ConfigEnds p c ∧ rest = k.rest := by
    intro p k c rest
    obtain ⟨patterns, rules⟩ := c
    simp [gives_ok, ConfigEnds, eq_comm]
  rw [readConfigKeys_eq, closes_readKeys gives_readConfigKey hfinish (Nat.lt_succ_self _)]
  simp only [configMembers_iff]

/-! ### Texts -/

/-- A configuration is read from just the texts of either form that describe it. -/
theorem readText_eq_ok_iff {text : List Char} {c : Config} :
  readText text = .ok c ↔ ∃ v, Text text v ∧ Accepted v c
  := by
  have hend (k : Cursor) : Blanks k.rest [] ↔ k.skip.rest = [] := by
    rw [Cursor.skip_rest, List.dropWhile_eq_nil_iff]
    constructor
    · rintro ⟨blanks, hblanks, heq⟩
      rwa [heq, List.append_nil]
    · intro h
      use k.rest, h
      apply (List.append_nil _).symm
  have hvalue := readsValue_readValue (Cursor.start text) c
  rw [readText, bind_eq_ok_iff]
  constructor
  · rintro ⟨⟨c', k⟩, hread, h⟩
    dsimp only at h
    split at h
    · next hk =>
      obtain rfl := Except.ok.inj h
      obtain ⟨v, hv, hc⟩ := (hvalue k.rest).mp ⟨k, hread, rfl⟩
      use v, ⟨k.rest, hv, (hend k).mpr (List.isEmpty_iff.mp hk)⟩, hc
    · contradiction
  · rintro ⟨v, ⟨rest, hv, hblanks⟩, hc⟩
    obtain ⟨k, hread, rfl⟩ := (hvalue rest).mpr ⟨v, hv, hc⟩
    use (c, k), hread
    dsimp only
    rw [(hend k).mp hblanks]
    rfl

/-- A configuration is read from a text exactly when the text is a JSON text, with nothing else
in it, for an object or a list that describes the configuration; any other text is faulty, as the
configuration of its file. -/
theorem read_iff_accepted (path : Path) (text : String) :
  (∀ c, (read text).mapError (Failure.configText path) = .ok c
      ↔ ∃ v, Text text.toList v ∧ Accepted v c)
    ∧ ((∀ v c, Text text.toList v → ¬ Accepted v c) →
      ∃ cause, (read text).mapError (.configText path) = .error (Failure.configText path cause))
  := by
  rw [read]
  constructor
  · intro c
    rw [← readText_eq_ok_iff]
    cases readText text.toList <;> simp [Except.mapError]
  · intro h
    cases hread : readText text.toList with
    | error cause => exact ⟨cause, rfl⟩
    | ok c =>
      obtain ⟨v, ht, hv⟩ := readText_eq_ok_iff.mp hread
      apply absurd hv (h v c ht)

/-- A list in place of the object is read as well. -/
example : read "[[\"*.log\"]]" = .ok ⟨["*.log"], []⟩ := by decide

/-- A configuration is read from every text that renders it in the documented form. -/
theorem read_documented (text : String) (v : Value) (c : Config) (htext : Text text.toList v)
    (hv : Documented v c) :
  read text = .ok c
  := readText_eq_ok_iff.mpr ⟨v, htext, hv.accepted⟩

/-- A rule with the other name of its start, an escape and no name, in a text with blanks. -/
theorem read_documented_sample :
  read ("\x7b \"rules\": [\x7b\"match\":\"\\u0061\",\"delete\":\"b\", \"pattern\":\"c\"\x7d]\x7d\n")
    = .ok ⟨[], [⟨"c", none, "a", "b", false⟩]⟩
  := by
  apply read_documented _ (.object [("rules", .list [.object
    [("match", .string "a"), ("delete", .string "b"), ("pattern", .string "c")]])])
  · have hopen {c : Char} {rest : List Char} : Mark c (c :: rest) rest := Blanks.refl _
    have hspace {c : Char} {rest : List Char} : Mark c (' ' :: c :: rest) rest :=
      ⟨[' '], List.forall_mem_singleton.mpr rfl, rfl⟩
    refine ⟨['\n'], .object hopen ?_, ⟨['\n'], List.forall_mem_singleton.mpr rfl, rfl⟩⟩
    refine .more .first (literal_of_plain hspace (by simp)) hopen
      (.list hspace (.more .first (.object hopen ?_) (.done hopen))) (.done hopen)
    refine .more .first (literal_of_plain hopen (by simp)) hopen
      (.string ⟨_, hopen, .more (.code (hexValue?_iff.mp (by decide))) .done⟩) ?_
    refine .more (.next hopen) (literal_of_plain hopen (by simp)) hopen
      (.string (literal_of_plain hopen (by simp))) ?_
    exact .more (.next hopen) (literal_of_plain hspace (by simp)) hopen
      (.string (literal_of_plain hopen (by simp))) (.done hopen)
  · refine ⟨_, rfl, by decide, .inl ⟨rfl, rfl⟩, .inr ⟨_, rfl, .cons ⟨_, rfl, ?_⟩ .nil⟩⟩
    use by decide, rfl, .inl ⟨rfl, rfl⟩, rfl, rfl, .inl ⟨rfl, rfl⟩

end Compendium.Config
