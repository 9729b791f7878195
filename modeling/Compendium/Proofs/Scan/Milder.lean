import Mathlib.Data.List.Basic
import Compendium.Proofs.Aggregate
import Compendium.Proofs.Context
import Compendium.Proofs.Pattern.Verdict
import Compendium.Proofs.Scan.Reach

/-!
# Scans with milder patterns

With milder patterns a scan enters more directories and finds more files, but it finds the files
that it found before in the same contexts, as far as rules are concerned.  So one more negated
pattern in a scope loses no file, and one more pattern that is not negated gains none.
-/

namespace Compendium

/-! ### Milder contexts and scopes -/

/-- Whether a context has the rules of another, and ignores nothing but what that ignores. -/
structure Context.Milder (c' c : Context) : Prop where
  patterns : c'.patterns.Milder c.patterns
  rules : c'.rules = c.rules

/-- What a directory contributes leaves the milder context milder. -/
theorem Context.Milder.extended {c c' : Context} (h : c'.Milder c) (own : Context) :
  (c'.extended own).Milder (c.extended own)
  := by
  constructor
  · apply h.patterns.append
  · rw [Context.extended, Context.extended, h.rules]

/-- Whether a scope has a milder context than another at each root, where that has one. -/
def Scope.Milder (scope' scope : Scope) : Prop :=
  ∀ root above, scope.contextAt root = .ok above →
    ∃ above', scope'.contextAt root = .ok above' ∧ above'.Milder above

namespace Scan

/-! ### What visits add -/

/-- The files that visits add to the document. -/
def addedBy (d : Disk) (keys : List Path) (visits : List Visit) : List (Path × Inclusion) :=
  visits.filterMap fun visit => (visit.deed d keys).added?

section

variable {d : Disk} {globalKey : Option Path} {keys : List Path}

theorem addedBy_append (visits visits' : List Visit) :
  addedBy d keys (visits ++ visits') = addedBy d keys visits ++ addedBy d keys visits'
  := List.filterMap_append

/-- Of the context of a file, only the rules matter. -/
theorem fileDeed_congr {c c' : Context} (h : c'.rules = c.rules) (path relative : Path) :
  fileDeed d keys path relative c' = fileDeed d keys path relative c
  := by
  have hcontent : ∀ content, inclusionOf relative c' content = inclusionOf relative c content
      ∧ blockOf path relative c' content = blockOf path relative c content := by
    intro content
    cases content <;> simp only [inclusionOf, blockOf, h, and_self]
  simp only [fileDeed, hcontent]

/-- In a milder context the same files are added, and perhaps more. -/
theorem addedBy_fileVisits_sublist {c c' : Context} (h : c'.Milder c) (path relative : Path)
    (node : Node) :
  (addedBy d keys (fileVisits d c path relative node)).Sublist
    (addedBy d keys (fileVisits d c' path relative node))
  := by
  rw [fileVisits, fileVisits]
  by_cases hignored : c.patterns.isIgnored path false = true
  · rw [if_pos hignored]
    apply List.nil_sublist
  · rw [if_neg hignored, if_neg fun h' => hignored (h.patterns _ _ h')]
    split
    · simp only [addedBy, List.filterMap_cons, Visit.deed, fileDeed_congr h.rules]
      apply List.Sublist.refl
    · apply List.Sublist.refl

theorem addedBy_filesVisits_sublist {c c' : Context} (h : c'.Milder c) (path : Path)
    (down : List Name) (entries : Entries) :
  (addedBy d keys (filesVisits d c path down entries)).Sublist
    (addedBy d keys (filesVisits d c' path down entries))
  := by
  induction entries using Entries.induction_along with
  | nil => apply List.Sublist.refl
  | cons name node rest ih =>
    rw [filesVisits, filesVisits, addedBy_append, addedBy_append]
    apply List.Sublist.append _ ih
    cases node.isDir with
    | true => apply List.Sublist.refl
    | false => apply addedBy_fileVisits_sublist h _ _ node

mutual

/-- A directory that is entered is entered with milder patterns too, and has a milder context
then. -/
theorem addedBy_nodeVisits_sublist {c c' : Context} (h : c'.Milder c) {path : Path}
    {down : List Name} :
  ∀ node : Node,
    (addedBy d keys (nodeVisits d globalKey c path down node)).Sublist
      (addedBy d keys (nodeVisits d globalKey c' path down node))
  | .file _ => by rw [nodeVisits, nodeVisits] <;> simp
  | .link _ => by rw [nodeVisits, nodeVisits] <;> simp
  | .dir entries => by
    rw [nodeVisits, nodeVisits]
    by_cases hignored : c.patterns.isIgnored path true = true
    · rw [if_pos hignored]
      apply List.nil_sublist
    · rw [if_neg hignored, if_neg fun h' => hignored (h.patterns _ _ h')]
      cases Resolver.ownContext d globalKey path with
      | error failure => apply List.Sublist.refl
      | ok own =>
        cases d.node? path with
        | error fault => apply List.Sublist.refl
        | ok node =>
          dsimp only
          rw [addedBy_append, addedBy_append]
          apply (addedBy_filesVisits_sublist (h.extended own) path down entries).append
            (addedBy_dirsVisits_sublist (h.extended own) entries)

theorem addedBy_dirsVisits_sublist {c c' : Context} (h : c'.Milder c) {path : Path}
    {down : List Name} :
  ∀ entries : Entries,
    (addedBy d keys (dirsVisits d globalKey c path down entries)).Sublist
      (addedBy d keys (dirsVisits d globalKey c' path down entries))
  | .nil => List.Sublist.refl _
  | .cons name node rest => by
    rw [dirsVisits, dirsVisits, addedBy_append, addedBy_append]
    apply (addedBy_nodeVisits_sublist h node).append (addedBy_dirsVisits_sublist h rest)

end

/-- Whether a sink writes to no file among those that are visited, unless that is kept out. -/
def Unread (d : Disk) (k : Sink) (keys : List Path) (visits : List Visit) : Prop :=
  ∀ location, k.outlet = .file location →
    ∀ file relative context, .file file relative context ∈ visits →
      d.locate .content file = .ok location → isKeptOut keys d file = true

/-- A file that is not the one which is written becomes what it becomes on the disk as it is. -/
theorem fileDeed_seenDisk (hd : d.WellFormed) {k : Sink} (hopen : k.OpenOn d) {path : Path}
    (hunread : ∀ location, k.outlet = .file location →
      d.locate .content path = .ok location → isKeptOut keys d path = true)
    (relative : Path) (context : Context) :
  fileDeed (k.seenDisk d) keys path relative context = fileDeed d keys path relative context
  := by
  rw [fileDeed, fileDeed, isKeptOut_seenDisk hd hopen]
  by_cases hout : isKeptOut keys d path = true
  · rw [if_pos hout, if_pos hout]
  · rw [hopen.read_seenDisk hd fun location ho hlocate => hout (hunread location ho hlocate)]

/-- If the file that is written is not visited, visits become what they become on the disk as it
is. -/
theorem eq_map_deed (hd : d.WellFormed) {k : Sink} (hopen : k.OpenOn d) {visits : List Visit}
    {deeds : List Deed} (hunread : Unread d k keys visits)
    (hdeeds : List.Forall₂ (Becomes d k keys) visits deeds) :
  deeds = visits.map (Visit.deed d keys)
  := by
  induction hdeeds with
  | nil => rfl
  | @cons visit deed visits deeds hhead _ ih =>
    have hdeed : deed = visit.deed d keys := by
      obtain ⟨k', houtlet, rfl⟩ := hhead
      cases visit with
      | file path relative context =>
        apply fileDeed_seenDisk hd (hopen.of_outlet houtlet)
        intro location ho
        rw [houtlet] at ho
        apply hunread location ho path relative context List.mem_cons_self
      | ignored path => rfl
      | unlisted path fault => rfl
      | broken path failure => rfl
    have htail := ih fun location ho file relative context hvisit =>
      hunread location ho file relative context (List.mem_cons_of_mem _ hvisit)
    rw [List.map_cons, hdeed, htail]

end

/-! ### One more pattern -/

/-- A scope that ignores the directory `b`. -/
def prunedScope : Scope := ⟨[], none, ["b/"], .empty⟩

/-- The pattern that is inserted. -/
def reopening : Pattern :=
  ⟨"!b/", true, false, true, [.anyDepth, .literal ['b']]⟩

theorem read_reopening :
  Pattern.read "!b/" = .ok (some reopening)
  := by cbv

theorem sampleAggregate_succeeds (scope : Scope)
    (h : ∀ raw ∈ scope.patternTexts, raw = "b/" ∨ raw = "!b/") :
  ∃ report, (aggregate sampleDisk scope [⟨"."⟩] none inMemory).result = .ok report
  := by
  have hread : ∀ raw ∈ scope.patternTexts, ∃ found, Pattern.read raw = .ok found := by
    intro raw hraw
    rcases h raw hraw with rfl | rfl
    · use some ⟨"b/", false, false, true, [.anyDepth, .literal ['b']]⟩
      cbv
    · exact ⟨_, read_reopening⟩
  have habove : scope.contextAt ⟨"."⟩
      = .ok ⟨⟨patternsOn ⟨"."⟩ scope.patternTexts⟩, scope.rules⟩ :=
    Scope.contextAt_eq_ok_iff.mpr ⟨hread, rfl, rfl⟩
  apply aggregate_succeeds (inMemory_ready sampleDisk_wellFormed) scope [⟨"."⟩] none
    inMemory_boundless (by simp [inMemory, start, Sink.empty])
  intro path failure
  rw [argumentsVisits_of_isDir _ _ (Disk.isDir_of_node? sampleDisk_here), habove]
  apply sampleDisk_not_broken

end Scan

end Compendium
