import Compendium.Proofs.Disk.Making

/-!
# Disks on which something is made

Directories and files are made with names that can stand in a path, each in its place among the
other entries.  So a well-formed disk stays well-formed.
-/

namespace Compendium

/-- A piece of a path that stands for a name is one that an entry can have, if it is short
enough. -/
theorem Name.valid_of_mem_pieces {text : List Char} {name : Name} (hnull : '\x00' ∉ text)
    (hlen : (Text.bytes name).length ≤ Disk.nameLimit)
    (h : .name name ∈ (Text.pieces '/' text).filterMap Disk.step?) :
  name.Valid
  := by
  obtain ⟨piece, hpiece, hstep⟩ := List.mem_filterMap.mp h
  rw [Disk.step?] at hstep
  split at hstep
  · simp at hstep
  rename_i hnil
  split at hstep
  · simp at hstep
  rename_i hhere
  split at hstep
  · simp at hstep
  rename_i hup
  obtain rfl : piece = name := by simpa using hstep
  use hnil, hhere, hup, Text.notMem_of_mem_pieces hpiece,
    fun hmem => hnull (Text.subset_of_mem_pieces hpiece hmem), hlen

namespace Entries

theorem mem_names_put {name other : Name} {new : Node} :
  ∀ {entries : Entries}, other ∈ (entries.put name new).names → other = name ∨ other ∈ entries.names
  | .nil, h => by
    left
    simpa [put] using h
  | .cons third old rest, h => by
    rw [put] at h
    split at h
    · rename_i heq
      subst heq
      right
      apply h
    · split at h
      · simpa using h
      · rw [names_cons, List.mem_cons] at h ⊢
        rcases h with rfl | h
        · right
          left
          rfl
        · apply (mem_names_put h).imp id .inr

/-- What is put in with a valid name takes its place in the order of the names. -/
theorem WellFormed.put {name : Name} {new : Node} (hname : name.Valid) (hnew : new.WellFormed) :
  ∀ {entries : Entries}, entries.WellFormed → (entries.put name new).WellFormed
  | .nil, _ => by simp [Entries.put, Entries.WellFormed, hname, hnew]
  | .cons other old rest, h => by
    have hwhole := h
    rw [Entries.WellFormed] at h
    rw [Entries.put]
    split
    · rename_i heq
      subst heq
      use h.1, h.2.1, hnew, h.2.2.2
    · rename_i hne
      split
      · rename_i hlt
        refine ⟨hname, ?_, hnew, hwhole⟩
        intro third hthird
        rcases List.mem_cons.mp hthird with rfl | hthird
        · apply hlt
        · apply List.lt_trans hlt (h.2.1 third hthird)
      · rename_i hnot
        refine ⟨h.1, ?_, h.2.2.1, WellFormed.put hname hnew h.2.2.2⟩
        intro third hthird
        rcases mem_names_put hthird with rfl | hthird
        · apply ((Std.lt_trichotomy third other).resolve_left hnot).resolve_left hne
        · apply h.2.1 third hthird

end Entries

/-- A tree stays well-formed when something well-formed is put into one of its directories. -/
theorem Node.WellFormed.putAt {root new : Node} {above : Location} {name : Name}
    (h : root.WellFormed) (hdir : root.kindAt above = some .dir) (hname : name.Valid)
    (hnew : new.WellFormed) :
  (root.putAt new (above ++ [name])).WellFormed
  := by
  induction above generalizing root with
  | nil =>
    obtain ⟨entries, hat⟩ := kindAt_eq_dir_iff.mp hdir
    obtain rfl := Option.some.inj hat
    apply Entries.WellFormed.put hname hnew h
  | cons first above ih =>
    obtain ⟨entries, below, rfl, hfind, hbelow⟩ := exists_of_kindAt_cons hdir
    rw [Node.WellFormed] at h
    obtain ⟨hfirst, hwf⟩ := h.of_mem (Entries.mem_toList_of_find? hfind)
    rw [List.cons_append, Node.putAt, hfind, Option.getD_some]
    apply Entries.WellFormed.put hfirst (ih hwf hbelow) h

namespace Disk

section

variable {d : Disk} (hd : d.WellFormed)

include hd

/-! ### Directories -/

theorem WellFormed.makeDir {path : Path} {d' : Disk} (h : d.makeDir path = .ok d') :
  d'.WellFormed
  := by
  constructor
  · obtain ⟨hnull, -, -, before, name, above, hpieces, -, hdir, hlen, -, rfl⟩ :=
      makeDir_eq_ok_iff.mp h
    have hname : Name.Valid name := Name.valid_of_mem_pieces hnull hlen (by simp [hpieces])
    apply hd.root.putAt hdir hname (by trivial)
  · have hkeeps := keeps_makeDir h
    rw [hkeeps.here]
    apply (hkeeps.kindAt_dir hd.here).2

theorem WellFormed.makeDirs (paths : List Path) :
  (d.makeDirs paths).2.WellFormed
  := by
  induction paths with
  | nil => apply hd
  | cons path above ih =>
    rw [Disk.makeDirs]
    split
    · apply hd
    · split
      · rename_i hmade
        apply hd.makeDir hmade
      · split
        · rename_i hmade
          rwa [hmade] at ih
        · rename_i hmade
          rw [hmade] at ih
          split
          · rename_i hlast
            apply ih.makeDir hlast
          · apply ih
      · apply hd

/-! ### Files -/

/-- A way to a file that is to be made leads along names of the disk and of the path. -/
theorem WellFormed.valid_of_follow_making (hfree : d.LinkFree) {links : Nat} {text : List Char}
    {here l : Location} {steps : List Step} (hnull : '\x00' ∉ text)
    (hsteps : ∀ name, .name name ∈ steps → .name name ∈ (Text.pieces '/' text).filterMap step?)
    (hhere : d.root.kindAt here = some .dir)
    (hway : Disk.follow d.root .making links here steps = .ok l) :
  ∀ n ∈ l, Name.Valid n
  := by
  have hvalid {there : Location} (hthere : d.root.kindAt there = some .dir) :
      ∀ n ∈ there, Name.Valid n := by
    obtain ⟨entries, hat⟩ := Node.kindAt_eq_dir_iff.mp hthere
    apply (hd.root.at? hat).2
  induction steps generalizing here with
  | nil =>
    rw [follow_nil] at hway
    obtain rfl := Except.ok.inj hway
    apply hvalid hhere
  | cons step rest ih =>
    have hrest : ∀ name, .name name ∈ rest →
        .name name ∈ (Text.pieces '/' text).filterMap step? :=
      fun name hname => hsteps name (List.mem_cons_of_mem step hname)
    obtain ⟨-, ⟨-, hway⟩ | ⟨-, hway⟩ | ⟨n, rfl, -, hlen, hcases⟩⟩ :=
      follow_making_cases hfree hway
    · apply ih hrest hhere hway
    · apply ih hrest (Node.kindAt_of_prefix (List.dropLast_prefix here) hhere) hway
    · rcases hcases with ⟨-, rfl, -⟩ | ⟨hk, hway⟩
      · intro m hm
        rcases List.mem_append.mp hm with hm | hm
        · apply hvalid hhere m hm
        · obtain rfl := List.mem_singleton.mp hm
          apply Name.valid_of_mem_pieces hnull (Nat.le_of_not_lt hlen)
            (hsteps m List.mem_cons_self)
      · apply ih hrest hk hway

/-- A disk stays well-formed when a file is made on it. -/
theorem WellFormed.made (hfree : d.LinkFree) {path : Path} {l : Location}
    (hl : d.root.Writable l) (h : d.locate .making path = .ok l) (bytes : List UInt8) :
  (d.withBytes l bytes).WellFormed
  := by
  obtain ⟨above, name, rfl, hdir⟩ := exists_above_of_locate_making hd.here hfree hl h
  obtain ⟨hkeeps, -⟩ := keeps_withBytes hdir hl bytes
  obtain ⟨hnull, -, -, hway⟩ := locate_eq_ok_iff.mp h
  constructor
  · have hsteps : ∀ n, .name n ∈ steps path.text.toList →
        .name n ∈ (Text.pieces '/' path.text.toList).filterMap step? := by
      intro n hn
      rw [steps, List.mem_append] at hn
      apply hn.resolve_right
      split <;> simp
    have hvalid := hd.valid_of_follow_making hfree hnull hsteps (kindAt_start hd.here _) hway
    apply hd.root.putAt hdir (hvalid name (by simp)) (by trivial)
  · rw [hkeeps.here]
    apply (hkeeps.kindAt_dir hd.here).2

/-- What is written to a file that is made can be read by the path that it is made by. -/
theorem WellFormed.read_made (hfree : d.LinkFree) {path : Path} {l : Location}
    (hl : d.root.Writable l) (h : d.locate .making path = .ok l) (bytes : List UInt8) :
  (d.withBytes l bytes).read path = .ok bytes
  := by
  obtain ⟨-, -, -, hcontent, -⟩ := keeps_made hd.here hfree hl h bytes
  obtain ⟨above, name, rfl, hdir⟩ := exists_above_of_locate_making hd.here hfree hl h
  have hat : (d.withBytes (above ++ [name]) bytes).root.at? (above ++ [name] ++ []) = _ :=
    Node.at?_putAt_append (.file bytes) hdir []
  rw [List.append_nil] at hat
  apply read_eq_ok_iff.mpr ⟨_, hcontent, hat⟩

end

end Disk

end Compendium
