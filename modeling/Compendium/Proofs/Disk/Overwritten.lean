import Compendium.Proofs.Disk.Writing

/-!
# Disks that differ in one file

To put something at a location of a tree, or to take away what is there, changes nothing that is
not below the location.  So two disks that are the same but for one file are the same once that
file is written, and a path that leads to anything else on one of them leads to the same on the
other.
-/

namespace Compendium

namespace Entries

/-- What has been put in is replaced by what is put in under the same name. -/
theorem put_put (name : Name) (old new : Node) (entries : Entries) :
  (entries.put name old).put name new = entries.put name new
  := by
  induction entries using induction_along with
  | nil => simp [put]
  | cons other node rest ih =>
    by_cases hn : name = other
    · subst hn
      simp [put]
    · by_cases hlt : name < other
      · simp [put, hn, hlt]
      · simp [put, hn, hlt, ih]

theorem find?_remove_of_ne {name other : Name} (h : name ≠ other) (entries : Entries) :
  (entries.remove other).find? name = entries.find? name
  := by
  induction entries using induction_along with
  | nil => rfl
  | cons third old rest ih =>
    rw [remove]
    split
    · rename_i heq
      subst heq
      rw [find?_cons, if_neg h]
    · rw [find?_cons, find?_cons, ih]

theorem put_of_lt {name : Name} (new : Node) :
  ∀ {entries : Entries}, (∀ other ∈ entries.names, name < other) →
    entries.put name new = .cons name new entries
  | .nil, _ => rfl
  | .cons other old rest, h => by
    have hlt : name < other := h other List.mem_cons_self
    have hne : name ≠ other := by
      rintro rfl
      apply List.lt_irrefl _ hlt
    rw [put, if_neg hne, if_pos hlt]

theorem remove_of_lt {name : Name} :
  ∀ {entries : Entries}, (∀ other ∈ entries.names, name < other) → entries.remove name = entries
  | .nil, _ => rfl
  | .cons other old rest, h => by
    have hne : name ≠ other := by
      rintro rfl
      apply List.lt_irrefl _ (h name List.mem_cons_self)
    rw [remove, if_neg hne,
      remove_of_lt fun third hthird => h third (List.mem_cons_of_mem _ hthird)]

/-- It does not matter whether there was an entry of a name before one is put in. -/
theorem put_remove (name : Name) (new : Node) :
  ∀ {entries : Entries}, entries.WellFormed →
    (entries.remove name).put name new = entries.put name new
  | .nil, _ => rfl
  | .cons other old rest, h => by
    rw [Entries.WellFormed] at h
    rw [remove, put]
    split
    · rename_i heq
      subst heq
      apply put_of_lt new h.2.1
    · rename_i hne
      rw [put, if_neg hne]
      split
      · rename_i hlt
        rw [remove_of_lt fun third hthird => List.lt_trans hlt (h.2.1 third hthird)]
      · rw [put_remove name new h.2.2.2]

end Entries

namespace Node

/-! ### Trees that are changed at a location -/

theorem putAt_putAt (root old new : Node) (l : Location) :
  (root.putAt old l).putAt new l = root.putAt new l
  := by
  induction l generalizing root with
  | nil => rfl
  | cons name l ih =>
    cases root with
    | file => rfl
    | link => rfl
    | dir entries =>
      rw [putAt, putAt, Entries.find?_put_self, Option.getD_some, ih, Entries.put_put, putAt]

/-- It does not matter whether there was anything at a location before something is put there. -/
theorem putAt_removeAt {root : Node} {l : Location} (h : root.WellFormed) (hl : l ≠ [])
    (new : Node) :
  (root.removeAt l).putAt new l = root.putAt new l
  := by
  induction l generalizing root with
  | nil => contradiction
  | cons name l ih =>
    cases root with
    | file => cases l <;> rfl
    | link => cases l <;> rfl
    | dir entries =>
      rw [Node.WellFormed] at h
      cases l with
      | nil =>
        rw [removeAt, putAt, putAt, putAt, putAt, Entries.put_remove name new h]
      | cons next l =>
        rw [removeAt]
        · cases hfind : entries.find? name with
          | none => rfl
          | some below =>
            obtain ⟨-, hbelow⟩ := h.of_mem (Entries.mem_toList_of_find? hfind)
            dsimp only
            rw [putAt, Entries.find?_put_self, Option.getD_some, ih hbelow (List.cons_ne_nil _ _),
              Entries.put_put, putAt, hfind, Option.getD_some]
        · simp

theorem bytesAt_of_map {root root' : Node} {m : Location}
    (h : (root.at? m).map bytes? = (root'.at? m).map bytes?) :
  root.bytesAt m = root'.bytesAt m
  := by
  have hjoin := congrArg (Option.bind · id) h
  rwa [Option.bind_map, Option.bind_map] at hjoin

section

/-! What can be told of a node that does not depend on the entries of a directory. -/

variable {α : Type} {f : Node → α} (hf : ∀ entries entries', f (.dir entries) = f (.dir entries'))

include hf

/-- What is not below a location stays when what is there is taken away. -/
theorem map_at?_removeAt (root : Node) {l m : Location} (hl : l ≠ []) (hm : ¬ l <+: m) :
  ((root.removeAt l).at? m).map f = (root.at? m).map f
  := by
  induction l generalizing root m with
  | nil => contradiction
  | cons name l ih =>
    cases root with
    | file => cases l <;> rfl
    | link => cases l <;> rfl
    | dir entries =>
      cases l with
      | nil =>
        cases m with
        | nil => simp [removeAt, hf (entries.remove name) entries]
        | cons other m =>
          have hne : other ≠ name := by
            rintro rfl
            simp at hm
          rw [removeAt, at?_dir_cons, at?_dir_cons, Entries.find?_remove_of_ne hne]
      | cons next l =>
        rw [removeAt]
        · cases hfind : entries.find? name with
          | none => rfl
          | some below =>
            cases m with
            | nil => simp [hf (entries.put name (below.removeAt (next :: l))) entries]
            | cons other m =>
              dsimp only
              rw [at?_dir_cons, at?_dir_cons]
              by_cases hn : other = name
              · subst hn
                rw [Entries.find?_put_self, hfind, Option.bind_some, Option.bind_some]
                apply ih below (List.cons_ne_nil _ _)
                simpa using hm
              · rw [Entries.find?_put_of_ne hn]
        · simp

/-- What is not below a location stays when something is put there. -/
theorem map_at?_putAt {root : Node} (new : Node) {above : Location} {name : Name}
    (hdir : root.kindAt above = some .dir) {m : Location} (hm : ¬ above ++ [name] <+: m) :
  ((root.putAt new (above ++ [name])).at? m).map f = (root.at? m).map f
  := by
  induction above generalizing root m with
  | nil =>
    obtain ⟨entries, hat⟩ := kindAt_eq_dir_iff.mp hdir
    obtain rfl := Option.some.inj hat
    rw [List.nil_append, putAt]
    cases m with
    | nil => simp [hf _ entries]
    | cons other m =>
      have hne : other ≠ name := by
        rintro rfl
        simp at hm
      rw [at?_dir_cons, at?_dir_cons, Entries.find?_put_of_ne hne]
  | cons first above ih =>
    obtain ⟨entries, below, rfl, hfind, hbelow⟩ := exists_of_kindAt_cons hdir
    rw [List.cons_append, putAt, hfind, Option.getD_some]
    cases m with
    | nil => simp [hf _ entries]
    | cons other m =>
      rw [at?_dir_cons, at?_dir_cons]
      by_cases hn : other = first
      · subst hn
        rw [Entries.find?_put_self, hfind, Option.bind_some, Option.bind_some]
        apply ih hbelow
        simpa using hm
      · rw [Entries.find?_put_of_ne hn]

end

theorem kindAt_removeAt (root : Node) {l m : Location} (hl : l ≠ []) (hm : ¬ l <+: m) :
  (root.removeAt l).kindAt m = root.kindAt m
  := map_at?_removeAt (fun _ _ => rfl) root hl hm

theorem bytesAt_removeAt (root : Node) {l m : Location} (hl : l ≠ []) (hm : ¬ l <+: m) :
  (root.removeAt l).bytesAt m = root.bytesAt m
  := bytesAt_of_map (map_at?_removeAt (fun _ _ => rfl) root hl hm)

/-- What is not below a node that is put stays what it is. -/
theorem kindAt_putAt {root : Node} (new : Node) {above : Location} {name : Name}
    (hdir : root.kindAt above = some .dir) {m : Location} (hm : ¬ above ++ [name] <+: m) :
  (root.putAt new (above ++ [name])).kindAt m = root.kindAt m
  := map_at?_putAt (fun _ _ => rfl) new hdir hm

theorem bytesAt_putAt_of_not_below {root : Node} (new : Node) {above : Location} {name : Name}
    (hdir : root.kindAt above = some .dir) {m : Location} (hm : ¬ above ++ [name] <+: m) :
  (root.putAt new (above ++ [name])).bytesAt m = root.bytesAt m
  := bytesAt_of_map (map_at?_putAt (fun _ _ => rfl) new hdir hm)

/-- What is put at a location is there. -/
theorem at?_putAt_append {root : Node} (new : Node) {above : Location} {name : Name}
    (hdir : root.kindAt above = some .dir) (m : Location) :
  (root.putAt new (above ++ [name])).at? (above ++ [name] ++ m) = new.at? m
  := by
  induction above generalizing root with
  | nil =>
    obtain ⟨entries, hat⟩ := kindAt_eq_dir_iff.mp hdir
    obtain rfl := Option.some.inj hat
    simp [putAt, Entries.find?_put_self]
  | cons first above ih =>
    obtain ⟨entries, below, rfl, hfind, hbelow⟩ := exists_of_kindAt_cons hdir
    rw [List.cons_append, putAt, hfind, Option.getD_some, List.cons_append, at?_dir_cons,
      Entries.find?_put_self, Option.bind_some, ih hbelow]

theorem kindAt_putAt_self {root : Node} (new : Node) {above : Location} (name : Name)
    (hdir : root.kindAt above = some .dir) :
  (root.putAt new (above ++ [name])).kindAt (above ++ [name]) = some new.kind
  := by
  have hat : (root.putAt new (above ++ [name])).at? (above ++ [name] ++ []) = some new :=
    at?_putAt_append new hdir []
  rw [List.append_nil] at hat
  rw [kindAt, hat, Option.map_some]

/-- Whether a file can be written at a location: there is a file or nothing. -/
def Writable (root : Node) (l : Location) : Prop :=
  root.kindAt l = none ∨ root.kindAt l = some .file

theorem Writable.ne_dir {root : Node} {l : Location} (h : root.Writable l) :
  root.kindAt l ≠ some .dir
  := by
  rcases h with hk | hk <;> simp [hk]

/-- There is nothing below a file, nor below nothing. -/
theorem at?_append_of_kindAt_ne {root : Node} {l m : Location} (h : root.kindAt l ≠ some .dir)
    (hm : m ≠ []) :
  root.at? (l ++ m) = none
  := by
  rw [← Option.not_isSome_iff_eq_none]
  intro hsome
  apply h (kindAt_of_append hm hsome)

end Node

namespace Disk

/-! ### Disks on which more is found -/

/-- Whether what is on a disk is on another one too, except at hidden locations, at which both
have nothing or a file.  Only directories may be new on the other disk. -/
structure Keeps (hidden : Location → Prop) (d e : Disk) : Prop where
  here : e.here = d.here
  kindAt : ∀ m kind, ¬ hidden m → d.root.kindAt m = some kind → e.root.kindAt m = some kind
  bytesAt : ∀ m bytes, ¬ hidden m → d.root.bytesAt m = some bytes → e.root.bytesAt m = some bytes
  new : ∀ m, ¬ hidden m → d.root.kindAt m = none →
    e.root.kindAt m = none ∨ e.root.kindAt m = some .dir
  left : ∀ m, hidden m → d.root.Writable m
  right : ∀ m, hidden m → e.root.Writable m

section

variable {hidden : Location → Prop} {d e f : Disk}

theorem Keeps.trans (h : Keeps hidden d e) (h' : Keeps hidden e f) :
  Keeps hidden d f
  := by
  constructor
  · rw [h'.here, h.here]
  · intro m kind hm hk
    apply h'.kindAt m kind hm (h.kindAt m kind hm hk)
  · intro m bytes hm hbytes
    apply h'.bytesAt m bytes hm (h.bytesAt m bytes hm hbytes)
  · intro m hm hk
    rcases h.new m hm hk with hnone | hdir
    · apply h'.new m hm hnone
    · right
      apply h'.kindAt m .dir hm hdir
  · apply h.left
  · apply h'.right

/-- A directory is never hidden. -/
theorem Keeps.kindAt_dir (h : Keeps hidden d e) {m : Location}
    (hdir : d.root.kindAt m = some .dir) :
  ¬ hidden m ∧ e.root.kindAt m = some .dir
  := by
  have hm : ¬ hidden m := fun hm => (h.left m hm).ne_dir hdir
  use hm
  apply h.kindAt m .dir hm hdir

theorem Keeps.linkFree (h : Keeps hidden d e) (hfree : d.LinkFree) :
  e.LinkFree
  := by
  intro m target hlink
  by_cases hm : hidden m
  · rcases h.right m hm with hk | hk <;> simp [hlink] at hk
  · cases hk : d.root.kindAt m with
    | none => rcases h.new m hm hk with hk' | hk' <;> simp [hlink] at hk'
    | some kind =>
      have hsame := h.kindAt m kind hm hk
      rw [hlink] at hsame
      apply hfree m target (hk.trans hsame.symm)

/-- A way that leads to what is not hidden leads there on the other disk. -/
theorem Keeps.follow (h : Keeps hidden d e) (hfree : d.LinkFree) {links : Nat} (links' : Nat)
    {here m : Location} {steps : List Step} (hm : ¬ hidden m)
    (hway : Disk.follow d.root .content links here steps = .ok m) :
  Disk.follow e.root .content links' here steps = .ok m
  := by
  induction steps generalizing here with
  | nil => rwa [follow_nil] at hway ⊢
  | cons step rest ih =>
    obtain ⟨hdir, hcases⟩ := follow_cons_cases hway
    obtain ⟨-, hdir'⟩ := h.kindAt_dir hdir
    rcases hcases with ⟨rfl | rfl, hrest⟩ | ⟨rfl, hrest⟩ | ⟨n, kind, rfl, hlen, hk, hcases⟩
    · rw [follow_stay _ _ _ hdir']
      apply ih hrest
    · rw [follow_slash _ _ _ hdir']
      apply ih hrest
    · rw [follow_up _ _ _ hdir']
      apply ih hrest
    · rcases hcases with ⟨hkind, hrest⟩ | ⟨target, -, rfl, -⟩
      · -- Behind a hidden file there is nowhere to go.
        have hn : ¬ hidden (here ++ [n]) := by
          intro hn
          obtain rfl : kind = .file := by
            rcases h.left _ hn with hk' | hk' <;> simp_all
          cases rest with
          | nil =>
            rw [follow_nil] at hrest
            obtain rfl := Except.ok.inj hrest
            apply hm hn
          | cons step rest =>
            rw [follow_of_kindAt_ne _ _ _ (by simp [hk])] at hrest
            simp at hrest
        rw [follow_name _ _ _ hdir', if_neg (by simp), if_neg hlen, h.kindAt _ _ hn hk]
        rcases hkind with rfl | rfl
        · apply ih hrest
        · apply ih hrest
      · apply absurd hk (hfree _ target)

/-- A path leads where it led to, unless that is hidden. -/
theorem Keeps.locate (h : Keeps hidden d e) (hfree : d.LinkFree) {path : Path} {m : Location}
    (hm : ¬ hidden m) (hl : d.locate .content path = .ok m) :
  e.locate .content path = .ok m
  := by
  obtain ⟨hnull, hne, hlen, hway⟩ := locate_eq_ok_iff.mp hl
  rw [← h.here] at hway
  apply locate_eq_ok_iff.mpr ⟨hnull, hne, hlen, h.follow hfree linkLimit hm hway⟩

theorem Keeps.read (h : Keeps hidden d e) (hfree : d.LinkFree) {path : Path} {m : Location}
    {bytes : List UInt8} (hm : ¬ hidden m) (hl : d.locate .content path = .ok m)
    (hread : d.read path = .ok bytes) :
  e.read path = .ok bytes
  := by
  obtain ⟨m', hl', hat⟩ := read_eq_ok_iff.mp hread
  obtain rfl := Except.ok.inj (hl.symm.trans hl')
  use read_eq_ok_iff.mpr ⟨m, h.locate hfree hm hl, ?_⟩
  apply Node.bytesAt_eq_some_iff.mp (h.bytesAt m bytes hm (Node.bytesAt_eq_some_iff.mpr hat))

/-- Without steps up, a way leads further down only. -/
theorem isPrefix_of_follow {root : Node} (hfree : ∀ l target, root.kindAt l ≠ some (.link target))
    {links : Nat} {here m : Location} {steps : List Step} (hup : .up ∉ steps)
    (hway : Disk.follow root .content links here steps = .ok m) :
  here <+: m
  := by
  induction steps generalizing here with
  | nil =>
    rw [follow_nil] at hway
    obtain rfl := Except.ok.inj hway
    apply List.prefix_refl
  | cons step rest ih =>
    rw [List.mem_cons, not_or] at hup
    obtain ⟨-, ⟨-, hrest⟩ | ⟨rfl, -⟩ | ⟨n, kind, -, -, hk, hcases⟩⟩ := follow_cons_cases hway
    · apply ih hup.2 hrest
    · apply absurd rfl hup.1
    · rcases hcases with ⟨-, hrest⟩ | ⟨target, -, rfl, -⟩
      · apply (List.prefix_append here [n]).trans (ih hup.2 hrest)
      · apply absurd hk (hfree _ target)

/-- Without steps up, a way to a file that is there already leads through no new directory. -/
theorem Keeps.follow_back (h : Keeps hidden d e) (hfree : d.LinkFree) {links : Nat}
    (links' : Nat) {here m : Location} {steps : List Step} (hup : .up ∉ steps)
    (hm : ¬ hidden m) (hfile : d.root.kindAt m = some .file)
    (hway : Disk.follow e.root .content links here steps = .ok m) :
  Disk.follow d.root .content links' here steps = .ok m
  := by
  have hfree' := h.linkFree hfree
  have hfile' := h.kindAt m .file hm hfile
  induction steps generalizing here with
  | nil => rwa [follow_nil] at hway ⊢
  | cons step rest ih =>
    have hbelow := isPrefix_of_follow hfree' hup hway
    rw [List.mem_cons, not_or] at hup
    obtain ⟨hdir', hcases⟩ := follow_cons_cases hway
    have hdir : d.root.kindAt here = some .dir := by
      obtain ⟨further, rfl⟩ := hbelow
      apply Node.kindAt_of_append (m := further)
      · rintro rfl
        rw [List.append_nil, hdir'] at hfile'
        simp at hfile'
      · simpa [Node.kindAt] using congrArg Option.isSome hfile
    rcases hcases with ⟨rfl | rfl, hrest⟩ | ⟨rfl, -⟩ | ⟨n, kind, rfl, hlen, hk, hcases⟩
    · rw [follow_stay _ _ _ hdir]
      apply ih hup.2 hrest
    · rw [follow_slash _ _ _ hdir]
      apply ih hup.2 hrest
    · apply absurd rfl hup.1
    · rcases hcases with ⟨-, hrest⟩ | ⟨target, -, rfl, -⟩
      · rw [follow_name _ _ _ hdir, if_neg (by simp), if_neg hlen]
        obtain ⟨further, rfl⟩ := isPrefix_of_follow hfree' hup.2 hrest
        by_cases hfurther : further = []
        · rw [hfurther, List.append_nil] at hfile
          rw [hfile]
          apply ih hup.2 hrest
        · rw [Node.kindAt_of_append hfurther
            (by simpa [Node.kindAt] using congrArg Option.isSome hfile)]
          apply ih hup.2 hrest
      · apply absurd hk (hfree' _ target)

/-! ### Files that are to be made -/

/-- What the first step of a way to a file that is to be made does, where there are no links.  It
may be the last, to a name that no directory has. -/
theorem follow_making_cases {root : Node}
    (hfree : ∀ l target, root.kindAt l ≠ some (.link target)) {links : Nat} {here l : Location}
    {step : Step} {rest : List Step}
    (h : Disk.follow root .making links here (step :: rest) = .ok l) :
  root.kindAt here = some .dir
    ∧ ((step = .stay ∨ step = .slash) ∧ Disk.follow root .making links here rest = .ok l
      ∨ step = .up ∧ Disk.follow root .making links here.dropLast rest = .ok l
      ∨ ∃ n, step = .name n ∧ rest ≠ [.slash] ∧ ¬ nameLimit < (Text.bytes n).length
        ∧ (rest = [] ∧ l = here ++ [n] ∧ root.Writable l
          ∨ root.kindAt (here ++ [n]) = some .dir
            ∧ Disk.follow root .making links (here ++ [n]) rest = .ok l))
  := by
  by_cases hdir : root.kindAt here = some .dir
  · use hdir
    cases step with
    | stay =>
      rw [follow_stay _ _ _ hdir] at h
      left
      use .inl rfl, h
    | slash =>
      rw [follow_slash _ _ _ hdir] at h
      left
      use .inr rfl, h
    | up =>
      rw [follow_up _ _ _ hdir] at h
      right
      left
      use rfl, h
    | name n =>
      right
      right
      rw [follow_name _ _ _ hdir] at h
      split at h
      · simp at h
      rename_i hslash
      split at h
      · simp at h
      rename_i hlen
      use n, rfl, fun hrest => hslash ⟨rfl, hrest⟩, hlen
      cases hk : root.kindAt (here ++ [n]) with
      | none =>
        simp only [hk, true_and] at h
        split at h
        · rename_i hrest
          obtain rfl := Except.ok.inj h
          left
          use hrest, rfl
          left
          apply hk
        · simp at h
      | some kind =>
        simp only [hk] at h
        cases kind with
        | file =>
          cases rest with
          | nil =>
            rw [follow_nil] at h
            obtain rfl := Except.ok.inj h
            left
            use rfl, rfl
            right
            apply hk
          | cons step rest =>
            rw [follow_of_kindAt_ne _ _ _ (by simp [hk])] at h
            simp at h
        | dir =>
          right
          use rfl, h
        | link target => apply absurd hk (hfree _ target)
  · rw [follow_of_kindAt_ne _ _ _ hdir] at h
    simp at h

/-- The last step to a file, which need not be there if it is to be made. -/
theorem follow_last {root : Node} {purpose : Purpose} (links : Nat) {here : Location} {n : Name}
    (hdir : root.kindAt here = some .dir) (hlen : ¬ nameLimit < (Text.bytes n).length)
    (hk : root.kindAt (here ++ [n]) = some .file
      ∨ purpose = .making ∧ root.kindAt (here ++ [n]) = none) :
  Disk.follow root purpose links here [.name n] = .ok (here ++ [n])
  := by
  rw [follow_name _ _ _ hdir, if_neg (by simp), if_neg hlen]
  rcases hk with hk | ⟨rfl, hk⟩
  · simp [hk, follow_nil]
  · simp [hk]

/-- The way to a file that is to be made at a hidden location leads there on the other disk, where
the file is found if it is there. -/
theorem Keeps.follow_made (h : Keeps hidden d e) (hfree : d.LinkFree) {purpose : Purpose}
    {links : Nat} (links' : Nat) {here l : Location} {steps : List Step} (hl : hidden l)
    (hmade : purpose = .making ∨ e.root.kindAt l = some .file)
    (hway : Disk.follow d.root .making links here steps = .ok l) :
  Disk.follow e.root purpose links' here steps = .ok l
  := by
  induction steps generalizing here with
  | nil => rwa [follow_nil] at hway ⊢
  | cons step rest ih =>
    obtain ⟨hdir, hcases⟩ := follow_making_cases hfree hway
    obtain ⟨-, hdir'⟩ := h.kindAt_dir hdir
    rcases hcases with ⟨rfl | rfl, hrest⟩ | ⟨rfl, hrest⟩ | ⟨n, rfl, hslash, hlen, hcases⟩
    · rw [follow_stay _ _ _ hdir']
      apply ih hrest
    · rw [follow_slash _ _ _ hdir']
      apply ih hrest
    · rw [follow_up _ _ _ hdir']
      apply ih hrest
    · rcases hcases with ⟨rfl, rfl, -⟩ | ⟨hk, hrest⟩
      · apply follow_last links' hdir' hlen
        rcases hmade with rfl | hfile
        · apply (h.right _ hl).symm.imp id fun hnone => ⟨rfl, hnone⟩
        · left
          apply hfile
      · rw [follow_name _ _ _ hdir', if_neg (by simp [hslash]), if_neg hlen, (h.kindAt_dir hk).2]
        apply ih hrest

theorem Keeps.locate_made (h : Keeps hidden d e) (hfree : d.LinkFree) {purpose : Purpose}
    {path : Path} {l : Location} (hl : hidden l)
    (hmade : purpose = .making ∨ e.root.kindAt l = some .file)
    (hway : d.locate .making path = .ok l) :
  e.locate purpose path = .ok l
  := by
  obtain ⟨hnull, hne, hlen, hfollow⟩ := locate_eq_ok_iff.mp hway
  rw [← h.here] at hfollow
  apply locate_eq_ok_iff.mpr ⟨hnull, hne, hlen, h.follow_made hfree linkLimit hl hmade hfollow⟩

/-- A file that is to be made is made in a directory that is there. -/
theorem exists_above_of_follow_making {root : Node}
    (hfree : ∀ l target, root.kindAt l ≠ some (.link target)) {links : Nat} {here l : Location}
    {steps : List Step} (hhere : root.kindAt here = some .dir)
    (hl : root.kindAt l ≠ some .dir)
    (hway : Disk.follow root .making links here steps = .ok l) :
  ∃ above name, l = above ++ [name] ∧ root.kindAt above = some .dir
  := by
  induction steps generalizing here with
  | nil =>
    rw [follow_nil] at hway
    obtain rfl := Except.ok.inj hway
    apply absurd hhere hl
  | cons step rest ih =>
    obtain ⟨-, ⟨-, hrest⟩ | ⟨-, hrest⟩ | ⟨n, -, -, -, hcases⟩⟩ := follow_making_cases hfree hway
    · apply ih hhere hrest
    · apply ih (Node.kindAt_of_prefix (List.dropLast_prefix here) hhere) hrest
    · rcases hcases with ⟨-, rfl, -⟩ | ⟨hk, hrest⟩
      · use here, n, rfl, hhere
      · apply ih hk hrest

end

/-! ### Disks that differ in one file -/

/-- Two disks that are the same without the file at a location, which may be missing on one of
them. -/
structure AlikeBut (l : Location) (d e : Disk) : Prop where
  rest : d.root.removeAt l = e.root.removeAt l
  here : d.here = e.here
  left : d.root.Writable l
  right : e.root.Writable l
  file : d.root.kindAt l = some .file ∨ e.root.kindAt l = some .file

section

variable {d e : Disk} {l : Location}

theorem AlikeBut.symm (h : AlikeBut l d e) :
  AlikeBut l e d
  := ⟨h.rest.symm, h.here.symm, h.right, h.left, h.file.symm⟩

/-- Where a disk has a file or nothing, there is nothing further down. -/
theorem at?_below_eq_none {m : Location}
    (hl : d.root.Writable l) (hm : m ≠ l) (hbelow : l <+: m) :
  d.root.at? m = none
  := by
  obtain ⟨rest, rfl⟩ := hbelow
  apply Node.at?_append_of_kindAt_ne
  · apply hl.ne_dir
  · rintro rfl
    simp at hm

theorem keeps_of_eq (hhere : e.here = d.here)
    (hsame : ∀ m, m ≠ l → e.root.kindAt m = d.root.kindAt m ∧ e.root.bytesAt m = d.root.bytesAt m)
    (hleft : d.root.Writable l) (hright : e.root.Writable l) :
  Keeps (· = l) d e
  := by
  constructor
  · apply hhere
  · intro m kind hm hk
    rw [(hsame m hm).1, hk]
  · intro m bytes hm hbytes
    rw [(hsame m hm).2, hbytes]
  · intro m hm hk
    left
    apply (hsame m hm).1.trans hk
  · rintro m rfl
    apply hleft
  · rintro m rfl
    apply hright

theorem ne_nil_of_writable (hd : d.WellFormed) (hl : d.root.Writable l) :
  l ≠ []
  := by
  rintro rfl
  apply hl.ne_dir (Node.kindAt_of_prefix List.nil_prefix hd.here)

theorem AlikeBut.keeps (h : AlikeBut l d e) (hd : d.WellFormed) :
  Keeps (· = l) d e
  := by
  have hne := ne_nil_of_writable hd h.left
  apply keeps_of_eq h.here.symm _ h.left h.right
  intro m hm
  by_cases hbelow : l <+: m
  · simp [Node.kindAt, Node.bytesAt, at?_below_eq_none h.left hm hbelow,
      at?_below_eq_none h.right hm hbelow]
  · rw [← Node.kindAt_removeAt e.root hne hbelow, ← Node.bytesAt_removeAt e.root hne hbelow,
      ← h.rest, Node.kindAt_removeAt d.root hne hbelow, Node.bytesAt_removeAt d.root hne hbelow]
    simp

/-- Once the file is written, the disks are the same. -/
theorem AlikeBut.withBytes_eq (h : AlikeBut l d e) (hd : d.WellFormed) (he : e.WellFormed)
    (bytes : List UInt8) :
  d.withBytes l bytes = e.withBytes l bytes
  := by
  have hne := ne_nil_of_writable hd h.left
  rw [withBytes, withBytes, ← Node.putAt_removeAt hd.root hne, h.rest, h.here,
    Node.putAt_removeAt he.root hne]

theorem withBytes_withBytes (bytes bytes' : List UInt8) :
  (d.withBytes l bytes).withBytes l bytes' = d.withBytes l bytes'
  := by
  simp [withBytes, Node.putAt_putAt]

section

variable {above : Location} {name : Name} (hdir : d.root.kindAt above = some .dir)
  (hl : d.root.Writable (above ++ [name]))

include hdir hl

/-- To put a file, or a directory with nothing in it, where there is no directory changes nothing
elsewhere. -/
theorem eq_elsewhere_putAt (new : Node) (hnew : ∀ m, m ≠ [] → new.at? m = none) {m : Location}
    (hm : m ≠ above ++ [name]) :
  (d.root.putAt new (above ++ [name])).kindAt m = d.root.kindAt m
    ∧ (d.root.putAt new (above ++ [name])).bytesAt m = d.root.bytesAt m
  := by
  by_cases hbelow : above ++ [name] <+: m
  · have hnone := at?_below_eq_none hl hm hbelow
    obtain ⟨rest, rfl⟩ := hbelow
    have hrest : rest ≠ [] := by
      rintro rfl
      simp at hm
    have hat : (d.root.putAt new (above ++ [name])).at? (above ++ [name] ++ rest) = none := by
      rw [Node.at?_putAt_append new hdir, hnew rest hrest]
    simp only [Node.kindAt, Node.bytesAt, hat, hnone, and_self]
  · use Node.kindAt_putAt new hdir hbelow
    apply Node.bytesAt_putAt_of_not_below new hdir hbelow

theorem keeps_withBytes (bytes : List UInt8) :
  Keeps (· = above ++ [name]) d (d.withBytes (above ++ [name]) bytes)
    ∧ Keeps (· = above ++ [name]) (d.withBytes (above ++ [name]) bytes) d
  := by
  have hsame (m : Location) (hm : m ≠ above ++ [name]) :=
    eq_elsewhere_putAt hdir hl (.file bytes) (fun m hne => by cases m <;> simp_all) hm
  have hself := Node.kindAt_putAt_self (.file bytes) name hdir
  constructor
  · exact keeps_of_eq rfl hsame hl (.inr hself)
  · exact keeps_of_eq rfl (fun m hm => ⟨(hsame m hm).1.symm, (hsame m hm).2.symm⟩) (.inr hself) hl

end

end

end Disk

end Compendium
