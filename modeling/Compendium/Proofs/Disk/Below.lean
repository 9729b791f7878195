import Compendium.Proofs.Disk.WellFormed

/-!
# Looking up what is below a directory

The path that leads down from a directory along names is looked up by the steps to the directory
and then the names.  So it leads to where the names lead in the tree, unless it is too long; only
a link can lead elsewhere.
-/

namespace Compendium.Disk

/-! ### One way after another -/

/-- What is said of the steps of a way: they lead to a place from which all further steps are
taken, or they fail whatever steps follow. -/
def Splits (root : Node) (links : Nat) (here : Location) (steps : List Step) : Prop :=
  (∃ l links', follow root .content links here steps = .ok l
    ∧ ∀ further, follow root .content links here (steps ++ further)
        = follow root .content links' l further)
  ∨ ∃ fault, ∀ further, follow root .content links here (steps ++ further) = .error fault

/-- A step that is taken leaves the splitting to the rest of the way. -/
theorem Splits.of_step {root : Node} {links links' : Nat} {here there : Location} {step : Step}
    {rest rest' : List Step}
    (h : ∀ further, follow root .content links here (step :: (rest ++ further))
      = follow root .content links' there (rest' ++ further))
    (hrest : Splits root links' there rest') :
  Splits root links here (step :: rest)
  := by
  have hnil := h []
  rw [List.append_nil, List.append_nil] at hnil
  rcases hrest with ⟨l, links'', hl, hfurther⟩ | ⟨fault, hfault⟩
  · left
    use l, links''
    constructor
    · rw [hnil, hl]
    · intro further
      rw [List.cons_append, h, hfurther]
  · right
    use fault
    intro further
    rw [List.cons_append, h, hfault]

/-- Where the entry itself is not asked for, every way splits. -/
theorem splits (root : Node) :
  ∀ (links : Nat) (here : Location) (steps : List Step), Splits root links here steps
  | links, here, [] => by
    left
    use here, links
    simp [follow_nil]
  | links, here, step :: rest => by
    by_cases hdir : root.kindAt here = some .dir
    · cases step with
      | stay =>
        apply Splits.of_step (fun _ => follow_stay _ _ _ hdir) (splits root links here rest)
      | slash =>
        apply Splits.of_step (fun _ => follow_slash _ _ _ hdir) (splits root links here rest)
      | up =>
        apply Splits.of_step (fun _ => follow_up _ _ _ hdir)
          (splits root links here.dropLast rest)
      | name n =>
        have hname := fun further => follow_name .content links (rest ++ further) hdir n
        simp only [reduceCtorEq, false_and, if_false] at hname
        by_cases hlen : nameLimit < (Text.bytes n).length
        · right
          use .nameTooLong
          intro further
          rw [List.cons_append, hname, if_pos hlen]
        simp only [if_neg hlen] at hname
        cases hk : root.kindAt (here ++ [n]) with
        | none =>
          right
          use .notFound
          intro further
          rw [List.cons_append, hname, hk]
        | some kind =>
          simp only [hk] at hname
          cases kind with
          | file => apply Splits.of_step hname (splits root links (here ++ [n]) rest)
          | dir => apply Splits.of_step hname (splits root links (here ++ [n]) rest)
          | link target =>
            cases links with
            | zero =>
              right
              use .linkLoop
              intro further
              rw [List.cons_append, hname]
            | succ links =>
              apply Splits.of_step ?_
                (splits root links (start target here) (Disk.steps target ++ rest))
              intro further
              rw [hname, List.append_assoc]
    · right
      use .notDirectory
      intro further
      rw [List.cons_append, follow_of_kindAt_ne _ _ _ hdir]
termination_by links _ steps => (links, steps.length)

section

variable {root : Node} {links : Nat} {here l : Location} {before after : List Step}

/-- After a way that leads somewhere, further steps are taken from there. -/
theorem follow_further (h : follow root .content links here before = .ok l) :
  ∃ links', ∀ further, follow root .content links here (before ++ further)
    = follow root .content links' l further
  := by
  rcases splits root links here before with ⟨there, links', hthere, hfurther⟩ | ⟨fault, hfault⟩
  · obtain rfl := Except.ok.inj (hthere.symm.trans h)
    use links', hfurther
  · have hnil := hfault []
    rw [List.append_nil, h] at hnil
    cases hnil

/-- A way that leads somewhere leads over the end of its first part. -/
theorem follow_between (h : follow root .content links here (before ++ after) = .ok l) :
  ∃ there links', follow root .content links here before = .ok there
    ∧ follow root .content links' there after = .ok l
  := by
  rcases splits root links here before with ⟨there, links', hthere, hfurther⟩ | ⟨fault, hfault⟩
  · use there, links', hthere
    apply (hfurther after).symm.trans h
  · cases (hfault after).symm.trans h

/-- A way that fails fails whatever steps follow. -/
theorem follow_fault {fault : AccessFault}
    (h : follow root .content links here before = .error fault) (further : List Step) :
  follow root .content links here (before ++ further) = .error fault
  := by
  rcases splits root links here before with ⟨there, links', hthere, -⟩ | ⟨fault', hfault⟩
  · cases hthere.symm.trans h
  · have hnil := hfault []
    rw [List.append_nil, h] at hnil
    rw [hfault, hnil]

end

/-! ### Down from a directory -/

/-- The names that lead to a node are a way to it, unless the node is a link. -/
theorem follow_names {root node : Node} {here : Location} {names : List Name} (links : Nat)
    (h : root.at? (here ++ names) = some node) (hlink : ∀ target, node ≠ .link target)
    (hv : ∀ n ∈ names, Name.Valid n) :
  follow root .content links here (names.map .name) = .ok (here ++ names)
  := by
  induction names generalizing here with
  | nil => simp [follow_nil]
  | cons name names ih =>
    have hdir : root.kindAt here = some .dir :=
      Node.kindAt_of_append (List.cons_ne_nil name names) (by simp [h])
    have hsplit : here ++ name :: names = (here ++ [name]) ++ names := by simp
    have hlen : ¬ nameLimit < (Text.bytes name).length :=
      Nat.not_lt.mpr (hv name List.mem_cons_self).length_le
    rw [List.map_cons, follow_name _ _ _ hdir, if_neg (by simp), if_neg hlen]
    rw [hsplit] at h ⊢
    have ih := ih h fun n hn => hv n (List.mem_cons_of_mem _ hn)
    have hk : ∃ kind, root.kindAt (here ++ [name]) = some kind
        ∧ ∀ target, kind ≠ .link target := by
      by_cases hn : names = []
      · subst hn
        rw [List.append_nil] at h
        use node.kind
        cases node with
        | file => simp [Node.kindAt, h, Node.kind]
        | dir => simp [Node.kindAt, h, Node.kind]
        | link target => apply absurd rfl (hlink target)
      · have hk := Node.kindAt_of_append (l := here ++ [name]) hn (by rw [h]; rfl)
        use .dir, hk
        simp
    obtain ⟨kind, hk, hkl⟩ := hk
    rw [hk]
    cases kind with
    | file => apply ih
    | dir => apply ih
    | link target => apply absurd rfl (hkl target)

/-- Names lead to no other place than the tree says, if there are no links below. -/
theorem eq_append_of_follow_names {root : Node} {here l : Location} {names : List Name}
    {links : Nat} (hfree : ∀ below target, root.kindAt (here ++ below) ≠ some (.link target))
    (h : follow root .content links here (names.map .name) = .ok l) :
  l = here ++ names
  := by
  induction names generalizing here with
  | nil =>
    rw [List.map_nil, follow_nil] at h
    simpa using (Except.ok.inj h).symm
  | cons name names ih =>
    have hbelow : ∀ below target, root.kindAt (here ++ [name] ++ below) ≠ some (.link target) := by
      intro below
      rw [List.append_assoc]
      apply hfree
    rw [List.map_cons] at h
    by_cases hdir : root.kindAt here = some .dir
    · rw [follow_name _ _ _ hdir, if_neg (by simp)] at h
      split at h
      · simp at h
      cases hk : root.kindAt (here ++ [name]) with
      | none => simp [hk] at h
      | some kind =>
        rw [hk] at h
        cases kind with
        | link target => apply absurd hk (hfree _ target)
        | file => simpa using ih hbelow h
        | dir => simpa using ih hbelow h
    · rw [follow_of_kindAt_ne _ _ _ hdir] at h
      simp at h

/-- What a path has to be to be looked up at all. -/
theorem locate_eq_ok_iff {d : Disk} {purpose : Purpose} {path : Path} {l : Location} :
  d.locate purpose path = .ok l
    ↔ '\x00' ∉ path.text.toList ∧ path.text.toList ≠ []
      ∧ (Text.bytes path.text.toList).length ≤ pathLimit
      ∧ follow d.root purpose linkLimit (start path.text.toList d.here)
          (steps path.text.toList) = .ok l
  := by
  rw [locate]
  split
  · simp_all
  split
  · simp_all
  split
  · rename_i hlen
    simp only [reduceCtorEq, false_iff]
    rintro ⟨-, -, hle, -⟩
    apply absurd hle (Nat.not_le.mpr hlen)
  · simp_all

/-- The way to a directory is the way to where its path leads before the slash at its end. -/
theorem follow_pieces {root : Node} {links : Nat} {here l : Location} {text : List Char}
    (h : follow root .content links here (steps text) = .ok l)
    (hdir : root.kindAt l = some .dir) :
  ∃ links', ∀ further,
    follow root .content links here ((Text.pieces '/' text).filterMap step? ++ further)
      = follow root .content links' l further
  := by
  rw [steps] at h
  rcases splits root links here ((Text.pieces '/' text).filterMap step?)
    with ⟨l', links', hl, hfurther⟩ | ⟨fault, hfault⟩
  · suffices l' = l by
      subst this
      use links'
    rw [hfurther] at h
    split at h
    · by_cases hl' : root.kindAt l' = some .dir
      · rw [follow_slash _ _ _ hl', follow_nil] at h
        apply Except.ok.inj h
      · rw [follow_of_kindAt_ne _ _ _ hl'] at h
        simp at h
    · rw [follow_nil] at h
      apply Except.ok.inj h
  · rw [hfault] at h
    simp at h

/-- A path that leads down from a directory is looked up from there by its names, unless it is
too long. -/
theorem locate_down {d : Disk} {root : Path} {l : Location}
    (h : d.locate .content root = .ok l) (hdir : d.root.kindAt l = some .dir) :
  ∃ links, ∀ names, names ≠ [] → (∀ n ∈ names, Name.Valid n) →
    d.locate .content (root.down names) =
      if pathLimit < (Text.bytes (root.down names).text.toList).length then .error .nameTooLong
      else follow d.root .content links l (names.map .name)
  := by
  obtain ⟨hnull, hne, -, hfollow⟩ := locate_eq_ok_iff.mp h
  obtain ⟨links, hfurther⟩ := follow_pieces hfollow hdir
  use links
  intro names hn hv
  have hnull' : (root.down names).text.toList.contains '\x00' = false := by
    simpa using Path.null_notMem_down hv hnull
  have hne' : (root.down names).text.toList ≠ [] :=
    fun hnil => hne (List.prefix_nil.mp (hnil ▸ Path.isPrefix_text_down hv root))
  have hstart : start (root.down names).text.toList d.here = start root.text.toList d.here := by
    rw [start, start, Path.head?_text_down hv hne]
  rw [locate, hnull', Path.steps_down hv root hn, hstart, hfurther]
  simp [hne']

/-! ### What is found below -/

section

variable {d : Disk} {root : Path} {l : Location}
  (h : d.locate .content root = .ok l) (hdir : d.root.kindAt l = some .dir)

include h hdir

/-- Below a directory a path leads to where the tree says, unless it is too long or ends at a
link. -/
theorem locate_down_of_at? (hd : d.WellFormed) {names : List Name} {node : Node}
    (hat : d.root.at? (l ++ names) = some node) (hlink : ∀ target, node ≠ .link target)
    (hlen : (Text.bytes (root.down names).text.toList).length ≤ pathLimit) :
  d.locate .content (root.down names) = .ok (l ++ names)
  := by
  by_cases hn : names = []
  · subst hn
    simpa using h
  · have hv : ∀ n ∈ names, Name.Valid n :=
      fun n hmem => (hd.root.at? hat).2 n (List.mem_append_right l hmem)
    obtain ⟨links, hlocate⟩ := locate_down h hdir
    rw [hlocate names hn hv, if_neg (Nat.not_lt.mpr hlen), follow_names links hat hlink hv]

/-- Without links, a path that leads down leads nowhere else. -/
theorem eq_append_of_locate_down (hfree : d.LinkFreeBelow l) {names : List Name} {l' : Location}
    (hv : ∀ n ∈ names, Name.Valid n) (hl : d.locate .content (root.down names) = .ok l') :
  l' = l ++ names
  := by
  by_cases hn : names = []
  · subst hn
    rw [Path.down_nil, h] at hl
    simpa using (Except.ok.inj hl).symm
  · obtain ⟨links, hlocate⟩ := locate_down h hdir
    rw [hlocate names hn hv] at hl
    split at hl
    · simp at hl
    · apply eq_append_of_follow_names hfree hl

end

/-! ### Files -/

theorem node?_eq_ok_iff {d : Disk} {path : Path} {node : Node} :
  d.node? path = .ok node ↔ ∃ l, d.locate .content path = .ok l ∧ d.root.at? l = some node
  := by
  rw [node?]
  cases hl : d.locate .content path with
  | error fault => simp [bind, Except.bind]
  | ok l =>
    cases hn : d.root.at? l with
    | none => simp [bind, Except.bind, hn, throw, throwThe, MonadExceptOf.throw]
    | some node => simp [bind, Except.bind, hn, pure, Except.pure]

/-- A file can be read at a path if the path leads to it. -/
theorem read_eq_ok_iff {d : Disk} {path : Path} {bytes : List UInt8} :
  d.read path = .ok bytes
    ↔ ∃ l, d.locate .content path = .ok l ∧ d.root.at? l = some (.file bytes)
  := by
  rw [read, ← node?_eq_ok_iff]
  cases hn : d.node? path with
  | error fault => simp [bind, Except.bind]
  | ok node =>
    cases node <;> simp [bind, Except.bind, pure, Except.pure, throw, throwThe,
      MonadExceptOf.throw]

theorem read_of_locate {d : Disk} {path : Path} {fault : AccessFault}
    (h : d.locate .content path = .error fault) :
  d.read path = .error fault
  := by
  rw [read, node?, h]
  rfl

/-- A path leads to a file exactly if that can be read. -/
theorem isFile_iff {d : Disk} {path : Path} :
  d.isFile path = true ↔ ∃ bytes, d.read path = .ok bytes
  := by
  simp only [read_eq_ok_iff, isFile]
  cases hn : d.node? path with
  | error fault =>
    simp only [Except.toOption, Option.any_none, Bool.false_eq_true, false_iff]
    rintro ⟨bytes, hbytes⟩
    rw [← node?_eq_ok_iff, hn] at hbytes
    simp at hbytes
  | ok node =>
    have hfile : ∀ bytes, (∃ l, d.locate .content path = .ok l
        ∧ d.root.at? l = some (.file bytes)) ↔ node = .file bytes := by
      intro bytes
      rw [← node?_eq_ok_iff, hn, Except.ok.injEq]
    simp only [hfile, Except.toOption, Option.any_some]
    cases node <;> simp [Node.isFile]

/-- Where a path leads that leads to a file. -/
theorem exists_of_isFile {d : Disk} {path : Path} (h : d.isFile path = true) :
  ∃ l bytes, d.locate .content path = .ok l ∧ d.root.at? l = some (.file bytes)
  := by
  obtain ⟨bytes, hread⟩ := isFile_iff.mp h
  obtain ⟨l, hl, hat⟩ := read_eq_ok_iff.mp hread
  use l, bytes

theorem isDir_of_node? {d : Disk} {path : Path} {entries : Entries}
    (h : d.node? path = .ok (.dir entries)) :
  d.isDir path = true
  := by
  rw [isDir, h]
  rfl

theorem isDir_eq_false_of_isFile {d : Disk} {path : Path} (h : d.isFile path = true) :
  d.isDir path = false
  := by
  obtain ⟨l, bytes, hl, hat⟩ := exists_of_isFile h
  rw [isDir, node?_eq_ok_iff.mpr ⟨l, hl, hat⟩]
  rfl

/-- A path that starts with a name which is not there leads to no file. -/
theorem isFile_eq_false_of_head? {d : Disk} {path : Path} {n : Name}
    (hdir : d.root.kindAt (start path.text.toList d.here) = some .dir)
    (hhead : (steps path.text.toList).head? = some (.name n))
    (hmissing : d.root.kindAt (start path.text.toList d.here ++ [n]) = none) :
  d.isFile path = false
  := by
  apply Bool.eq_false_iff.mpr
  intro hfile
  obtain ⟨l, bytes, hl, -⟩ := exists_of_isFile hfile
  obtain ⟨-, -, -, hway⟩ := locate_eq_ok_iff.mp hl
  obtain ⟨rest, hsteps⟩ := List.head?_eq_some_iff.mp hhead
  rw [hsteps, follow_name _ _ _ hdir, hmissing, if_neg (by simp)] at hway
  split at hway <;> simp at hway

theorem canonical_eq_ok_iff {d : Disk} {path key : Path} :
  d.canonical path = .ok key ↔ ∃ l, d.locate .content path = .ok l ∧ pathOf l = key
  := by
  rw [canonical]
  cases d.locate .content path <;> simp [Except.map]

theorem toOption_canonical_iff {d : Disk} {path key : Path} :
  (d.canonical path).toOption = some key
    ↔ ∃ l, d.locate .content path = .ok l ∧ pathOf l = key
  := by
  rw [← canonical_eq_ok_iff]
  cases d.canonical path <;> simp [Except.toOption]

/-- What the first step of a way that leads somewhere does: it stays, goes up, goes on to a name,
or follows a link. -/
theorem follow_cons_cases {root : Node} {links : Nat} {here l : Location} {step : Step}
    {rest : List Step} (h : follow root .content links here (step :: rest) = .ok l) :
  root.kindAt here = some .dir
    ∧ ((step = .stay ∨ step = .slash) ∧ follow root .content links here rest = .ok l
      ∨ step = .up ∧ follow root .content links here.dropLast rest = .ok l
      ∨ ∃ n kind, step = .name n ∧ ¬ nameLimit < (Text.bytes n).length
        ∧ root.kindAt (here ++ [n]) = some kind
        ∧ ((kind = .file ∨ kind = .dir)
            ∧ follow root .content links (here ++ [n]) rest = .ok l
          ∨ ∃ target links', kind = .link target ∧ links = links' + 1
            ∧ follow root .content links' (start target here) (steps target ++ rest) = .ok l))
  := by
  by_cases hdir : root.kindAt here = some .dir
  · use hdir
    cases step with
    | stay =>
      rw [follow_stay _ _ _ hdir] at h
      left
      use .inl rfl, h
    | slash =>
      rw [follow_slash _ _ _ hdir] at h
      left
      use .inr rfl, h
    | up =>
      rw [follow_up _ _ _ hdir] at h
      right
      left
      use rfl, h
    | name n =>
      right
      right
      rw [follow_name _ _ _ hdir] at h
      simp only [reduceCtorEq, false_and, if_false] at h
      split at h
      · simp at h
      rename_i hlen
      cases hk : root.kindAt (here ++ [n]) with
      | none => simp [hk] at h
      | some kind =>
        use n, kind, rfl, hlen, hk
        simp only [hk] at h
        cases kind with
        | file =>
          left
          use .inl rfl, h
        | dir =>
          left
          use .inr rfl, h
        | link target =>
          right
          cases links with
          | zero => simp at h
          | succ links => use target, links
  · rw [follow_of_kindAt_ne _ _ _ hdir] at h
    simp at h

/-- A way with a name at its end leads to an entry of a directory that is there, where there are no
links. -/
theorem exists_above_of_follow {root : Node}
    (hfree : ∀ l target, root.kindAt l ≠ some (.link target)) {links : Nat} {here l : Location}
    {before : List Step} {n : Name}
    (h : follow root .content links here (before ++ [.name n]) = .ok l) :
  ∃ above, follow root .content links here before = .ok above ∧ root.kindAt above = some .dir
    ∧ (Text.bytes n).length ≤ nameLimit ∧ l = above ++ [n]
  := by
  obtain ⟨above, links', habove, hlast⟩ := follow_between h
  use above, habove
  obtain ⟨hdir, ⟨hstep | hstep, -⟩ | ⟨hstep, -⟩ | ⟨_, kind, hstep, hlen, hk, hcases⟩⟩ :=
    follow_cons_cases hlast
  · simp at hstep
  · simp at hstep
  · simp at hstep
  · obtain rfl := Step.name.inj hstep
    use hdir, Nat.le_of_not_lt hlen
    rcases hcases with ⟨-, hend⟩ | ⟨target, -, rfl, -⟩
    · rw [follow_nil] at hend
      apply (Except.ok.inj hend).symm
    · apply absurd hk (hfree _ target)

/-- A way from what is there leads to what is there. -/
theorem isSome_of_follow {root : Node} :
  ∀ {links : Nat} {here l : Location} {steps : List Step}, (root.at? here).isSome = true →
    follow root .content links here steps = .ok l → (root.at? l).isSome = true
  | links, here, l, [], hhere, h => by
    rw [follow_nil] at h
    obtain rfl := Except.ok.inj h
    apply hhere
  | links, here, l, step :: rest, hhere, h => by
    obtain ⟨-, ⟨-, hrest⟩ | ⟨-, hrest⟩ | ⟨n, kind, -, -, hk, hcases⟩⟩ := follow_cons_cases h
    · apply isSome_of_follow hhere hrest
    · apply isSome_of_follow _ hrest
      by_cases hn : here = []
      · simp [hn]
      · rw [← List.dropLast_concat_getLast hn] at hhere
        have habove := Node.kindAt_of_append (List.cons_ne_nil _ _) hhere
        simpa [Node.kindAt] using congrArg Option.isSome habove
    · have hthere : (root.at? (here ++ [n])).isSome = true := by
        simpa [Node.kindAt] using congrArg Option.isSome hk
      obtain ⟨-, hrest⟩ | ⟨target, links', -, rfl, hrest⟩ := hcases
      · apply isSome_of_follow hthere hrest
      · apply isSome_of_follow _ hrest
        rw [start]
        split
        · simp
        · apply hhere
termination_by links _ _ steps => (links, steps.length)

/-- A way that leads somewhere leads to an entry. -/
theorem exists_follow_entry {root : Node} :
  ∀ {links : Nat} {here l : Location} {steps : List Step},
    follow root .content links here steps = .ok l →
      ∃ l', follow root .entry links here steps = .ok l'
  | links, here, l, [], _ => by
    use here
    rw [follow_nil]
  | links, here, l, step :: rest, h => by
    obtain ⟨hdir, ⟨rfl | rfl, hrest⟩ | ⟨rfl, hrest⟩ | ⟨n, kind, rfl, hlen, hk, hcases⟩⟩ :=
      follow_cons_cases h
    · rw [follow_stay _ _ _ hdir]
      apply exists_follow_entry hrest
    · rw [follow_slash _ _ _ hdir]
      apply exists_follow_entry hrest
    · rw [follow_up _ _ _ hdir]
      apply exists_follow_entry hrest
    · rw [follow_name _ _ _ hdir, if_neg hlen, hk]
      simp only [reduceCtorEq, false_and, if_false, true_and]
      obtain ⟨rfl | rfl, hrest⟩ | ⟨target, links', rfl, rfl, hrest⟩ := hcases
      · apply exists_follow_entry hrest
      · apply exists_follow_entry hrest
      · dsimp only
        split
        · use here ++ [n]
        · apply exists_follow_entry hrest
termination_by links _ _ steps => (links, steps.length)

/-- What a path leads to is an entry of some directory. -/
theorem exists_locate_entry {d : Disk} {path : Path} {l : Location}
    (h : d.locate .content path = .ok l) :
  ∃ l', d.locate .entry path = .ok l'
  := by
  obtain ⟨hnull, hne, hlen, hfollow⟩ := locate_eq_ok_iff.mp h
  obtain ⟨l', hl'⟩ := exists_follow_entry hfollow
  use l'
  apply locate_eq_ok_iff.mpr ⟨hnull, hne, hlen, hl'⟩

/-- On a well-formed disk a path leads to what is there, along valid names. -/
theorem WellFormed.exists_of_locate {d : Disk} (hd : d.WellFormed) {path : Path} {l : Location}
    (h : d.locate .content path = .ok l) :
  ∃ node, d.root.at? l = some node ∧ ∀ n ∈ l, Name.Valid n
  := by
  obtain ⟨-, -, -, hfollow⟩ := locate_eq_ok_iff.mp h
  have hstart : (d.root.at? (start path.text.toList d.here)).isSome = true := by
    rw [start]
    split
    · simp
    · simpa [Node.kindAt] using congrArg Option.isSome hd.here
  obtain ⟨node, hnode⟩ := Option.isSome_iff_exists.mp (isSome_of_follow hstart hfollow)
  use node, hnode
  apply (hd.root.at? hnode).2

/-- Two paths lead to the same file if their absolute paths have the same parts. -/
theorem WellFormed.read_eq_of_same {d : Disk} (hd : d.WellFormed) {path path' key key' : Path}
    (h : d.canonical path = .ok key) (h' : d.canonical path' = .ok key')
    (hsame : key.same key' = true) :
  d.read path = d.read path'
  := by
  obtain ⟨l, hl, rfl⟩ := canonical_eq_ok_iff.mp h
  obtain ⟨l', hl', rfl⟩ := canonical_eq_ok_iff.mp h'
  obtain ⟨-, -, hv⟩ := hd.exists_of_locate hl
  obtain ⟨-, -, hv'⟩ := hd.exists_of_locate hl'
  obtain rfl := (same_pathOf_iff hv hv').mp hsame
  rw [read, node?, hl, read, node?, hl']

/-! ### Below a directory, without links -/

section

variable {d : Disk} {root : Path} {l : Location}
  (h : d.locate .content root = .ok l) (hdir : d.root.kindAt l = some .dir)

include h hdir

/-- Without links, a path down to what is there leads there, unless it is too long. -/
theorem LinkFreeBelow.locate_down (hfree : d.LinkFreeBelow l) (hd : d.WellFormed)
    {names : List Name} {node : Node} (hat : d.root.at? (l ++ names) = some node) :
  d.locate .content (root.down names) =
    if pathLimit < (Text.bytes (root.down names).text.toList).length then .error .nameTooLong
    else .ok (l ++ names)
  := by
  have hv : ∀ n ∈ names, Name.Valid n :=
    fun n hmem => (hd.root.at? hat).2 n (List.mem_append_right l hmem)
  have hlink : ∀ target, node ≠ .link target := by
    rintro target rfl
    apply hfree names target
    rw [Node.kindAt, hat]
    rfl
  by_cases hn : names = []
  · subst hn
    obtain ⟨-, -, hlen, -⟩ := locate_eq_ok_iff.mp h
    rw [Path.down_nil, if_neg (Nat.not_lt.mpr hlen), h, List.append_nil]
  · obtain ⟨links, hlocate⟩ := Disk.locate_down h hdir
    rw [hlocate names hn hv, follow_names links hat hlink hv]

/-- Without links, a path down leads to a file exactly if there is one, and the path is not too
long. -/
theorem LinkFreeBelow.isFile_down_iff (hfree : d.LinkFreeBelow l) (hd : d.WellFormed)
    {names : List Name} (hv : ∀ n ∈ names, Name.Valid n) :
  d.isFile (root.down names) = true
    ↔ (Text.bytes (root.down names).text.toList).length ≤ pathLimit
      ∧ d.root.kindAt (l ++ names) = some .file
  := by
  constructor
  · intro hfile
    obtain ⟨l', bytes, hl', hat⟩ := exists_of_isFile hfile
    obtain rfl := eq_append_of_locate_down h hdir hfree hv hl'
    obtain ⟨-, -, hlen, -⟩ := locate_eq_ok_iff.mp hl'
    use hlen
    apply Node.kindAt_eq_file_iff.mpr ⟨bytes, hat⟩
  · rintro ⟨hlen, hkind⟩
    obtain ⟨bytes, hat⟩ := Node.kindAt_eq_file_iff.mp hkind
    have hlocate := hfree.locate_down h hdir hd hat
    rw [if_neg (Nat.not_lt.mpr hlen)] at hlocate
    apply isFile_iff.mpr ⟨bytes, read_eq_ok_iff.mpr ⟨_, hlocate, hat⟩⟩

theorem LinkFree.locate_down (hfree : d.LinkFree) (hd : d.WellFormed) {names : List Name}
    {node : Node} (hat : d.root.at? (l ++ names) = some node) :
  d.locate .content (root.down names) =
    if pathLimit < (Text.bytes (root.down names).text.toList).length then .error .nameTooLong
    else .ok (l ++ names)
  := (hfree.below l).locate_down h hdir hd hat

theorem LinkFree.isFile_down_iff (hfree : d.LinkFree) (hd : d.WellFormed) {names : List Name}
    (hv : ∀ n ∈ names, Name.Valid n) :
  d.isFile (root.down names) = true
    ↔ (Text.bytes (root.down names).text.toList).length ≤ pathLimit
      ∧ d.root.kindAt (l ++ names) = some .file
  := (hfree.below l).isFile_down_iff h hdir hd hv

end

end Compendium.Disk
