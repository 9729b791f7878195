import Compendium.Proofs.Aggregate
import Compendium.Proofs.Scan.Closure
import Compendium.Proofs.Scan.Lockstep
import Compendium.Proofs.Scan.Order

/-!
# Scans that ask a judge

A scan leaves each test of a path to a judge, who may tell events, change the state or fail.  A
judge who answers as the patterns do wherever a scan asks leads to the same scan as the patterns,
whatever the answers elsewhere are; so what a scan does depends on no other tests than the ones
that `Tested` describes.
-/

namespace Compendium.Scan

/-! ### What is tested -/

/-- What a directory can contribute to the context in it, on the disk as it is seen while the
document is on its way. -/
def Contributes (d : Disk) (directory : Path) (own : Context) : Prop :=
  ∃ (k : Sink) (r : Resolver), (Resolver.contribution (k.seenDisk d) directory r).result = .ok own

/-- The contexts that can apply in the directory that names lead to from a root: the patterns of
the scope are declared at the root, and each directory on the way down adds its own. -/
inductive Applies (d : Disk) (scope : Scope) (root : Path) : List Name → Context → Prop
  | root {above own : Context} (habove : scope.contextAt root = .ok above)
    (hown : Contributes d root own) : Applies d scope root [] (above.extended own)
  | further {names : List Name} {name : Name} {context own : Context}
    (h : Applies d scope root names context) (hname : name.Valid)
    (hown : Contributes d (root.down (names ++ [name])) own) :
    Applies d scope root (names ++ [name]) (context.extended own)

/-- The tests that a scan of path arguments can make: entries of directories below a root in the
context there, and files that are asked for in the context of the directory that holds them. -/
inductive Tested (d : Disk) (scope : Scope) (paths : List Path) : PatternSet → Path → Prop
  | entry {root : Path} {names : List Name} {name : Name} {context : Context}
    (hroot : root ∈ paths) (hdir : d.isDir root = true) (h : Applies d scope root names context)
    (hname : name.Valid) :
    Tested d scope paths context.patterns (root.down (names ++ [name]))
  | argument {path : Path} {above : Context} (hpath : path ∈ paths)
    (hfile : d.isFile path = true)
    (habove : scope.contextAt (path.parent?.getD ⟨""⟩) = .ok above) :
    Tested d scope paths above.patterns path

/-- Whether a judge answers as the patterns do wherever a scan asks. -/
def Judge.Agrees (judge : Judge) (d : Disk) (scope : Scope) (paths : List Path) : Prop :=
  ∀ patterns path isDir, Tested d scope paths patterns path →
    judge patterns path isDir = pure (patterns.ignoredBy? path isDir)

section

variable {judge : Judge} {d : Disk} {scope : Scope} {paths : List Path}
variable (hj : judge.Agrees d scope paths)

/-- What a directory is given by a resolver it can have. -/
theorem exists_contributes {k : Sink} {above context : Context} {path : Path} {s : Scan}
    (h : (resolving (Resolver.extend (k.seenDisk d) above path) s).result = .ok context) :
  ∃ own, Contributes d path own ∧ context = above.extended own
  := by
  change (Resolver.extend (k.seenDisk d) above path s.resolver).result = .ok context at h
  rw [Resolver.extend] at h
  cases hown : (Resolver.contribution (k.seenDisk d) path s.resolver).result with
  | error failure =>
    rw [Action.bind_of_error hown] at h
    simp at h
  | ok own =>
    rw [Action.bind_of_ok hown] at h
    obtain rfl := Except.ok.inj h
    exact ⟨own, ⟨k, s.resolver, hown⟩, rfl⟩

include hj

/-- Where a judge agrees it is as if nobody had been asked. -/
theorem judge_bind {α : Type} {patterns : PatternSet} {path : Path}
    (h : Tested d scope paths patterns path) (isDir : Bool)
    (f : Option ScopedPattern → Action Scan α) :
  judge patterns path isDir >>= f = f (patterns.ignoredBy? path isDir)
  := by
  rw [hj patterns path isDir h]
  rfl

theorem visitFile_eq {context : Context} {path : Path}
    (h : Tested d scope paths context.patterns path) (relative : Path) (node : Node) :
  visitFile judge d context path relative node = visitFile byPatterns d context path relative node
  := by rw [visitFile, visitFile, judge_bind hj h, byPatterns_bind]

section

variable {root : Path} (hroot : root ∈ paths) (hdir : d.isDir root = true)

include hroot hdir

theorem visitFiles_eq {names : List Name} {context : Context}
    (hcontext : Applies d scope root names context) (down : List Name) {entries : Entries}
    (hwf : entries.WellFormed) :
  visitFiles judge d context (root.down names) down entries
    = visitFiles byPatterns d context (root.down names) down entries
  := by
  induction entries using Entries.induction_along with
  | nil => rfl
  | cons name node rest ih =>
    rw [Entries.WellFormed] at hwf
    have htested := Tested.entry hroot hdir hcontext hwf.1
    rw [Path.down_concat] at htested
    rw [visitFiles, visitFiles, ih hwf.2.2.2, visitFile_eq hj htested]

/-- From a directory down a judge is only asked what is tested. -/
theorem visitDirs_eq {names : List Name} {context : Context}
    (hcontext : Applies d scope root names context) (down : List Name) {entries : Entries}
    (hwf : entries.WellFormed) :
  visitDirs judge d context (root.down names) down entries
    = visitDirs byPatterns d context (root.down names) down entries
  := by
  induction entries using Entries.induction_below generalizing context names down with
  | nil => rfl
  | other name node rest hnode ih =>
    rw [Entries.WellFormed] at hwf
    cases node with
    | dir => simp [Node.isDir] at hnode
    | file =>
      rw [visitDirs, visitDirs, ih hcontext down hwf.2.2.2]
      · simp
      · simp
    | link =>
      rw [visitDirs, visitDirs, ih hcontext down hwf.2.2.2]
      · simp
      · simp
  | dir name inner rest ihInner ihRest =>
    rw [Entries.WellFormed, Node.WellFormed] at hwf
    obtain ⟨hname, -, hinner, hrest⟩ := hwf
    have htested := Tested.entry hroot hdir hcontext hname
    rw [Path.down_concat] at htested
    rw [visitDirs, visitDirs, judge_bind hj htested, byPatterns_bind, ihRest hcontext down hrest]
    cases context.patterns.ignoredBy? ((root.down names).entry name) true with
    | some because => rfl
    | none =>
      -- The context below is known to apply only as what the resolver ends with.
      apply Action.bind_congr_of_ok
      intro s seen hseen
      obtain rfl : s.sink.seenDisk d = seen := Except.ok.inj hseen
      apply Action.bind_congr_of_ok
      intro s' below hbelow
      obtain ⟨own, hown, rfl⟩ := exists_contributes hbelow
      rw [← Path.down_concat] at hown ⊢
      have hin := hcontext.further hname hown
      have hfiles := visitFiles_eq hj hroot hdir hin (down ++ [name]) hinner
      have hdirs := ihInner hin (down ++ [name]) hinner
      cases (s.sink.seenDisk d).node? (root.down (names ++ [name])) with
      | error fault => rfl
      | ok node => simp only [hfiles, hdirs]

end

end

/-! ### Actions that leave the outlet as it is -/

/-- Whether an action writes to the same outlet to the end. -/
def Steady {α : Type} (x : Action Scan α) : Prop := ∀ s, (x s).state.sink.outlet = s.sink.outlet

theorem steady_bind {α β : Type} {x : Action Scan α} {f : α → Action Scan β} (hx : Steady x)
    (hf : ∀ a, Steady (f a)) :
  Steady (x >>= f)
  := by
  intro s
  cases hresult : (x s).result with
  | error failure =>
    rw [Action.bind_of_error hresult]
    apply hx
  | ok a =>
    rw [Action.bind_of_ok hresult]
    apply (hf a _).trans (hx s)

theorem steady_ofExcept {α : Type} (found : Except Failure α) :
  Steady (Action.ofExcept found)
  := fun _ => rfl

theorem steady_writing (bytes : List UInt8) :
  Steady (sinking (Sink.writeBytes bytes))
  := by
  intro s
  apply ((Sink.meets_writeBytes s.sink bytes).mono (fun _ _ h => h.outlet)
    fun _ _ ⟨_, _, _, _, _, h⟩ => h.outlet).always

theorem steady_includeFile (d : Disk) (path relative : Path) (context : Context) :
  Steady (includeFile d path relative context)
  := by
  intro s
  rcases includeFile_cases d path relative context s with
    hrun | ⟨failure, hrun⟩ | ⟨p, -, -, events, -, ⟨-, hrun⟩ | ⟨failure, -, hrun⟩⟩
  · rw [hrun]
  · rw [hrun]
  · rw [hrun]
    apply steady_writing (Text.bytesOf p.block) s
  · rw [hrun]
    apply steady_writing (Text.bytesOf p.block) s

/-- Wherever a scan goes, it writes to the same outlet. -/
theorem steady_closed (d : Disk) :
  Closed d (fun _ => True) (fun _ => Steady)
  := by
  constructor
  · exact fun _ _ => rfl
  · apply steady_bind
  · intro _ _ _
    rfl
  · intro α f hf s
    apply hf (s.sink.seenDisk d) trivial s
  · intro _ _ _ _ _
    rfl
  · intro _ _
    rfl
  · intro _ _
    rfl
  · apply steady_includeFile d

/-! ### Scans that are the same -/

/-- Whether two actions are the same while the document goes to a file that is there, or to
none. -/
def Alike {α : Type} (d : Disk) (x x' : Action Scan α) : Prop :=
  ∀ s, s.sink.OpenOn d → x s = x' s

theorem Alike.bind {α β : Type} {d : Disk} {x x' : Action Scan α} {f f' : α → Action Scan β}
    (hx : Alike d x x') (hsteady : Steady x')
    (hf : ∀ s a, s.sink.OpenOn d → (x' s).result = .ok a → Alike d (f a) (f' a)) :
  Alike d (x >>= f) (x' >>= f')
  := by
  intro s hs
  have heq := hx s hs
  cases hresult : (x' s).result with
  | error failure =>
    rw [Action.bind_of_error hresult, Action.bind_of_error (heq ▸ hresult), heq]
  | ok a =>
    have hnext := hf s a hs hresult (x' s).state (hs.of_outlet (hsteady s))
    rw [Action.bind_of_ok hresult, Action.bind_of_ok (heq ▸ hresult), heq, hnext]

theorem Alike.refl {α : Type} (d : Disk) (x : Action Scan α) :
  Alike d x x
  := fun _ _ => rfl

section

variable {judge : Judge} {d : Disk} {scope : Scope} {paths : List Path}
variable (hd : d.WellFormed) (hj : judge.Agrees d scope paths)

include hd hj

theorem directoryBy_alike {root : Path} (hroot : root ∈ paths) (hdir : d.isDir root = true)
    {above : Context} (habove : scope.contextAt root = .ok above) :
  Alike d (directoryBy judge d root above) (directory d root above)
  := by
  apply Alike.bind (Alike.refl d _) fun _ => rfl
  intro _ _ _ _
  apply Alike.bind (Alike.refl d _) fun _ => rfl
  intro s seen hs hseen
  obtain rfl : s.sink.seenDisk d = seen := Except.ok.inj hseen
  apply Alike.bind (Alike.refl d _) fun _ => rfl
  intro s' context hs' hcontext
  obtain ⟨own, hown, rfl⟩ := exists_contributes hcontext
  have hin : Applies d scope root [] (above.extended own) := .root habove hown
  have hwf := wellFormed_entriesAt ((hs.sameShape hd).wellFormed hd) root
  cases hentries : rootEntries (s.sink.seenDisk d) root with
  | error fault => apply Alike.refl
  | ok entries =>
    rw [entriesAt, hentries] at hwf
    change entries.WellFormed at hwf
    have hfiles := visitFiles_eq hj hroot hdir hin [] hwf
    have hdirs := visitDirs_eq hj hroot hdir hin [] hwf
    rw [Path.down_nil] at hfiles hdirs
    dsimp only
    rw [hfiles, hdirs]
    apply Alike.refl

theorem argumentBy_alike {path : Path} (hpath : path ∈ paths) :
  Alike d (argumentBy judge d scope path) (argument d scope path)
  := by
  apply Alike.bind (Alike.refl d _) fun _ => rfl
  intro s seen hs hseen
  obtain rfl : s.sink.seenDisk d = seen := Except.ok.inj hseen
  split
  · rename_i hdir
    rw [(hs.sameShape hd).isDir] at hdir
    apply Alike.bind (Alike.refl d _) (steady_ofExcept _)
    intro s' above hs' habove
    apply directoryBy_alike hd hj hpath hdir habove
  · split
    · rename_i hfile
      rw [(hs.sameShape hd).isFile] at hfile
      apply Alike.bind (Alike.refl d _) (steady_ofExcept _)
      intro s' above hs' habove
      rw [fileBy, fileBy, judge_bind hj (.argument hpath hfile habove), byPatterns_bind]
      apply Alike.refl
    · apply Alike.refl

theorem argumentsBy_alike {rest : List Path} (hrest : rest ⊆ paths) :
  Alike d (argumentsBy judge d scope rest) (arguments d scope rest)
  := by
  induction rest with
  | nil => apply Alike.refl
  | cons path rest ih =>
    obtain ⟨hpath, hrest⟩ := List.cons_subset.mp hrest
    apply Alike.bind (argumentBy_alike hd hj hpath)
      ((steady_closed d).argument (fun _ => steady_ofExcept _) path)
    intro _ _ _ _
    apply ih hrest

/-- With a judge who answers as the patterns do wherever a scan asks, an aggregation is the
same. -/
theorem aggregateBy_eq {s : Scan} (hs : s.sink.OpenOn d) (excluded : Option Path) :
  aggregateBy judge d scope paths excluded s = aggregate d scope paths excluded s
  := by
  have hbegin : Steady (sinking Sink.begin) := by
    intro s
    apply steady_writing (Text.bytesOf (Document.header s.sink.generator)) s
  have hrest {α : Type} (f : Unit → Action Scan α) :
      Alike d (argumentsBy judge d scope paths >>= f) (arguments d scope paths >>= f) :=
    Alike.bind (argumentsBy_alike hd hj (List.Subset.refl paths))
      ((steady_closed d).arguments (fun _ => steady_ofExcept _) paths)
      fun _ _ _ _ => Alike.refl d _
  cases excluded with
  | none => apply Alike.bind (Alike.refl d _) hbegin (fun _ _ _ _ => hrest _) s hs
  | some path =>
    have hexclude {α : Type} (f : Unit → Action Scan α) :=
      Alike.bind (Alike.refl d _) ((steady_closed d).exclude (fun _ _ => rfl) path)
        fun _ _ _ _ => hrest f
    apply Alike.bind (Alike.refl d _) hbegin (fun _ _ _ _ => hexclude _) s hs

end

end Compendium.Scan
