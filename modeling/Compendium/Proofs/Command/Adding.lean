import Mathlib.Data.List.Infix
import Compendium.Command.Settings
import Compendium.Proofs.Except

/-!
# Arguments with one more option

An option that is put among arguments that do not give it changes one setting, and nothing else:
the arguments around it are read as before.  So they ask for the same as before, be it a run, help,
the version, or nothing that makes sense.
-/

namespace Compendium.Command

/-- What is asked for, with other settings for a run. -/
def Request.adjust (set : Settings → Settings) : Request → Request
  | .run s => .run (set s)
  | request => request

namespace Settings

/-! ### What an option changes -/

/-- Whether `set` does what a further option does to settings, and `isSet` tells that this has been
done.  The other options have nothing to do with it. -/
structure Independent (c : Choice) (set : Settings → Settings) (isSet : Settings → Bool) :
    Prop where
  single : c.repeats = false
  letter : c.short?.isSome = true → c.value?.isSome = true
  path : ∀ (s : Settings) path, set { s with paths := s.paths ++ [path] }
      = { set s with paths := (set s).paths ++ [path] }
    ∧ isSet { s with paths := s.paths ++ [path] } = isSet s
  flag : ∀ (s : Settings) c', c' ≠ c →
    set (s.setFlag c') = (set s).setFlag c' ∧ isSet (s.setFlag c') = isSet s
  value : ∀ (s : Settings) value c', c' ≠ c →
    set (s.setValue value c') = (set s).setValue value c' ∧ isSet (s.setValue value c') = isSet s

theorem independent_stdout :
  Independent .stdout (fun s => { s with stdout := true }) Settings.stdout
  := by
  constructor
  · rfl
  · intro hletter
    apply hletter
  · intro _ _
    constructor
    · rfl
    · rfl
  · intro s c' hne
    cases c' with
    | stdout => apply absurd rfl hne
    | _ =>
      constructor
      · rfl
      · rfl
  · intro s value c' _
    cases c' <;> exact ⟨rfl, rfl⟩

theorem independent_output (file : String) :
  Independent .output (fun s => { s with output := some file }) (·.output.isSome)
  := by
  constructor
  · rfl
  · intro hletter
    apply hletter
  · intro _ _
    constructor
    · rfl
    · rfl
  · intro s c' _
    cases c' <;> exact ⟨rfl, rfl⟩
  · intro s value c' hne
    cases c' with
    | output => apply absurd rfl hne
    | _ =>
      constructor
      · rfl
      · rfl

namespace Progress

/-! ### Reading with the option and without it -/

/-- Whether the arguments that have been read are the same, but that an option has been given
besides. -/
structure Ahead (c : Choice) (set : Settings → Settings) (p p' : Progress) : Prop where
  settings : p'.settings = set p.settings
  given : ∀ c', c' ∈ p'.given ↔ c' = c ∨ c' ∈ p.given
  waiting : p'.waiting = p.waiting
  pathsOnly : p'.pathsOnly = p.pathsOnly

/-- Whether reading has ended alike: with the same request, or with the same but for an option
that has been given besides. -/
def Alike (c : Choice) (set : Settings → Settings) :
    Except Request Progress → Except Request Progress → Prop
  | .ok p, .ok p' => Ahead c set p p'
  | .error request, .error request' => request' = request
  | _, _ => False

/-- Whether something is read alike if an option has been given besides, unless it gives this
option.  The option is not set without being given, and a run is asked for in the end only. -/
structure Tracks (c : Choice) (set : Settings → Settings) (isSet : Settings → Bool)
    (x : Progress → Except Request Progress) : Prop where
  alike : ∀ p p', Ahead c set p p' → Alike c set (x p) (x p') ∨ ∃ q, x p = .ok q ∧ c ∈ q.given
  honest : ∀ p q, (isSet p.settings = true → c ∈ p.given) → x p = .ok q →
    isSet q.settings = true → c ∈ q.given
  ends : ∀ p s, x p ≠ .error (.run s)

section

variable {c : Choice} {set : Settings → Settings} {isSet : Settings → Bool}

theorem tracks_error {request : Request} (h : ∀ s, request ≠ .run s) :
  Tracks c set isSet fun _ => .error request
  := by
  constructor
  · intro _ _ _
    left
    rfl
  · intro _ _ _ hok
    cases hok
  · intro _ s heq
    apply h s (Except.error.inj heq)

/-- To change what is read next leaves alone what has been given. -/
theorem tracks_next (waiting : Option Choice → Option Choice) (pathsOnly : Bool → Bool) :
  Tracks c set isSet fun p =>
    .ok { p with waiting := waiting p.waiting, pathsOnly := pathsOnly p.pathsOnly }
  := by
  constructor
  · intro p p' h
    left
    use h.settings, h.given, congrArg waiting h.waiting
    apply congrArg pathsOnly h.pathsOnly
  · rintro p q hp ⟨⟩
    apply hp
  · exact fun _ _ => nofun

/-- What is to be read next can be told beforehand. -/
theorem tracks_looking {x : Progress → Except Request Progress}
    (hx : ∀ waiting pathsOnly, Tracks c set isSet fun p =>
      x { p with waiting := waiting, pathsOnly := pathsOnly }) :
  Tracks c set isSet x
  := by
  constructor
  · intro p p' h
    have hsame : { p' with waiting := p.waiting, pathsOnly := p.pathsOnly } = p' := by
      rw [← h.waiting, ← h.pathsOnly]
    have halike := (hx p.waiting p.pathsOnly).alike p p' h
    rwa [hsame] at halike
  · intro p
    apply (hx p.waiting p.pathsOnly).honest p
  · intro p
    apply (hx p.waiting p.pathsOnly).ends p

theorem Tracks.told {x : Progress → Except Request Progress} (hx : Tracks c set isSet x)
    (waiting : Option Choice) (pathsOnly : Bool) :
  Tracks c set isSet fun p => x { p with waiting := waiting, pathsOnly := pathsOnly }
  := by
  constructor
  · exact fun _ _ h => hx.alike _ _ ⟨h.settings, h.given, rfl, rfl⟩
  · exact fun _ q hp => hx.honest _ q hp
  · intro _
    apply hx.ends _

/-- What is read after something else is read alike as well. -/
theorem tracks_after {x y : Progress → Except Request Progress}
    (halike : ∀ p p', Ahead c set p p' → Alike c set (x p) (x p')) (hx : Tracks c set isSet x)
    (hy : Tracks c set isSet y) :
  Tracks c set isSet fun p => match x p with
    | .error request => .error request
    | .ok q => y q
  := by
  constructor
  · intro p p' hp
    have hsame := halike p p' hp
    rcases hread : x p with request | q <;> rcases hread' : x p' with request' | q' <;>
      rw [hread, hread'] at hsame
    · left
      apply hsame
    · apply hsame.elim
    · apply hsame.elim
    · apply hy.alike q q' hsame
  · intro p t hp ht
    rcases hread : x p with request | q
    · simp [hread] at ht
    · rw [hread] at ht
      apply hy.honest q t (hx.honest p q hp hread) ht
  · intro p s
    rcases hread : x p with request | q
    · rintro ⟨⟩
      apply hx.ends p s hread
    · apply hy.ends q s

/-! ### Single options -/

/-- Note that an option is given, with what it does to the settings and to what is waited for. -/
def noting (p : Progress) (c : Choice) (done : Settings → Settings)
    (waiting : Option Choice → Option Choice) : Except Request Progress :=
  (p.note c).map fun p => { p with settings := done p.settings, waiting := waiting p.waiting }

theorem takeValue_eq (p : Progress) (c : Choice) (value : List Char) :
  p.takeValue c value =
    if c = .output ∧ value = [] then .error .misuse
    else p.noting c (·.setValue (String.ofList value) c) fun _ => .none
  := rfl

/-- A value that does not look like an option is taken. -/
theorem take_value {p : Progress} {c : Choice} {value : List Char} (hwaiting : p.waiting = some c)
    (hpaths : p.pathsOnly = false) (hvalue : ∀ letter rest, value ≠ '-' :: letter :: rest) :
  p.take value = p.takeValue c value
  := by
  rw [take, if_neg (by simp [hpaths])]
  · apply hvalue
  · apply hwaiting

theorem takeFlag_eq (p : Progress) {c : Choice} (hhelp : c ≠ .help) (hversion : c ≠ .version)
    (isLong : Bool) :
  p.takeFlag c isLong = p.noting c (·.setFlag c) id
  := by
  cases c with
  | help => apply absurd rfl hhelp
  | version => apply absurd rfl hversion
  | _ => rfl

theorem noting_ne_run (p : Progress) (c : Choice) (done : Settings → Settings)
    (waiting : Option Choice → Option Choice) (s : Settings) :
  p.noting c done waiting ≠ .error (.run s)
  := by
  rw [noting, note]
  split <;> nofun

theorem note_eq_ok {p q : Progress} {c' : Choice} (h : p.note c' = .ok q) :
  q = { p with given := p.given ++ [c'] }
  := by
  rw [note] at h
  split at h
  · cases h
  · apply (Except.ok.inj h).symm

theorem note_of_notMem {p : Progress} (h : c ∉ p.given) :
  p.note c = .ok { p with given := p.given ++ [c] }
  := by
  rw [note, if_neg]
  rw [Bool.and_eq_true, List.contains_iff_mem]
  intro hnoted
  apply h hnoted.2

/-- Another option is noted, or has been given before, as it would be otherwise. -/
theorem Ahead.note {p p' : Progress} (hp : Ahead c set p p') {c' : Choice} (hne : c' ≠ c) :
  Alike c set (p.note c') (p'.note c')
  := by
  have hgiven : p'.given.contains c' = p.given.contains c' := by
    rw [Bool.eq_iff_iff, List.contains_iff_mem, List.contains_iff_mem, hp.given,
      or_iff_right hne]
  rw [Progress.note, Progress.note, hgiven]
  split
  · rfl
  · refine ⟨hp.settings, ?_, hp.waiting, hp.pathsOnly⟩
    intro other
    simp only [List.mem_append, hp.given, or_assoc]

/-- So is what it does, if this has nothing to do with the option that is given besides. -/
theorem Ahead.noting {p p' : Progress} (hp : Ahead c set p p') {c' : Choice} (hne : c' ≠ c)
    {done : Settings → Settings} (hdone : ∀ s, set (done s) = done (set s))
    (waiting : Option Choice → Option Choice) :
  Alike c set (p.noting c' done waiting) (p'.noting c' done waiting)
  := by
  have halike := hp.note hne
  rw [Progress.noting, Progress.noting]
  rcases hnote : p.note c' with request | q <;> rcases hnote' : p'.note c' with request' | q' <;>
    rw [hnote, hnote'] at halike
  · apply halike
  · apply halike
  · apply halike
  · refine ⟨?_, halike.given, congrArg waiting halike.waiting, halike.pathsOnly⟩
    dsimp only
    rw [halike.settings, hdone]

section

variable (h : Independent c set isSet)

include h

/-- The option itself cannot be given again. -/
theorem Ahead.note_self {p p' : Progress} (hp : Ahead c set p p') :
  p.note c = .error .misuse ∧ p'.note c = .error .misuse
    ∨ ∃ q, p.note c = .ok q ∧ c ∈ q.given
  := by
  have hgiven : p'.given.contains c = true :=
    List.contains_iff_mem.mpr ((hp.given c).mpr (.inl rfl))
  rw [Progress.note, Progress.note, h.single, hgiven]
  split
  · left
    constructor
    · rfl
    · rfl
  · exact .inr ⟨_, rfl, by simp⟩

theorem tracks_noting {c' : Choice} {done : Settings → Settings}
    (hdone : c' ≠ c → ∀ s, set (done s) = done (set s) ∧ isSet (done s) = isSet s)
    (waiting : Option Choice → Option Choice) :
  Tracks c set isSet (noting · c' done waiting)
  := by
  constructor
  · intro p p' hp
    by_cases hc : c' = c
    · subst hc
      rw [noting, noting]
      rcases hp.note_self h with ⟨hnote, hnote'⟩ | ⟨q, hnote, hmem⟩
      · rw [hnote, hnote']
        left
        rfl
      · rw [hnote]
        exact .inr ⟨_, rfl, hmem⟩
    · left
      apply hp.noting hc (fun s => (hdone hc s).1) waiting
  · intro p q hp hq hset
    obtain ⟨noted, hnoted, rfl⟩ := map_eq_ok_iff.mp hq
    obtain rfl := note_eq_ok hnoted
    by_cases hc : c' = c
    · simp [hc]
    · apply List.mem_append_left _ (hp ((hdone hc _).2 ▸ hset))
  · intro p
    apply noting_ne_run p c' done waiting

theorem tracks_takePath (path : List Char) :
  Tracks c set isSet (takePath · path)
  := by
  simp only [takePath]
  split
  · exact tracks_error nofun
  · constructor
    · intro p p' hp
      refine .inl ⟨?_, hp.given, hp.waiting, hp.pathsOnly⟩
      dsimp only
      rw [(h.path _ _).1, hp.settings]
    · rintro p q hp ⟨⟩ hset
      apply hp ((h.path _ _).2 ▸ hset)
    · exact fun _ _ => nofun

theorem tracks_takeValue (c' : Choice) (value : List Char) :
  Tracks c set isSet (takeValue · c' value)
  := by
  simp only [takeValue_eq]
  split
  · exact tracks_error nofun
  · apply tracks_noting h (fun hne s => h.value s _ c' hne) _

theorem tracks_takeFlag (c' : Choice) (isLong : Bool) :
  Tracks c set isSet (takeFlag · c' isLong)
  := by
  by_cases hhelp : c' = .help
  · subst hhelp
    exact tracks_error nofun
  by_cases hversion : c' = .version
  · subst hversion
    exact tracks_error nofun
  simp only [takeFlag_eq _ hhelp hversion]
  apply tracks_noting h (fun hne s => h.flag s c' hne) id

/-- Another option without a value is taken as it would be otherwise. -/
theorem Ahead.takeFlag {p p' : Progress} (hp : Ahead c set p p') {c' : Choice} (hne : c' ≠ c)
    (isLong : Bool) :
  Alike c set (p.takeFlag c' isLong) (p'.takeFlag c' isLong)
  := by
  by_cases hhelp : c' = .help
  · subst hhelp
    rfl
  by_cases hversion : c' = .version
  · subst hversion
    rfl
  rw [takeFlag_eq p hhelp hversion, takeFlag_eq p' hhelp hversion]
  apply hp.noting hne (fun s => (h.flag s c' hne).1) id

theorem tracks_takeLong (name : List Char) (value : Option (List Char)) :
  Tracks c set isSet (takeLong · name value)
  := by
  simp only [takeLong]
  cases Choice.ofLong? name with
  | none => exact tracks_error nofun
  | some c' =>
    dsimp only
    cases c'.value? <;> cases value
    · apply tracks_takeFlag h
    · exact tracks_error nofun
    · apply tracks_next (fun _ => some c') id
    · apply tracks_takeValue h

/-- Of options by their letters, only the last can be one that takes a value. -/
theorem tracks_takeShorts (letters : List Char) :
  Tracks c set isSet (takeShorts · letters)
  := by
  induction letters with
  | nil => apply tracks_next id id
  | cons letter rest ih =>
    simp only [takeShorts]
    cases hletter : Choice.ofShort? letter with
    | none => exact tracks_error nofun
    | some c' =>
      dsimp only
      split
      · split
        · apply tracks_next (fun _ => some c') id
        · apply tracks_takeValue h
        · apply tracks_takeValue h
      · rename_i hvalue
        -- The option itself would take a value, if it has a letter at all.
        have hne : c' ≠ c := by
          rintro rfl
          have hshort : c'.short? = some letter := by simpa using List.find?_some hletter
          apply hvalue (h.letter (by rw [hshort]; rfl))
        apply tracks_after (fun p p' hp => hp.takeFlag h hne false) (tracks_takeFlag h c' false) ih

theorem tracks_take (argument : List Char) :
  Tracks c set isSet (take · argument)
  := by
  apply tracks_looking
  intro waiting pathsOnly
  simp only [take]
  split
  · apply (tracks_takePath h _).told waiting pathsOnly
  · split
    · exact tracks_error nofun
    · apply tracks_next (fun _ => Option.none) (fun _ => true)
    · apply (tracks_takeLong h _ _).told _ pathsOnly
    · apply (tracks_takeShorts h _).told _ pathsOnly
    · apply (tracks_takeValue h _ _).told _ pathsOnly
    · apply (tracks_takePath h _).told _ pathsOnly

/-! ### All arguments -/

omit h in
theorem takeAll_append (p : Progress) (before after : List String) :
  p.takeAll (before ++ after) =
    match p.takeAll before with
    | .error request => .error request
    | .ok q => q.takeAll after
  := by
  induction before generalizing p with
  | nil => rfl
  | cons argument before ih =>
    rw [List.cons_append, takeAll, takeAll]
    cases p.take argument.toList with
    | error request => rfl
    | ok q => apply ih q

/-- Whether an option is not given by arguments, as far as these are read. -/
def Spares (c : Choice) (p : Progress) (arguments : List String) : Prop :=
  ∀ before after q, arguments = before ++ after → p.takeAll before = .ok q → c ∉ q.given

omit h in
theorem spares_iff {p : Progress} {arguments : List String} :
  Spares c p arguments
    ↔ ∀ before ∈ arguments.inits, ∀ q ∈ (p.takeAll before).toOption, c ∉ q.given
  := by
  simp only [List.mem_inits, Option.mem_def, toOption_eq_some_iff]
  constructor
  · rintro hspares before ⟨after, rfl⟩ q hq
    apply hspares before after q rfl hq
  · rintro hspares before after q rfl hq
    apply hspares before (List.prefix_append before after) q hq

instance (c : Choice) (p : Progress) (arguments : List String) :
    Decidable (Spares c p arguments) :=
  decidable_of_iff _ spares_iff.symm

omit h in
theorem Spares.after {p q : Progress} {before after : List String}
    (hspares : Spares c p (before ++ after)) (hq : p.takeAll before = .ok q) :
  Spares c q after
  := by
  rintro middle rest t rfl ht
  apply hspares (before ++ middle) rest t (List.append_assoc _ _ _).symm
  rw [takeAll_append, hq]
  apply ht

/-- Arguments that do not give an option are read as they would be otherwise. -/
theorem Ahead.takeAll {arguments : List String} {p p' : Progress} (hp : Ahead c set p p')
    (hspares : Spares c p arguments) :
  Alike c set (p.takeAll arguments) (p'.takeAll arguments)
  := by
  induction arguments generalizing p p' with
  | nil => apply hp
  | cons argument rest ih =>
    have hone (q : Progress) (hq : p.take argument.toList = .ok q) :
        p.takeAll [argument] = .ok q := by
      rw [Progress.takeAll, hq]
      rfl
    rw [Progress.takeAll, Progress.takeAll]
    rcases (tracks_take h argument.toList).alike p p' hp with halike | ⟨q, hq, hmem⟩
    · rcases htake : p.take argument.toList with request | q <;>
        rcases htake' : p'.take argument.toList with request' | q' <;> rw [htake, htake'] at halike
      · apply halike
      · apply halike.elim
      · apply halike.elim
      · have hspares' : Spares c p ([argument] ++ rest) := hspares
        apply ih halike (hspares'.after (hone q htake))
    · apply absurd hmem (hspares [argument] rest q rfl (hone q hq))

theorem takeAll_ne_run (arguments : List String) (p : Progress) (s : Settings) :
  p.takeAll arguments ≠ .error (.run s)
  := by
  induction arguments generalizing p with
  | nil => nofun
  | cons argument rest ih =>
    rw [takeAll]
    cases htake : p.take argument.toList with
    | error request =>
      rintro ⟨⟩
      apply (tracks_take h argument.toList).ends p s htake
    | ok q => apply ih q

/-- What is set has been given. -/
theorem honest_takeAll {arguments : List String} {p q : Progress}
    (hp : isSet p.settings = true → c ∈ p.given) (hq : p.takeAll arguments = .ok q) :
  isSet q.settings = true → c ∈ q.given
  := by
  induction arguments generalizing p with
  | nil =>
    obtain rfl := Except.ok.inj hq
    apply hp
  | cons argument rest ih =>
    rw [takeAll] at hq
    cases htake : p.take argument.toList with
    | error request => simp [htake] at hq
    | ok t =>
      rw [htake] at hq
      apply ih ((tracks_take h argument.toList).honest p t hp htake) hq

end

end

end Progress

/-! ### Options among arguments -/

/-- Whether arguments are others with some more, which stand where options can stand. -/
def Adds (extra arguments arguments' : List String) : Prop :=
  ∃ before after, arguments = before ++ after ∧ arguments' = before ++ extra ++ after
    ∧ ∀ p, Progress.start.takeAll before = .ok p → p.waiting = .none ∧ p.pathsOnly = false

/-- Whether arguments do not say where the document goes. -/
structure Undirected (arguments : List String) : Prop where
  output : Progress.Spares .output Progress.start arguments
  stdout : Progress.Spares .stdout Progress.start arguments

instance (arguments : List String) : Decidable (Undirected arguments) :=
  decidable_of_iff (Progress.Spares .output Progress.start arguments
      ∧ Progress.Spares .stdout Progress.start arguments)
    ⟨fun h => ⟨h.1, h.2⟩, fun h => ⟨h.output, h.stdout⟩⟩

/-- Options can stand in front of all arguments. -/
theorem adds_front (extra arguments : List String) :
  Adds extra arguments (extra ++ arguments)
  := by
  use [], arguments, rfl, rfl
  rintro p ⟨⟩
  constructor
  · rfl
  · rfl

section

variable {arguments arguments' : List String}

theorem Undirected.unset (h : Undirected arguments) {p : Progress}
    (hp : Progress.start.takeAll arguments = .ok p) :
  p.settings.stdout = false ∧ p.settings.output = .none
  := by
  have hall : arguments = arguments ++ [] := (List.append_nil arguments).symm
  constructor
  · rw [← Bool.not_eq_true]
    intro hset
    apply h.stdout arguments [] p hall hp
      (Progress.honest_takeAll independent_stdout (absurd · (by decide)) hp hset)
  · rw [← Option.not_isSome_iff_eq_none]
    intro hset
    apply h.output arguments [] p hall hp
      (Progress.honest_takeAll (independent_output "") (absurd · (by decide)) hp hset)

theorem Undirected.unset_of_run (h : Undirected arguments) {s : Settings}
    (hs : read arguments = .run s) :
  s.stdout = false ∧ s.output = .none
  := by
  rw [read] at hs
  cases htake : Progress.start.takeAll arguments with
  | error request =>
    rw [htake] at hs
    subst hs
    apply absurd htake (Progress.takeAll_ne_run independent_stdout arguments Progress.start s)
  | ok p =>
    rw [htake] at hs
    dsimp only at hs
    split at hs
    · cases hs
    · obtain rfl := Request.run.inj hs
      apply h.unset htake

/-- An option that is added is read where it stands, and all else is read as before. -/
theorem read_of_adds {c : Choice} {set : Settings → Settings} {isSet : Settings → Bool}
    (h : Independent c set isSet) {extra : List String}
    (hextra : ∀ p : Progress, p.waiting = .none → p.pathsOnly = false → c ∉ p.given →
      ∃ p', p.takeAll extra = .ok p' ∧ Progress.Ahead c set p p')
    (hspares : Progress.Spares c Progress.start arguments)
    (hadds : Adds extra arguments arguments')
    (hset : ∀ p, Progress.start.takeAll arguments = .ok p →
      (set p.settings).conflicting = p.settings.conflicting) :
  read arguments' = (read arguments).adjust set
  := by
  have halike : Progress.Alike c set (Progress.start.takeAll arguments)
      (Progress.start.takeAll arguments') := by
    obtain ⟨before, after, rfl, rfl, hplace⟩ := hadds
    rw [List.append_assoc, Progress.takeAll_append, Progress.takeAll_append]
    cases hbefore : Progress.start.takeAll before with
    | error request => rfl
    | ok p =>
      obtain ⟨hwaiting, hpaths⟩ := hplace p hbefore
      obtain ⟨p', hp', hahead⟩ := hextra p hwaiting hpaths (hspares before after p rfl hbefore)
      dsimp only
      rw [Progress.takeAll_append, hp']
      apply hahead.takeAll h (hspares.after hbefore)
  rw [read, read]
  rcases htake : Progress.start.takeAll arguments with request | p <;>
    rcases htake' : Progress.start.takeAll arguments' with request' | p' <;>
    rw [htake, htake'] at halike
  · obtain rfl : request' = request := halike
    have hrun := Progress.takeAll_ne_run h arguments Progress.start
    cases request' with
    | run s => apply absurd htake (hrun s)
    | _ => rfl
  · apply halike.elim
  · apply halike.elim
  · dsimp only
    rw [halike.waiting, halike.settings, hset p htake]
    split <;> rfl

/-- An option that has not been given is given once it is noted. -/
theorem ahead_given {c : Choice} {set : Settings → Settings} {p : Progress}
    (hwaiting : p.waiting = .none) :
  Progress.Ahead c set p ⟨set p.settings, p.given ++ [c], .none, p.pathsOnly⟩
  := ⟨rfl, fun c' => by simp [or_comm], hwaiting.symm, rfl⟩

/-- Arguments with the option to write to standard output. -/
theorem read_stdout (h : Undirected arguments) (hadds : Adds ["--stdout"] arguments arguments') :
  read arguments' = (read arguments).adjust fun s => { s with stdout := true }
  := by
  apply read_of_adds independent_stdout _ h.stdout hadds
  · intro p hp
    obtain ⟨-, houtput⟩ := h.unset hp
    simp [conflicting, houtput]
  · rintro ⟨s, given, waiting, pathsOnly⟩ rfl rfl hgiven
    refine ⟨_, ?_, ahead_given rfl⟩
    have htake : Progress.take ⟨s, given, .none, false⟩ "--stdout".toList
        = Progress.noting ⟨s, given, .none, false⟩ .stdout (·.setFlag .stdout) id := rfl
    rw [Progress.takeAll, htake, Progress.noting, Progress.note_of_notMem hgiven]
    rfl

/-- Arguments with the option to write to a file. -/
theorem read_output (h : Undirected arguments) {file : String} (hne : file.toList ≠ [])
    (hfile : ∀ c rest, file.toList ≠ '-' :: c :: rest)
    (hadds : Adds ["-o", file] arguments arguments') :
  read arguments' = (read arguments).adjust fun s => { s with output := some file }
  := by
  apply read_of_adds (independent_output file) _ h.output hadds
  · intro p hp
    obtain ⟨hstdout, -⟩ := h.unset hp
    simp [conflicting, hstdout]
  · rintro ⟨s, given, waiting, pathsOnly⟩ rfl rfl hgiven
    refine ⟨_, ?_, ahead_given rfl⟩
    have htake : Progress.take ⟨s, given, .none, false⟩ "-o".toList
        = .ok ⟨s, given, some .output, false⟩ := rfl
    have hvalue := Progress.take_value (p := ⟨s, given, some .output, false⟩) rfl rfl hfile
    have hnote := Progress.note_of_notMem (p := ⟨s, given, some .output, false⟩) hgiven
    rw [Progress.takeAll, htake]
    dsimp only
    rw [Progress.takeAll, hvalue, Progress.takeValue_eq, if_neg fun hblank => hne hblank.2,
      Progress.noting, hnote, String.ofList_toList]
    rfl

end

end Settings

end Compendium.Command
