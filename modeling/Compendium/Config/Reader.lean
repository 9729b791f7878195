import Compendium.Config
import Compendium.Json.Scalar

/-!
# Reading configurations

A configuration is read from JSON in one pass, each value as what its place asks for.  Objects
may have their keys in any order and leave out those that have a default; a list of the values
in the order of the keys does as well.  The first fault found is reported, at the place where
reading stopped.
-/

namespace Compendium.Config

open Json

/-- A fault, placed or to be placed where the value around it ends. -/
inductive Trouble where
  | placed (f : Fault)
  | unplaced (cause : Cause) (k : Cursor)

/-- A fault whose place is known. -/
def placed {α : Type} : Except Fault α → Except Trouble α
  | .ok a => .ok a
  | .error f => .error (.placed f)

/-! ### Lists and objects -/

/-- Whether another element of a list follows, and the place of it or of the end. -/
def nextElement (first : Bool) (k : Cursor) : Except Fault (Bool × Cursor) :=
  let k := k.skip
  match k.rest with
  | [] => .error (k.fault .unfinishedList)
  | ']' :: _ => .ok (false, k)
  | ',' :: _ =>
    if first then .ok (true, k)
    else
      let k := k.next.skip
      match k.rest with
      | [] => .error (k.fault .unfinishedValue)
      | ']' :: _ => .error (k.faultNext .trailingComma)
      | _ => .ok (true, k)
  | _ => if first then .ok (true, k) else .error (k.faultNext .expectedListEnd)

/-- The place behind a list, and the fault if it does not end. -/
def endList (k : Cursor) : Cursor × Except Fault Unit :=
  let k := k.skip
  match k.rest with
  | [] => (k, .error (k.fault .unfinishedList))
  | ']' :: _ => (k.next, .ok ())
  | ',' :: _ =>
    let k := k.next.skip
    match k.rest with
    | ']' :: _ => (k, .error (k.faultNext .trailingComma))
    | _ => (k, .error (k.faultNext .trailingCharacters))
  | _ => (k, .error (k.faultNext .trailingCharacters))

/-- Whether another key of an object follows, and the place behind its quote or of the end. -/
def nextKey (first : Bool) (k : Cursor) : Except Fault (Bool × Cursor) :=
  let key (k : Cursor) : Except Fault (Bool × Cursor) :=
    match k.rest with
    | [] => .error (k.fault .unfinishedValue)
    | '"' :: _ => .ok (true, k.next)
    | '}' :: _ => .error (k.faultNext .trailingComma)
    | _ => .error (k.faultNext .keyMustBeString)
  let k := k.skip
  match k.rest with
  | [] => .error (k.fault .unfinishedObject)
  | '}' :: _ => .ok (false, k)
  | ',' :: _ => if first then key k else key k.next.skip
  | _ => if first then key k else .error (k.faultNext .expectedObjectEnd)

/-- The place behind the colon that follows a key. -/
def readColon (k : Cursor) : Except Fault Cursor :=
  let k := k.skip
  match k.rest with
  | [] => .error (k.fault .unfinishedObject)
  | ':' :: _ => .ok k.next
  | _ => .error (k.faultNext .expectedColon)

/-- The place behind an object, and the fault if it does not end. -/
def endObject (k : Cursor) : Cursor × Except Fault Unit :=
  let k := k.skip
  match k.rest with
  | [] => (k, .error (k.fault .unfinishedObject))
  | '}' :: _ => (k.next, .ok ())
  | ',' :: _ => (k, .error (k.faultNext .trailingComma))
  | _ => (k, .error (k.faultNext .trailingCharacters))

/-- End a list or an object.  A fault inside without a place has the place where it ends. -/
def enclose {α : Type} (finish : Cursor → Cursor × Except Fault Unit)
    (inner : Except Trouble (α × Cursor)) : Except Fault (α × Cursor) :=
  match inner with
  | .ok (a, k) =>
    match finish k with
    | (k, .ok ()) => .ok (a, k)
    | (_, .error f) => .error f
  | .error (.placed f) => .error f
  | .error (.unplaced cause k) => .error ((finish k).1.fault cause)

/-! ### Values -/

/-- Read a value that starts with a certain character, from behind it on. -/
def readString (k : Cursor) : Except Fault (String × Cursor) :=
  let k := k.skip
  match k.rest with
  | [] => .error (k.fault .unfinishedValue)
  | '"' :: _ => Json.readString k.next
  | _ => .error (unexpected "a string" k)

/-- Read a boolean. -/
def readBool (k : Cursor) : Except Fault (Bool × Cursor) :=
  let k := k.skip
  match k.rest with
  | [] => .error (k.fault .unfinishedValue)
  | 't' :: _ => do return (true, ← readWord k.next "rue".toList)
  | 'f' :: _ => do return (false, ← readWord k.next "alse".toList)
  | _ => .error (unexpected "a boolean" k)

/-- Read a string or `null`. -/
def readOptionalString (k : Cursor) : Except Fault (Option String × Cursor) :=
  let k := k.skip
  match k.rest with
  | 'n' :: _ => do return (none, ← readWord k.next "ull".toList)
  | _ => do
    let (s, k) ← readString k
    return (some s, k)

/-- Read the elements of a list up to its end, `fuel` of them at most. -/
def readElements {α : Type} (item : Cursor → Except Fault (α × Cursor)) (fuel : Nat)
    (first : Bool) (k : Cursor) : Except Fault (List α × Cursor) :=
  match fuel with
  | 0 => .error (k.fault .unfinishedList)
  | fuel + 1 => do
    let (more, k) ← nextElement first k
    if !more then return ([], k)
    let (a, k) ← item k
    let (as, k) ← readElements item fuel false k
    return (a :: as, k)

/-- Read a list. -/
def readList {α : Type} (item : Cursor → Except Fault (α × Cursor)) (k : Cursor) :
    Except Fault (List α × Cursor) :=
  let k := k.skip
  match k.rest with
  | [] => .error (k.fault .unfinishedValue)
  | '[' :: rest => enclose endList (placed (readElements item (rest.length + 1) true k.next))
  | _ => .error (unexpected "a sequence" k)

/-- Read a value that is an object, or a list of what its keys hold. -/
def readStructure {α : Type} (expected : String)
    (fromList fromObject : Cursor → Except Trouble (α × Cursor)) (k : Cursor) :
    Except Fault (α × Cursor) :=
  let k := k.skip
  match k.rest with
  | [] => .error (k.fault .unfinishedValue)
  | '[' :: _ => enclose endList (fromList k.next)
  | '{' :: _ => enclose endObject (fromObject k.next)
  | _ => .error (unexpected expected k)

/-- Put the value of a key into its place, which must be empty. -/
def fill {α : Type} (name : String) (place : Option α)
    (read : Cursor → Except Fault (α × Cursor)) (k : Cursor) : Except Trouble (α × Cursor) :=
  match place with
  | some _ => .error (.unplaced (.duplicateField name) k)
  | none => do
    let k ← placed (readColon k)
    placed (read k)

/-- Read the next element of a list, or take a default where the list has ended. -/
def readNext {α : Type} (first : Bool) (orElse : Cursor → Except Trouble α)
    (read : Cursor → Except Fault (α × Cursor)) (k : Cursor) : Except Trouble (α × Cursor) := do
  let (more, k) ← placed (nextElement first k)
  if more then placed (read k)
  else return (← orElse k, k)

/-! ### Rules -/

/-- The keys of a rule, `match` being another name of `start`. -/
def ruleKeys : List String := ["pattern", "name", "match", "start", "delete", "keep_start"]

/-- The part of a rule that has been read. -/
structure PartialRule where
  pattern : Option String
  name : Option (Option String)
  start : Option String
  delete : Option String
  keepStart : Option Bool

/-- Read the value of a key of a rule. -/
def PartialRule.read (r : PartialRule) (key : String) (k : Cursor) :
    Except Trouble (PartialRule × Cursor) :=
  match key with
  | "pattern" => do
    let (s, k) ← fill key r.pattern readString k
    return ({ r with pattern := some s }, k)
  | "name" => do
    let (s, k) ← fill key r.name readOptionalString k
    return ({ r with name := some s }, k)
  | "start" | "match" => do
    let (s, k) ← fill "start" r.start readString k
    return ({ r with start := some s }, k)
  | "delete" => do
    let (s, k) ← fill key r.delete readString k
    return ({ r with delete := some s }, k)
  | "keep_start" => do
    let (b, k) ← fill key r.keepStart readBool k
    return ({ r with keepStart := some b }, k)
  | _ => .error (.unplaced (.unknownField key ruleKeys) k)

/-- The rule that has been read, when its object ends. -/
def PartialRule.finish (r : PartialRule) (k : Cursor) : Except Trouble (RuleSpec × Cursor) :=
  match r.pattern, r.start, r.delete with
  | none, _, _ => .error (.unplaced (.missingField "pattern") k)
  | _, none, _ => .error (.unplaced (.missingField "start") k)
  | _, _, none => .error (.unplaced (.missingField "delete") k)
  | some pattern, some start, some delete =>
    .ok (⟨pattern, r.name.getD none, start, delete, r.keepStart.getD false⟩, k)

/-- Read the keys of a rule, `fuel` of them at most. -/
def readRuleKeys (fuel : Nat) (first : Bool) (r : PartialRule) (k : Cursor) :
    Except Trouble (RuleSpec × Cursor) :=
  match fuel with
  | 0 => .error (.unplaced .unfinishedObject k)
  | fuel + 1 => do
    let (more, k) ← placed (nextKey first k)
    if !more then r.finish k
    else
      let (key, k) ← placed (Json.readString k)
      let (r, k) ← r.read key k
      readRuleKeys fuel false r k

/-- Read the values of a rule from a list. -/
def readRuleList (k : Cursor) : Except Trouble (RuleSpec × Cursor) := do
  let required {α : Type} (count : Nat) (k : Cursor) : Except Trouble α :=
    .error (.unplaced (.invalidLength count "struct RuleConfig with 5 elements") k)
  let (pattern, k) ← readNext true (required 0) readString k
  let (name, k) ← readNext false (fun _ => .ok none) readOptionalString k
  let (start, k) ← readNext false (required 2) readString k
  let (delete, k) ← readNext false (required 3) readString k
  let (keepStart, k) ← readNext false (fun _ => .ok false) readBool k
  return (⟨pattern, name, start, delete, keepStart⟩, k)

/-- Read a rule. -/
def readRule (k : Cursor) : Except Fault (RuleSpec × Cursor) :=
  readStructure "struct RuleConfig" readRuleList
    (fun k => readRuleKeys (k.rest.length + 1) true ⟨none, none, none, none, none⟩ k) k

/-! ### Configurations -/

/-- The part of a configuration that has been read. -/
structure PartialConfig where
  patterns : Option (List String)
  rules : Option (List RuleSpec)

/-- Read the value of a key of a configuration. -/
def PartialConfig.read (c : PartialConfig) (key : String) (k : Cursor) :
    Except Trouble (PartialConfig × Cursor) :=
  match key with
  | "patterns" => do
    let (ps, k) ← fill key c.patterns (readList readString) k
    return ({ c with patterns := some ps }, k)
  | "rules" => do
    let (rs, k) ← fill key c.rules (readList readRule) k
    return ({ c with rules := some rs }, k)
  | _ => .error (.unplaced (.unknownField key ["patterns", "rules"]) k)

/-- Read the keys of a configuration, `fuel` of them at most. -/
def readConfigKeys (fuel : Nat) (first : Bool) (c : PartialConfig) (k : Cursor) :
    Except Trouble (Config × Cursor) :=
  match fuel with
  | 0 => .error (.unplaced .unfinishedObject k)
  | fuel + 1 => do
    let (more, k) ← placed (nextKey first k)
    if !more then return (⟨c.patterns.getD [], c.rules.getD []⟩, k)
    else
      let (key, k) ← placed (Json.readString k)
      let (c, k) ← c.read key k
      readConfigKeys fuel false c k

/-- Read the values of a configuration from a list. -/
def readConfigList (k : Cursor) : Except Trouble (Config × Cursor) := do
  let (patterns, k) ← readNext true (fun _ => .ok []) (readList readString) k
  let (rules, k) ← readNext false (fun _ => .ok []) (readList readRule) k
  return (⟨patterns, rules⟩, k)

/-- Read the value of a configuration. -/
def readValue (k : Cursor) : Except Fault (Config × Cursor) :=
  readStructure "struct Config" readConfigList
    (fun k => readConfigKeys (k.rest.length + 1) true ⟨none, none⟩ k) k

/-- Read a configuration from a text that holds nothing else. -/
def readText (text : List Char) : Except Fault Config := do
  let (c, k) ← readValue (Cursor.start text)
  let k := k.skip
  if k.rest.isEmpty then return c else .error (k.faultNext .trailingCharacters)

/-- Read a configuration. -/
def read (text : String) : Except Fault Config := readText text.toList

end Compendium.Config
