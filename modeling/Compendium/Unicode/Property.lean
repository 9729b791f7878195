import Compendium.Unicode.Category
import Compendium.Unicode.Script
import Compendium.Unicode.BinaryProperty
import Compendium.Unicode.Age

/-!
# Looking properties up by name

A property of characters is asked for by one name (`Greek`, `Lu`, `Alphabetic`) or by a name
and a value (`script=Greek`).  Names are compared loosely: case, blanks, `_`, `-` and a
leading `is` do not count.  The module also has the three sets that have an escape of their
own: digits, blanks and word characters.
-/

namespace Compendium.Unicode

/-- The form in which names are compared. -/
def looseName (name : String) : String :=
  let chars := name.toList
  let kept : List Char → List Char := fun cs =>
    (cs.filter fun c => c.toNat < 0x80 ∧ c ≠ ' ' ∧ c ≠ '_' ∧ c ≠ '-').map Char.toLower
  match chars with
  | i :: s :: rest =>
    if i.toLower = 'i' ∧ s.toLower = 's' then
      -- the one name for which the leading letters count
      if kept rest = ['c'] then "isc" else String.ofList (kept rest)
    else String.ofList (kept chars)
  | _ => String.ofList (kept chars)

/-- Names of general categories and of groups of them, in loose form. -/
def categoryNames : List (List String × List Category) := [
  (["lu", "uppercaseletter"], [.uppercaseLetter]),
  (["ll", "lowercaseletter"], [.lowercaseLetter]),
  (["lt", "titlecaseletter"], [.titlecaseLetter]),
  (["lc", "casedletter"], [.uppercaseLetter, .lowercaseLetter, .titlecaseLetter]),
  (["lm", "modifierletter"], [.modifierLetter]),
  (["lo", "otherletter"], [.otherLetter]),
  (["l", "letter"],
    [.uppercaseLetter, .lowercaseLetter, .titlecaseLetter, .modifierLetter, .otherLetter]),
  (["mn", "nonspacingmark"], [.nonspacingMark]),
  (["mc", "spacingmark"], [.spacingMark]),
  (["me", "enclosingmark"], [.enclosingMark]),
  (["m", "mark", "combiningmark"], [.nonspacingMark, .spacingMark, .enclosingMark]),
  (["nd", "decimalnumber", "digit"], [.decimalNumber]),
  (["nl", "letternumber"], [.letterNumber]),
  (["no", "othernumber"], [.otherNumber]),
  (["n", "number"], [.decimalNumber, .letterNumber, .otherNumber]),
  (["pc", "connectorpunctuation"], [.connectorPunctuation]),
  (["pd", "dashpunctuation"], [.dashPunctuation]),
  (["ps", "openpunctuation"], [.openPunctuation]),
  (["pe", "closepunctuation"], [.closePunctuation]),
  (["pi", "initialpunctuation"], [.initialPunctuation]),
  (["pf", "finalpunctuation"], [.finalPunctuation]),
  (["po", "otherpunctuation"], [.otherPunctuation]),
  (["p", "punctuation", "punct"],
    [.connectorPunctuation, .dashPunctuation, .openPunctuation, .closePunctuation,
      .initialPunctuation, .finalPunctuation, .otherPunctuation]),
  (["sm", "mathsymbol"], [.mathSymbol]),
  (["sc", "currencysymbol"], [.currencySymbol]),
  (["sk", "modifiersymbol"], [.modifierSymbol]),
  (["so", "othersymbol"], [.otherSymbol]),
  (["s", "symbol"], [.mathSymbol, .currencySymbol, .modifierSymbol, .otherSymbol]),
  (["zs", "spaceseparator"], [.spaceSeparator]),
  (["zl", "lineseparator"], [.lineSeparator]),
  (["zp", "paragraphseparator"], [.paragraphSeparator]),
  (["z", "separator"], [.spaceSeparator, .lineSeparator, .paragraphSeparator]),
  (["cc", "control", "cntrl"], [.control]),
  (["cf", "format"], [.format]),
  (["co", "privateuse"], [.privateUse]),
  (["cn", "unassigned"], [.unassigned]),
  (["c", "other"], [.control, .format, .privateUse, .unassigned])]

/-- Names of properties that are known but hold no set of characters here. -/
def otherPropertyNames : List String :=
  ("bc bidiclass bidimirroringglyph bidipairedbracket bidipairedbrackettype blk block bmg bpb " ++
    "bpt canonicalcombiningclass casefolding ccc ce cf changeswhennfkccasefolded compex " ++
    "compositionexclusion cwkcf decompositionmapping decompositiontype dm dt ea " ++
    "eastasianwidth equideo equivalentunifiedideograph fullcompositionexclusion " ++
    "hangulsyllabletype hst hyphen indicpositionalcategory indicsyllabiccategory inpc insc " ++
    "isc isocomment jg joininggroup joiningtype jt lb lc linebreak lowercasemapping na na1 " ++
    "name nfcqc nfcquickcheck nfdqc nfdquickcheck nfkccasefold nfkccf nfkcqc nfkcquickcheck " ++
    "nfkdqc nfkdquickcheck nt numerictype numericvalue nv pcm prependedconcatenationmark scf " ++
    "sfc simplecasefolding simplelowercasemapping simpletitlecasemapping " ++
    "simpleuppercasemapping slc stc suc tc titlecasemapping uc unicode1name " ++
    "uppercasemapping verticalorientation vo").splitOn " "

/-- Names of properties that take a value. -/
def valuedPropertyNames : List String :=
  ["gc", "generalcategory", "category", "sc", "script", "scx", "scriptextensions", "age",
    "gcb", "graphemeclusterbreak", "wb", "wordbreak", "sb", "sentencebreak"]

/-- Why a property cannot be looked up. -/
inductive LookupFault where
  | unknownProperty
  | unknownValue
deriving DecidableEq

/-- The set of a general category or group of categories. -/
def categoryCharset? (loose : String) : Option Charset :=
  if loose = "any" then some Charset.empty.complement
  else if loose = "ascii" then some (Charset.range '\x00' '\x7f')
  else if loose = "assigned" then some assignedCharacters
  else (categoryNames.find? fun (names, _) => names.contains loose).map fun (_, gs) =>
    Category.union gs

/-- The script with the given name. -/
def script? (loose : String) : Option Script := scripts.find? fun s => s.names.contains loose

/-- Whether the name is one of a general category, a category without characters included. -/
def isCategoryName (loose : String) : Bool :=
  ["cs", "surrogate"].contains loose

/-- The set asked for by one name: a property, else a category, else a script. -/
def lookupName (name : String) : Except LookupFault Charset :=
  let loose := looseName name
  -- three names of categories that are also names of properties
  let isProperty := loose ≠ "cf" ∧ loose ≠ "sc" ∧ loose ≠ "lc" ∧
    (otherPropertyNames.contains loose ∨ valuedPropertyNames.contains loose)
  match binaryProperties.find? fun p => p.names.contains loose with
  | some p => .ok p.charset
  | none =>
    if isProperty then .error .unknownProperty
    else match categoryCharset? loose with
    | some s => .ok s
    | none =>
      if isCategoryName loose then .error .unknownValue
      else match script? loose with
      | some s => .ok s.charset
      | none =>
        if emptyScriptNames.contains loose then .error .unknownValue
        else .error .unknownProperty

/-- The set asked for by a property's name and a value. -/
def lookupValue (name value : String) : Except LookupFault Charset :=
  let property := looseName name
  let loose := looseName value
  let orUnknown : Option Charset → Except LookupFault Charset
    | some s => .ok s
    | none => .error .unknownValue
  if ["gc", "generalcategory", "category"].contains property then
    orUnknown (categoryCharset? loose)
  else if ["sc", "script"].contains property then
    orUnknown ((script? loose).map Script.charset)
  else if ["scx", "scriptextensions"].contains property then
    orUnknown ((script? loose).map Script.extensions)
  else if property = "age" then
    orUnknown (ageCharset? loose)
  else if valuedPropertyNames.contains property ∨ otherPropertyNames.contains property
      ∨ (binaryProperties.any fun p => p.names.contains property) then
    .error .unknownValue
  else .error .unknownProperty

/-! ### Digits, blanks and word characters -/

/-- The characters that have the property of the given loose name. -/
def binaryCharset (loose : String) : Charset :=
  match binaryProperties.find? fun p => p.names.contains loose with
  | some p => p.charset
  | none => Charset.empty

/-- The decimal digits of all scripts. -/
def digits : Charset := Category.decimalNumber.charset

/-- The characters of white space. -/
def blanks : Charset := binaryCharset "whitespace"

/-- The characters of words: letters, marks, decimal digits, connecting punctuation and the
two joiners. -/
def wordCharacters : Charset :=
  (binaryCharset "alphabetic").union <|
    (Category.union [.nonspacingMark, .spacingMark, .enclosingMark, .decimalNumber,
      .connectorPunctuation]).union (binaryCharset "joincontrol")

/-- The letters: characters that names may start with. -/
def alphabetic : Charset := binaryCharset "alphabetic"

/-- The letters and the numbers of all kinds. -/
def alphanumeric : Charset :=
  alphabetic.union (Category.union [.decimalNumber, .letterNumber, .otherNumber])

end Compendium.Unicode
