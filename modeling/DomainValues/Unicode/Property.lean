import DomainValues.Unicode.Age
import DomainValues.Unicode.BinaryProperty
import DomainValues.Unicode.GeneralCategory
import DomainValues.Unicode.Script
import DomainValues.Unicode.ScriptExtension
import DomainValues.Unicode.Segmentation

/-!
# Looking up character properties

A property is selected by a name alone (a binary property, a general category or a script) or
by a property and one of its values.  Names are compared in loose form.

The properties with values that can be looked up are the general category, the script, the
script extension, the age and the three break properties.  Other properties of the standard
are known by name only: asking for a value of one fails differently from asking for a
property that does not exist.
-/

namespace DomainValues.Unicode

/-- Why a property has no set. -/
inductive PropertyError where
  /-- No property has the name. -/
  | propertyNotFound
  /-- The property has no such value. -/
  | valueNotFound
  deriving DecidableEq, Repr

/-- A general category that is a union of others. -/
structure CategoryGroup where
  /-- The loose names. -/
  names : List String
  /-- The loose short names of the members. -/
  members : List String

/-- The unions of general categories. -/
def categoryGroups : List CategoryGroup := [
  ⟨["lc", "casedletter"], ["lu", "ll", "lt"]⟩,
  ⟨["l", "letter"], ["lu", "ll", "lt", "lm", "lo"]⟩,
  ⟨["m", "mark", "combiningmark"], ["mn", "mc", "me"]⟩,
  ⟨["n", "number"], ["nd", "nl", "no"]⟩,
  ⟨["p", "punctuation", "punct"], ["pc", "pd", "ps", "pe", "pi", "pf", "po"]⟩,
  ⟨["s", "symbol"], ["sm", "sc", "sk", "so"]⟩,
  ⟨["z", "separator"], ["zs", "zl", "zp"]⟩]

/-- The code points of some categories, given by loose short name. -/
def categories (names : List String) : CharSet :=
  CharSet.unions (names.filterMap (findChars? generalCategoryRows))

/-- The scalar values to which a character is assigned. -/
def assigned : CharSet := CharSet.unions (generalCategoryRows.map PropertyRow.chars)

/-- The scalar values to which none is. -/
def unassigned : CharSet := CharSet.complement CharSet.scalars assigned

/-- The set of a general category, given by loose name.  Surrogates are no scalar values, and
their category has no set. -/
def generalCategory? (name : String) : Option CharSet :=
  if name = "any" then some CharSet.scalars
  else if name = "assigned" then some assigned
  else if name = "ascii" then some (CharSet.ofRange 0 0x7F)
  else if ["cn", "unassigned"].contains name then some unassigned
  else if ["c", "other"].contains name then
    some (CharSet.union (categories ["cc", "cf", "co"]) unassigned)
  else match categoryGroups.find? fun g => g.names.contains name with
    | some group => some (categories group.members)
    | none => findChars? generalCategoryRows name

/-- Whether a loose name is that of a general category. -/
def isGeneralCategory (name : String) : Bool :=
  ["cs", "surrogate"].contains name || (generalCategory? name).isSome

/-- The names of the properties that have values. -/
inductive ValuedProperty where
  | generalCategory
  | script
  | scriptExtension
  | age
  | graphemeBreak
  | wordBreak
  | sentenceBreak

/-- The property with values of a loose name. -/
def ValuedProperty.ofName? (name : String) : Option ValuedProperty :=
  if ["gc", "generalcategory", "category"].contains name then some .generalCategory
  else if ["sc", "script"].contains name then some .script
  else if ["scx", "scriptextensions"].contains name then some .scriptExtension
  else if ["age"].contains name then some .age
  else if ["gcb", "graphemeclusterbreak"].contains name then some .graphemeBreak
  else if ["wb", "wordbreak"].contains name then some .wordBreak
  else if ["sb", "sentencebreak"].contains name then some .sentenceBreak
  else none

/-- The loose names of the remaining properties of the standard. -/
def otherPropertyNames : List String := [
  "bc", "bidiclass", "blk", "block", "bmg", "bidimirroringglyph", "bpb", "bidipairedbracket",
  "bpt", "bidipairedbrackettype", "ccc", "canonicalcombiningclass", "ce",
  "compositionexclusion", "cf", "casefolding", "compex", "fullcompositionexclusion", "dm",
  "decompositionmapping", "dt", "decompositiontype", "ea", "eastasianwidth", "equideo",
  "equivalentunifiedideograph", "fcnfkc", "fcnfkcclosure", "grbase", "grlink", "graphemelink",
  "hst", "hangulsyllabletype", "incb", "indicconjunctbreak", "inpc",
  "indicpositionalcategory", "insc", "indicsyllabiccategory", "isc", "isocomment", "jamo",
  "jsn", "jamoshortname", "jg", "joininggroup", "jt", "joiningtype", "lb", "linebreak", "lc",
  "lowercasemapping", "na", "name", "na1", "unicode1name", "namealias", "nfcqc",
  "nfcquickcheck", "nfdqc", "nfdquickcheck", "nfkccf", "nfkccasefold", "nfkcqc",
  "nfkcquickcheck", "nfkcscf", "nfkcsimplecasefold", "nfkdqc", "nfkdquickcheck", "nt",
  "numerictype", "nv", "numericvalue", "rs", "scf", "simplecasefolding", "sfc", "slc",
  "simplelowercasemapping", "stc", "simpletitlecasemapping", "suc", "simpleuppercasemapping",
  "tc", "titlecasemapping", "uc", "uppercasemapping", "vo", "verticalorientation", "xonfc",
  "expandsonnfc", "xonfd", "expandsonnfd", "xonfkc", "expandsonnfkc", "xonfkd",
  "expandsonnfkd", "cwkcf", "changeswhennfkccasefolded"]

/-- The loose names of the script values that no character has as its script. -/
def memberlessScripts : List String := ["zzzz", "unknown", "hrkt", "katakanaorhiragana"]

/-- The set of a script, given by loose name. -/
def script? (name : String) : Option CharSet := findChars? scriptRows name

/-- The set of a script extension, given by the loose name of the script. -/
def scriptExtension? (name : String) : Option CharSet :=
  match findRow? scriptRows name with
  | none => none
  | some row =>
      match findRow? scriptExtensionRows (row.names.headD name) with
      | some wider => some wider.chars
      | none => some row.chars

/-- The code points assigned up to a version, given by loose name. -/
def age? (name : String) : Option CharSet :=
  match ageRows.findIdx? fun row => row.names.contains name with
  | none => none
  | some i => some (CharSet.unions ((ageRows.take (i + 1)).map PropertyRow.chars))

/-- The set of a value of a break property: a row, or what no row has. -/
def breakValue? (rows : List PropertyRow) (name : String) : Option CharSet :=
  if ["xx", "other"].contains name then
    some (CharSet.complement CharSet.scalars (CharSet.unions (rows.map PropertyRow.chars)))
  else findChars? rows name

/-- The set of a property's value, both given by loose name. -/
def ValuedProperty.value? : ValuedProperty → String → Option CharSet
  | .generalCategory, name => generalCategory? name
  | .script, name => script? name
  | .scriptExtension, name => scriptExtension? name
  | .age, name => age? name
  | .graphemeBreak, name => breakValue? graphemeBreakRows name
  | .wordBreak, name => breakValue? wordBreakRows name
  | .sentenceBreak, name => breakValue? sentenceBreakRows name

/-- Whether a loose name is that of a property without looking at categories and scripts. -/
def isPropertyName (name : String) : Bool :=
  (findRow? binaryPropertyRows name).isSome || (ValuedProperty.ofName? name).isSome ||
    otherPropertyNames.contains name

/-- The set of a binary property, a general category or a script.  The names `cf`, `sc` and
`lc` are also short names of properties with values, and stand for the general categories. -/
def lookUp (name : String) : Except PropertyError CharSet :=
  let name := looseName name
  if isPropertyName name && !(["cf", "sc", "lc"].contains name) then
    match findChars? binaryPropertyRows name with
    | some s => .ok s
    | none => .error .propertyNotFound
  else if isGeneralCategory name then
    match generalCategory? name with
    | some s => .ok s
    | none => .error .valueNotFound
  else match script? name with
    | some s => .ok s
    | none =>
        .error (if memberlessScripts.contains name then .valueNotFound else .propertyNotFound)

/-- The set of a value of a property. -/
def lookUpValue (property value : String) : Except PropertyError CharSet :=
  let property := looseName property
  match ValuedProperty.ofName? property with
  | some p =>
      match p.value? (looseName value) with
      | some s => .ok s
      | none => .error .valueNotFound
  | none => .error (if isPropertyName property then .valueNotFound else .propertyNotFound)

/-! ## Classes used elsewhere -/

/-- The decimal digits of all scripts. -/
def decimalDigits : CharSet := categories ["nd"]

/-- White space. -/
def whiteSpace : CharSet := (findChars? binaryPropertyRows "whitespace").getD CharSet.empty

/-- What counts as part of a word: letters and marks, decimal digits, connecting punctuation
and the joiners. -/
def wordCharacters : CharSet :=
  CharSet.unions <| [categories ["mn", "mc", "me", "nd", "pc"]] ++
    ["alphabetic", "joincontrol"].filterMap (findChars? binaryPropertyRows)

end DomainValues.Unicode
