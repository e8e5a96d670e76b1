import EndpointRouting.Regex.Error
import EndpointRouting.Text.Age
import EndpointRouting.Text.Break
import EndpointRouting.Text.Script

/-!
# Named properties

A property is named by itself, when it is a general category, a binary property or a script, or
together with one of its values.
-/

namespace EndpointRouting.Regex
open Text

/-- Names are compared in lower case, without spaces, hyphens, underscores and a leading "is". -/
def propertyKey (name : List Char) : String :=
  let plain (cs : List Char) :=
    (cs.filter fun c => c != ' ' && c != '_' && c != '-' && c.toNat < 0x80).map Char.toLower
  if (name.take 2).map Char.toLower == ['i', 's'] then
    -- `isc` is a property of its own, and does not stand for the category `c`
    if plain (name.drop 2) == ['c'] then "isc" else String.ofList (plain (name.drop 2))
  else String.ofList (plain name)

/-- A property by itself, or a property with one of its values. -/
inductive PropertyName where
  | plain (name : List Char)
  | valued (property value : List Char)
  deriving DecidableEq, Repr

/-- The text before and after the first sign that a property has not the value. -/
def splitUnequal? : List Char → Option (List Char × List Char)
  | '!' :: '=' :: rest => some ([], rest)
  | c :: rest => (splitUnequal? rest).map fun (before, after) => (c :: before, after)
  | [] => none

/-- What is written between braces. The flag says that all but the named characters are meant. -/
def PropertyName.read (text : List Char) : PropertyName × Bool :=
  let splitOn (c : Char) : PropertyName :=
    .valued (text.takeWhile (· != c)) ((text.dropWhile (· != c)).drop 1)
  match splitUnequal? text with
  | some (property, value) => (.valued property value, true)
  | none =>
    if text.contains ':' then (splitOn ':', false)
    else if text.contains '=' then (splitOn '=', false)
    else (.plain text, false)

/-- Categories and scripts that have a name and hold no characters. -/
def emptyValues : List String :=
  ["cs", "surrogate", "hrkt", "katakanaorhiragana", "zzzz", "unknown"]

/-- Further properties, whose values are not known. -/
def unlistedProperties : List String :=
  ["bc", "bidiclass", "bidimirroringglyph", "bidipairedbracket", "bidipairedbrackettype", "blk",
    "block", "bmg", "bpb", "bpt", "canonicalcombiningclass", "casefolding", "ccc", "ce", "cf",
    "cjkaccountingnumeric", "cjkcompatibilityvariant", "cjkiicore", "cjkirggsource",
    "cjkirghsource", "cjkirgjsource", "cjkirgkpsource", "cjkirgksource", "cjkirgmsource",
    "cjkirgssource", "cjkirgtsource", "cjkirguksource", "cjkirgusource", "cjkirgvsource",
    "cjkothernumeric", "cjkprimarynumeric", "cjkrsunicode", "compex", "compositionexclusion",
    "decompositionmapping", "decompositiontype", "dm", "dt", "ea", "eastasianwidth",
    "equideo", "equivalentunifiedideograph", "expandsonnfc", "expandsonnfd", "expandsonnfkc",
    "expandsonnfkd", "fcnfkc", "fcnfkcclosure", "fullcompositionexclusion", "hangulsyllabletype",
    "hst", "indicpositionalcategory", "indicsyllabiccategory", "inpc", "insc", "isc",
    "isocomment", "jamoshortname", "jg", "joininggroup", "joiningtype", "jsn", "jt",
    "kaccountingnumeric", "kcompatibilityvariant", "kiicore", "kirggsource", "kirghsource",
    "kirgjsource", "kirgkpsource", "kirgksource", "kirgmsource", "kirgssource", "kirgtsource",
    "kirguksource", "kirgusource", "kirgvsource", "kothernumeric", "kprimarynumeric",
    "krsunicode", "lb", "lc", "linebreak", "lowercasemapping", "na", "na1", "name", "namealias",
    "nfcqc", "nfcquickcheck", "nfdqc", "nfdquickcheck", "nfkccasefold", "nfkccf", "nfkcqc",
    "nfkcquickcheck", "nfkdqc", "nfkdquickcheck", "nt", "numerictype", "numericvalue", "nv",
    "scf", "sfc", "simplecasefolding", "simplelowercasemapping", "simpletitlecasemapping",
    "simpleuppercasemapping", "slc", "stc", "suc", "tc", "titlecasemapping", "uc",
    "unicode1name", "unicoderadicalstroke", "uppercasemapping", "urs", "verticalorientation",
    "vo", "xonfc", "xonfd", "xonfkc", "xonfkd"]

/-- The sets that a property gives by its values, if it is one that has values. -/
def valuesOf? : String → Option (String → Option Ranges)
  | "gc" | "generalcategory" => some generalCategories.get?
  | "sc" | "script" => some scripts.get?
  | "scx" | "scriptextensions" => some scriptExtension?
  | "age" => some age?
  | "gcb" | "graphemeclusterbreak" => some graphemeBreaks.get?
  | "wb" | "wordbreak" => some wordBreaks.get?
  | "sb" | "sentencebreak" => some sentenceBreaks.get?
  | _ => none

/-- The set that a name stands for by itself. -/
def plainProperty? (name : String) : Option Ranges :=
  ((generalCategories.get? name).or (binaryProperties.get? name)).or (scripts.get? name)

def PropertyName.ranges : PropertyName → Except Cause Ranges
  | .plain name =>
    match plainProperty? (propertyKey name) with
    | some ranges => .ok ranges
    | none =>
      .error (if emptyValues.contains (propertyKey name) then .propertyValueUnknown
        else .propertyUnknown)
  | .valued property value =>
    match valuesOf? (propertyKey property) with
    | some values =>
      match values (propertyKey value) with
      | some ranges => .ok ranges
      | none => .error .propertyValueUnknown
    | none =>
      .error (if (binaryProperties.get? (propertyKey property)).isSome ||
          unlistedProperties.contains (propertyKey property) then .propertyValueUnknown
        else .propertyUnknown)

def PropertyName.contains (p : PropertyName) (c : Char) : Bool :=
  match p.ranges with
  | .ok ranges => ranges.contains c.toNat
  | .error _ => false

end EndpointRouting.Regex
