import PolicyGate.Pattern.Unicode.Ages
import PolicyGate.Pattern.Unicode.Breaks
import PolicyGate.Pattern.Unicode.DerivedProperties
import PolicyGate.Pattern.Unicode.Folding
import PolicyGate.Pattern.Unicode.ScriptExtensions
/-! # Character properties by name

The classes of characters that a pattern may ask for by the name of a property of the Unicode standard:
general categories, scripts, yes-or-no properties, and the values of a few enumerated properties. Names
are compared without case, blanks, underscores, hyphens and a leading "is". -/

namespace PolicyGate.Pattern

def foldedName (name : List Char) : String :=
  let kept := (name.filter fun c => c.toNat < 128 && c != ' ' && c != '_' && c != '-').map Char.toLower
  let bare := match name.map Char.toLower, kept with
    | 'i' :: 's' :: _, 'i' :: 's' :: rest => if rest = ['c'] then kept else rest
    | _, _ => kept
  String.ofList bare

def allCodes : CodeSet := .range 0 CodeSet.lastCode

/-- Wider classes than the general categories, each with the categories that it takes together. -/
def categoryGroups : List (List String × List String) :=
  [(["c", "other"], ["cc", "cf", "co", "cn"]),
   (["l", "letter"], ["lu", "ll", "lt", "lm", "lo"]),
   (["lc", "casedletter"], ["lu", "ll", "lt"]),
   (["m", "mark", "combiningmark"], ["mn", "mc", "me"]),
   (["n", "number"], ["nd", "nl", "no"]),
   (["p", "punctuation", "punct"], ["pc", "pd", "pe", "pf", "pi", "po", "ps"]),
   (["s", "symbol"], ["sc", "sk", "sm", "so"]),
   (["z", "separator"], ["zl", "zp", "zs"])]

def assignedCodes : CodeSet :=
  NamedRanges.together Unicode.categories

def unassignedCodes : CodeSet :=
  (assignedCodes.union (.range 0xD800 0xDFFF)).complement CodeSet.lastCode

def singleCategory? (name : String) : Option CodeSet :=
  if name = "cn" ∨ name = "unassigned" then some unassignedCodes
  else NamedRanges.lookup? Unicode.categories name

def category? (name : String) : Option CodeSet :=
  if name = "any" then some allCodes
  else if name = "ascii" then some (.range 0 127)
  else if name = "assigned" then some assignedCodes
  else
    match categoryGroups.find? fun (names, _) => names.contains name with
    | some (_, parts) =>
      some (.ofRanges (parts.flatMap fun p => ((singleCategory? p).getD .empty).ranges))
    | none => singleCategory? name

def script? (name : String) : Option CodeSet :=
  NamedRanges.lookup? Unicode.scripts name

def unspecificScripts : List String :=
  ["common", "zyyy", "inherited", "zinh", "qaai"]

/-- The class of a script with the characters that it shares with others. -/
def scriptExtension? (name : String) : Option CodeSet :=
  (script? name).map fun own =>
    if unspecificScripts.contains name then
      own.difference (NamedRanges.together Unicode.sharedCharacters)
    else own.union ((NamedRanges.lookup? Unicode.sharedCharacters name).getD .empty)

/-- The class of the characters that were assigned in a version of the standard or before it. -/
def age? (version : String) : Option CodeSet :=
  let before := Unicode.ages.takeWhile fun e => !e.names.contains version
  (Unicode.ages.drop before.length).head?.map fun e => NamedRanges.together (e :: before)

def binaryProperty? (name : String) : Option CodeSet :=
  Unicode.derivedProperty? Unicode.derivedProperties.reverse name

def derivedValue? (table : List Unicode.NamedDerivation) (name : String) : Option CodeSet :=
  (table.find? fun e => e.names.contains name).map fun e =>
    e.derivation.codes fun n => (binaryProperty? n).getD .empty

def namedClass? (name : List Char) : Option CodeSet :=
  let n := foldedName name
  let property := if n = "cf" ∨ n = "sc" ∨ n = "lc" then none else binaryProperty? n
  property.or ((category? n).or (script? n))

def valueClass? (property value : List Char) : Option CodeSet :=
  let v := foldedName value
  let p := foldedName property
  if p = "generalcategory" ∨ p = "gc" then category? v
  else if p = "script" ∨ p = "sc" then script? v
  else if p = "scriptextensions" ∨ p = "scx" then scriptExtension? v
  else if p = "age" then age? v
  else if p = "graphemeclusterbreak" ∨ p = "gcb" then derivedValue? Unicode.graphemeBreaks v
  else if p = "sentencebreak" ∨ p = "sb" then derivedValue? Unicode.sentenceBreaks v
  else if p = "wordbreak" ∨ p = "wb" then derivedValue? Unicode.wordBreaks v
  else none

def digitCodes : CodeSet := Unicode.category "nd"

def blankCodes : CodeSet := (binaryProperty? "whitespace").getD .empty

def wordCodes : CodeSet :=
  (Unicode.Derivation.either
    (.either (.property "alphabetic") (.property "joincontrol"))
    (.categories ["mn", "mc", "me", "nd", "pc"])).codes fun n => (binaryProperty? n).getD .empty

end PolicyGate.Pattern
