import Eir.Pattern.Property.Binary
import Eir.Pattern.Property.Category

/-!
# Properties that follow from others

Properties that a character has or has not, and that are defined by its category
and by other properties, up to a few exceptions.
-/

namespace Eir.Pattern.Property

/-- The lower-case characters. -/
def lowercase : Ranges := .union (category "ll") (binary "olower")

/-- The upper-case characters. -/
def uppercase : Ranges := .union (category "lu") (binary "oupper")

/-- The characters that have a case. -/
def cased : Ranges := .unionAll [lowercase, uppercase, category "lt"]

/-- The characters of alphabets. -/
def alphabetic : Ranges := .unionAll [cased, categoriesOf ["lm", "lo", "nl"], binary "oalpha"]

/-- The symbols of mathematics. -/
def math : Ranges := .union (category "sm") (binary "omath")

/-- The characters that continue the one before them. -/
def graphemeExtend : Ranges := .union (categoriesOf ["me", "mn"]) (binary "ogrext")

/-- The characters that others may continue. -/
def graphemeBase : Ranges :=
  .diff assigned (.union graphemeExtend (categoriesOf ["cc", "cf", "co", "zl", "zp"]))

/-- The punctuation that may stand inside a word. -/
def insideWords : Ranges := .ofRows [
  "27 1 6 1 b 1 7c 1 2cf 1 1d7 1 94 1 1a23 2 a 1 2 1 ddeb 1 3e 1 2 1 b1 1 6 1 b 1"]

/-- The characters that do not count when the case of a text is asked for. -/
def caseIgnorable : Ranges := .union insideWords (categoriesOf ["mn", "me", "cf", "lm", "sk"])

/-- The characters of the syntax of patterns. -/
def patternCharacters : Ranges := .union (binary "patsyn") (binary "patws")

/-- The characters that an identifier may begin with. -/
def identifierStart : Ranges :=
  .diff (.union (categoriesOf ["lu", "ll", "lt", "lm", "lo", "nl"]) (binary "oids"))
    patternCharacters

/-- The characters that an identifier may go on with. -/
def identifierContinue : Ranges :=
  .diff (.unionAll [identifierStart, categoriesOf ["mn", "mc", "nd", "pc"], binary "oidc"])
    patternCharacters

/-- The characters that an identifier may begin with in just one of two rules: the plain one, and
the one whose identifiers stay identifiers in the compatible form of a text. -/
def unstableStart : Ranges := .ofRows [
  "37a 1 ab8 1 7f 1 21e7 2 cbc1 6 196 2 74 1 1 1 1 1 1 1 1 1 1 1 1 1 1 1 11f 2"]

/-- The same for the characters that an identifier may go on with. -/
def unstableContinue : Ranges := .ofRows [
  "37a 1 2d20 2 cbc1 6 196 2 74 1 1 1 1 1 1 1 1 1 1 1 1 1 1 1"]

/-- The characters that are not shown when a font lacks them. -/
def defaultIgnorable : Ranges :=
  .diff (.unionAll [binary "odi", category "cf", binary "vs"])
    (.unionAll [binary "wspace", binary "pcm", .between 0xFFF9 0xFFFB, .between 0x13430 0x1343F])

/-- The characters of upper or title case that do not change in lower case, and the others that
do. -/
def fixedUpper : Ranges := .ofRows [
  "3d2 3 1d2d 1 4 1 3 3 2 3 2 1 3 5 6 1 3 1 3 2 2 2 1 1 a 2 5 1 1b2ba 1a 1a 1a 1a 1a 1a 1 1 2 2",
  "1 2 2 2 4 1 8 1a 1a 1a 2 1 4 2 8 1 7 1b 2 1 4 1 5 1 1 3 7 1b 1a 1a 1a 1a 1a 1a 1a 1a 1a 1a",
  "1a 1e 19 21 19 21 19 21 19 21 19 21 1 1965 1a 6 1a 6 1a"]

/-- The characters that change in lower case. -/
def changesLowercased : Ranges := .symmDiff (.union uppercase (category "lt")) fixedUpper

/-- The characters of lower or title case that do not change in upper case, and the others that
do. -/
def fixedLower : Ranges := .ofRows [
  "aa 1 f 1 7d 1 54 1 1c 2 e 1 3 1 62 1 12 6 1b 1 2 1 1 1 2 3 2 1 4 1 5 2 1 1 2 2 1 7 1 2 1 1 2",
  "3 6 5 1 1 1 8 2 1a 7 2 1e 5 95 1 81 1 163 1 27 1 b73 1 c03 79 1 3 1 10 1 31 dc 2 1 1 1d1 1 d",
  "1 10 d 6d 1 3 2 3 1 1b 1 4 1 4 1 2 2 8 4 b27 1 2 1 2 7 66 1 79b7 2 92 2 3e 9 15 1 6 1 19 1",
  "23 1 1 1 1c 3 3 3 335 23 1 7 1 e 5c16 1 2 3 1 2a 1 9 cc5f 1a 1a 7 1 12 1a 1a 1a 4 1 1 1 7 1",
  "b 1a 1a 1a 1a 1a 1a 1a 1a 1a 1a 1a 1a 1a 1a 1a 1a 1a 1c 1c 19 1 6 1a 19 1 6 1a 19 1 6 1a 19",
  "1 6 1a 19 1 6 1 1 734 a 1 14 6 6 105 3e"]

/-- The characters that change in upper case. -/
def changesUppercased : Ranges := .symmDiff (.union lowercase (category "lt")) fixedLower

/-- The characters that change in just one of upper case and title case. -/
def upperNotTitle : Ranges := .ofRows [
  "1c4 2 1 2 1 2 25 2 edd 2b 2 3 e88 8 8 8 8 8 c 1 f 1 2f 1"]

/-- The characters that change in title case. -/
def changesTitlecased : Ranges := .symmDiff changesUppercased upperNotTitle

/-- The characters that change in just one of lower case and the folded form. -/
def foldedNotLower : Ranges := .ofRows [
  "b5 1 29 1 69 1 35 1 1c5 1 7c 1 d 2 3 2 19 2 3 1 191 1 e18 56 2 6 882 9 211 2 e4 8 8 8 8 8 a",
  "3 2 1 a 3 2 1 2a 3 2 1 8b78 50 4f40 7 c 5"]

/-- The characters that change when case is folded. -/
def changesCasefolded : Ranges := .symmDiff changesLowercased foldedNotLower

/-- The properties that follow from others, with their names. -/
def derived : List (List String × Ranges) := [
  (["alpha", "alphabetic"], alphabetic),
  (["lower", "lowercase"], lowercase),
  (["upper", "uppercase"], uppercase),
  (["cased"], cased),
  (["ci", "caseignorable"], caseIgnorable),
  (["cwl", "changeswhenlowercased"], changesLowercased),
  (["cwu", "changeswhenuppercased"], changesUppercased),
  (["cwt", "changeswhentitlecased"], changesTitlecased),
  (["cwcf", "changeswhencasefolded"], changesCasefolded),
  (["cwcm", "changeswhencasemapped"],
    .unionAll [changesLowercased, changesUppercased, changesTitlecased]),
  (["di", "defaultignorablecodepoint"], defaultIgnorable),
  (["grbase", "graphemebase"], graphemeBase),
  (["grext", "graphemeextend"], graphemeExtend),
  (["math"], math),
  (["ids", "idstart"], identifierStart),
  (["idc", "idcontinue"], identifierContinue),
  (["xids", "xidstart"], .symmDiff identifierStart unstableStart),
  (["xidc", "xidcontinue"], .symmDiff identifierContinue unstableContinue)]

/-- The characters that have the property of a name. -/
def binary? (name : String) : Option Ranges :=
  match derived.find? fun property => property.1.contains name with
  | some property => some property.2
  | none => extent? binaryTables name

end Eir.Pattern.Property
