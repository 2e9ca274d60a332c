import BuildAlign.Pattern.CharSet
import BuildAlign.Text.Cut
import BuildAlign.Unicode.Category
import BuildAlign.Unicode.Script

/-!
Sets of characters that are named by a property: a general category or a group of them, a script, or
one of the properties of letters and blanks. Other properties, such as the age of a character or how
a text breaks at it, are not known here.
-/

namespace BuildAlign.CharSet

/-- The name of a property as it is compared: without case, spaces, dashes and underscores, and
without `is` in front, which is kept only in the name `isc`. -/
def propertyName (text : List Char) : String :=
  let plain (s : List Char) : String :=
    String.ofList ((s.filter fun c => c.toNat < 0x80 && !" _-".toList.contains c).map Char.toLower)
  match text with
  | i :: s :: rest =>
    if i.toLower == 'i' && s.toLower == 's' then
      if plain rest == "c" then "isc" else plain rest
    else plain text
  | _ => plain text

/-- The assigned characters of some general categories. -/
def categories (p : String → Bool) : CharSet :=
  .table ((Unicode.categories.filter fun (short, _) => p short).flatMap fun (_, _, ranges) => ranges)

def unassigned : CharSet :=
  .compl (categories fun _ => true)

/-- The set of a general category, or of a group of them. -/
def category? : String → Option CharSet
  | "any" => some (.compl .empty)
  | "ascii" => some (.range '\x00' '\x7f')
  | "assigned" => some (categories fun _ => true)
  | "cn" | "unassigned" => some unassigned
  | "c" | "other" => some (.union (categories (·.startsWith "c")) unassigned)
  | "l" | "letter" => some (categories (·.startsWith "l"))
  | "lc" | "casedletter" => some (categories ["ll", "lt", "lu"].contains)
  | "m" | "mark" | "combiningmark" => some (categories (·.startsWith "m"))
  | "n" | "number" => some (categories (·.startsWith "n"))
  | "p" | "punctuation" | "punct" => some (categories (·.startsWith "p"))
  | "s" | "symbol" => some (categories (·.startsWith "s"))
  | "z" | "separator" => some (categories (·.startsWith "z"))
  | "cntrl" => some (.table Unicode.control)
  | "digit" => some (.table Unicode.decimalNumber)
  | name =>
    (Unicode.categories.find? fun (short, long, _) => name == short || name == long).map
      fun (_, _, ranges) => .table ranges

def script? (name : String) : Option CharSet :=
  let short := ((Unicode.scriptNames.find? (·.1 == name)).map Prod.snd).getD name
  let runs := (Unicode.basicScripts ++ Unicode.supplementaryScripts).filter (·.1 == short)
  if runs.isEmpty then none else some (.table (runs.map Prod.snd))

def lowercase : CharSet :=
  .table (Unicode.lowercaseLetter ++ Unicode.otherLowercase)

def uppercase : CharSet :=
  .table (Unicode.uppercaseLetter ++ Unicode.otherUppercase)

def alphabetic : CharSet :=
  unions [lowercase, uppercase, categories (["lm", "lo", "lt", "nl"].contains),
    .table Unicode.otherAlphabetic]

def property? : String → Option CharSet
  | "alphabetic" | "alpha" => some alphabetic
  | "lowercase" | "lower" => some lowercase
  | "uppercase" | "upper" => some uppercase
  | "whitespace" | "wspace" | "space" => some blank
  | name => category? name <|> script? name

def propertyValue? (name value : String) : Option CharSet :=
  match name with
  | "generalcategory" | "gc" => category? value
  | "script" | "sc" => script? value
  | _ => none

/-- The set that is written in the braces of a property class: a name, or a property and its value
between a colon or an equals sign. -/
def ofProperty? (text : List Char) : Option CharSet :=
  match Text.cutFirst? [':'] text <|> Text.cutFirst? ['='] text with
  | some (name, value) => propertyValue? (propertyName name) (propertyName value)
  | none => property? (propertyName text)

end BuildAlign.CharSet
