import ClassBatch.Unicode.Binary
import ClassBatch.Unicode.CaseFolding
import ClassBatch.Unicode.Category
import ClassBatch.Unicode.CharSet
import ClassBatch.Unicode.Script
import ClassBatch.Unicode.ScriptExtension

/-! The sets of characters that names such as `Lu`, `Greek` or `scx=Grek` stand for. -/

namespace ClassBatch.Unicode

open CharSet

def looseName (name : List Char) : List Char :=
  let hasIs := match name with
    | a :: b :: _ => a.toLower == 'i' && b.toLower == 's'
    | _ => false
  let kept := (if hasIs then name.drop 2 else name).filter fun c =>
    c.toNat < 0x80 && c != ' ' && c != '_' && c != '-'
  let lower := kept.map Char.toLower
  if hasIs && lower == ['c'] then "isc".toList else lower

def lookup? (table : List (String × List String)) (key : String) : Option CharSet :=
  (table.lookup key).map ofLines

def categories (keys : List String) : CharSet :=
  keys.foldl (fun set key => union ((lookup? Category.ranges key).getD []) set) []

def letters : CharSet := categories ["Lu", "Ll", "Lt", "Lm", "Lo"]
def marks : CharSet := categories ["Mn", "Mc", "Me"]
def numbers : CharSet := categories ["Nd", "Nl", "No"]
def punctuation : CharSet := categories ["Pc", "Pd", "Ps", "Pe", "Pi", "Pf", "Po"]
def symbols : CharSet := categories ["Sm", "Sc", "Sk", "So"]
def separators : CharSet := categories ["Zs", "Zl", "Zp"]

def surrogates : CharSet := [⟨0xD800, 0xDFFF⟩]

def assigned : CharSet :=
  categories (Category.ranges.map Prod.fst)

def unassigned : CharSet :=
  complement (union assigned surrogates)

def category? (key : String) : Option CharSet :=
  match key with
  | "any" => some [⟨0, lastCode⟩]
  | "assigned" => some assigned
  | "ascii" => some [⟨0, 0x7F⟩]
  | "l" | "letter" => some letters
  | "lc" | "casedletter" => some (categories ["Lu", "Ll", "Lt"])
  | "lu" | "uppercaseletter" => some (categories ["Lu"])
  | "ll" | "lowercaseletter" => some (categories ["Ll"])
  | "lt" | "titlecaseletter" => some (categories ["Lt"])
  | "lm" | "modifierletter" => some (categories ["Lm"])
  | "lo" | "otherletter" => some (categories ["Lo"])
  | "m" | "mark" | "combiningmark" => some marks
  | "mn" | "nonspacingmark" => some (categories ["Mn"])
  | "mc" | "spacingmark" => some (categories ["Mc"])
  | "me" | "enclosingmark" => some (categories ["Me"])
  | "n" | "number" => some numbers
  | "nd" | "decimalnumber" | "digit" => some (categories ["Nd"])
  | "nl" | "letternumber" => some (categories ["Nl"])
  | "no" | "othernumber" => some (categories ["No"])
  | "p" | "punctuation" | "punct" => some punctuation
  | "pc" | "connectorpunctuation" => some (categories ["Pc"])
  | "pd" | "dashpunctuation" => some (categories ["Pd"])
  | "ps" | "openpunctuation" => some (categories ["Ps"])
  | "pe" | "closepunctuation" => some (categories ["Pe"])
  | "pi" | "initialpunctuation" => some (categories ["Pi"])
  | "pf" | "finalpunctuation" => some (categories ["Pf"])
  | "po" | "otherpunctuation" => some (categories ["Po"])
  | "s" | "symbol" => some symbols
  | "sm" | "mathsymbol" => some (categories ["Sm"])
  | "sc" | "currencysymbol" => some (categories ["Sc"])
  | "sk" | "modifiersymbol" => some (categories ["Sk"])
  | "so" | "othersymbol" => some (categories ["So"])
  | "z" | "separator" => some separators
  | "zs" | "spaceseparator" => some (categories ["Zs"])
  | "zl" | "lineseparator" => some (categories ["Zl"])
  | "zp" | "paragraphseparator" => some (categories ["Zp"])
  | "c" | "other" => some (complement (union letters (union marks (union numbers
      (union punctuation (union symbols separators))))))
  | "cc" | "control" | "cntrl" => some (categories ["Cc"])
  | "cf" | "format" => some (categories ["Cf"])
  | "cn" | "unassigned" => some unassigned
  | "co" | "privateuse" => some (categories ["Co"])
  | _ => none

def fullName (table : List (String × String)) (key : String) : String :=
  (table.lookup key).getD key

def script? (key : String) : Option CharSet :=
  lookup? Script.ranges (fullName Script.shortNames key)

def scriptExtension? (key : String) : Option CharSet := do
  let name := fullName Script.shortNames key
  let own ← lookup? Script.ranges name
  if name = "common" ∨ name = "inherited" then
    return difference own (ofLines ScriptExtension.claimed)
  else
    return union ((lookup? ScriptExtension.added name).getD []) own

def binary? (key : String) : Option CharSet :=
  lookup? Binary.ranges (fullName Binary.shortNames key)

def named? (name : List Char) : Option CharSet :=
  let key := String.ofList (looseName name)
  let asProperty := if key = "cf" ∨ key = "sc" ∨ key = "lc" then none else binary? key
  asProperty.or ((category? key).or (script? key))

def valued? (property value : List Char) : Option CharSet :=
  let key := String.ofList (looseName value)
  match String.ofList (looseName property) with
  | "gc" | "generalcategory" => category? key
  | "sc" | "script" => script? key
  | "scx" | "scriptextensions" => scriptExtension? key
  | _ => none

def alphabetic : CharSet :=
  (binary? "alphabetic").getD []

def decimalDigits : CharSet :=
  categories ["Nd"]

def blanks : CharSet :=
  (binary? "whitespace").getD []

def wordChars : CharSet :=
  union ((binary? "joincontrol").getD []) (union (categories ["Pc"]) (union decimalDigits
    (union marks alphabetic)))

def runMembers (s : CharSet) (first step : Nat) : Nat → List Nat
  | 0 => []
  | count + 1 =>
    if s.has first then first :: runMembers s (first + step) step count
    else runMembers s (first + step) step count

def foldCase (s : CharSet) : CharSet :=
  let fromGroups := (CaseFolding.groups.filter fun g => g.any s.has).flatten
  let fromPairs := CaseFolding.pairs.flatMap fun (first, last, step, distance) =>
    let count := (last - first) / step + 1
    (runMembers s first step count).map (· + distance) ++
      (runMembers s (first + distance) step count).map (· - distance)
  (fromGroups ++ fromPairs).foldr (fun n set => addRange ⟨n, n⟩ set) s

def foldAsciiCase (s : CharSet) : CharSet :=
  let upper := (runMembers s 0x41 1 26).map (· + 32)
  let lower := (runMembers s 0x61 1 26).map (· - 32)
  (upper ++ lower).foldr (fun n set => addRange ⟨n, n⟩ set) s

end ClassBatch.Unicode
