/-
The parts that the characters of Unicode 16.0 play where a text is cut into graphemes, words and
sentences. Other properties tell most of them. A part is listed with a set of characters, and a
character plays the first part in whose set it is.
-/
import ColumnSelect.Unicode.BinaryProperty
import ColumnSelect.Unicode.Category
import ColumnSelect.Unicode.Script

namespace ColumnSelect.Unicode

/-- The characters of the part of that name. -/
def playing? (parts : List (List String × CodeSet)) (name : String) : Option CodeSet :=
  match parts with
  | [] => none
  | (names, codes) :: others =>
    if names.contains name then some codes else (playing? others name).map (·.diff codes)

/-! ## Graphemes -/

/-- Letters that are written in front of the letter behind them, or above it. -/
def prefixedLetters : CodeSet := CodeSet.ofRows [
  "D4E 111C2-111C3 113D1 1193F 11941 11A3A 11A84-11A89 11D46 11F02"]

/-- Marks that take room and stay apart from the character before them. -/
def detachedMarks : CodeSet := CodeSet.ofRows [
  "102B-102C 1038 1062-1064 1067-106D 1083 1087-108C 108F 109A-109C 1A61 1A63-1A64 AA7B AA7D",
  "11720-11721"]

/-- The parts in graphemes. -/
def graphemeBreaks : List (List String × CodeSet) := [
  (["cr"], [(0x0D, 0x0D)]),
  (["lf"], [(0x0A, 0x0A)]),
  (["zwj"], [(0x200D, 0x200D)]),
  (["ex", "extend"], binaryProperty "grext" ++ binaryProperty "emod"),
  (["pp", "prepend"], binaryProperty "pcm" ++ prefixedLetters),
  (["cn", "control"],
    ["cc", "cf", "zl", "zp"].flatMap category ++ (binaryProperty "di").diff assigned),
  (["ri", "regionalindicator"], binaryProperty "ri"),
  (["l"], [(0x1100, 0x115F), (0xA960, 0xA97C)]),
  (["v"], CodeSet.ofRows ["1160-11A7 D7B0-D7C6 16D63 16D67-16D6A"]),
  (["t"], [(0x11A8, 0x11FF), (0xD7CB, 0xD7FB)]),
  (["lv"], (List.range 399).map fun k => (0xAC00 + 28 * k, 0xAC00 + 28 * k)),
  (["lvt"], [(0xAC00, 0xD7A3)]),
  (["sm", "spacingmark"], (category "mc" ++ [(0x0E33, 0x0E33), (0x0EB3, 0x0EB3)]).diff detachedMarks)]

/-! ## Words -/

/-- The characters that numbers are written with, and the signs that stand in front of numbers. -/
def numberCodes : CodeSet :=
  category "nd" ++ (binaryProperty "pcm").diff [(0x070F, 0x070F)] ++ [(0x066B, 0x066B), (0x19DA, 0x19DA)]

/-- Signs that are no letters and stand in words like letters. -/
def letterLike : CodeSet := CodeSet.ofRows [
  "B8 2C2-2C5 2D2-2D7 2DE-2DF 2E5-2EB 2ED 2EF-2FF 55A-55C 55E 58A 5F3 70F A708-A716 A720-A721",
  "A789-A78A AB5B"]

/-- The scripts whose words are not told apart by the characters alone. -/
def unspacedScripts : List String :=
  ["ahom", "hiragana", "khmer", "lao", "myanmar", "newtailue", "taile", "taitham", "taiviet", "thai"]

/-- The parts in words. -/
def wordBreaks : List (List String × CodeSet) := [
  (["cr"], [(0x0D, 0x0D)]),
  (["lf"], [(0x0A, 0x0A)]),
  (["nl", "newline"], CodeSet.ofRows ["B-C 85 2028-2029"]),
  (["zwj"], [(0x200D, 0x200D)]),
  (["extend"], binaryProperty "grext" ++ category "mc" ++ binaryProperty "emod"),
  (["ri", "regionalindicator"], binaryProperty "ri"),
  (["dq", "doublequote"], [(0x22, 0x22)]),
  (["sq", "singlequote"], [(0x27, 0x27)]),
  (["hl", "hebrewletter"], (script "hebrew").inter (category "lo")),
  (["ka", "katakana"], script "katakana" ++ CodeSet.ofRows ["3031-3035 309B-309C 30A0 30FC FF70"]),
  (["nu", "numeric"], numberCodes),
  (["le", "aletter"],
    (binaryProperty "alpha" ++ letterLike).diff (binaryProperty "ideo" ++ unspacedScripts.flatMap script)),
  (["fo", "format"], (category "cf").diff [(0x200B, 0x200B)]),
  (["ml", "midletter"], CodeSet.ofRows ["3A B7 387 55F 5F4 2027 FE13 FE55 FF1A"]),
  (["mn", "midnum"],
    CodeSet.ofRows ["2C 3B 37E 589 60C-60D 66C 7F8 2044 FE10 FE14 FE50 FE54 FF0C FF1B"]),
  (["mb", "midnumlet"], CodeSet.ofRows ["2E 2018-2019 2024 FE52 FF07 FF0E"]),
  (["ex", "extendnumlet"], category "pc" ++ [(0x202F, 0x202F)]),
  (["wsegspace"], (category "zs").diff [(0xA0, 0xA0), (0x2007, 0x2007), (0x202F, 0x202F)])]

/-! ## Sentences -/

/-- Quotation marks that are neither initial nor final. -/
def otherQuotes : CodeSet := CodeSet.ofRows [
  "22 27 275B-2760 2E00-2E01 2E06-2E08 2E0B 1F676-1F678"]

/-- The parts in sentences. The letters of Georgian have no case there. -/
def sentenceBreaks : List (List String × CodeSet) := [
  (["cr"], [(0x0D, 0x0D)]),
  (["lf"], [(0x0A, 0x0A)]),
  (["se", "sep"], CodeSet.ofRows ["85 2028-2029"]),
  (["ex", "extend"], binaryProperty "grext" ++ category "mc" ++ [(0x200D, 0x200D)]),
  (["sp"], binaryProperty "wspace"),
  (["lo", "lower"], (binaryProperty "lower").diff [(0x10D0, 0x10FA), (0x10FD, 0x10FF)]),
  (["up", "upper"], (category "lt" ++ binaryProperty "upper").diff [(0x1C90, 0x1CBA), (0x1CBD, 0x1CBF)]),
  (["le", "oletter"], binaryProperty "alpha" ++ [(0x05F3, 0x05F3)]),
  (["nu", "numeric"], numberCodes ++ [(0x066C, 0x066C)]),
  (["fo", "format"], category "cf"),
  (["at", "aterm"], CodeSet.ofRows ["2E 2024 FE52 FF0E"]),
  (["sc", "scontinue"], CodeSet.ofRows [
    "2C-2D 3A-3B 37E 55D 60C-60D 7F8 1802 1808 2013-2014 3001 FE10-FE11 FE13-FE14 FE31-FE32",
    "FE50-FE51 FE54-FE55 FE58 FE63 FF0C-FF0D FF1A-FF1B FF64"]),
  (["st", "sterm"], binaryProperty "sterm"),
  (["cl", "close"], ["ps", "pe", "pi", "pf"].flatMap category ++ otherQuotes)]

end ColumnSelect.Unicode
