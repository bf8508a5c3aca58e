import WikiMessage.Locale.Tag

/-!
# Digits of scripts

Languages that write numbers with digits of their own. Counts written with them are turned into the
digits of ASCII before they are compared or read. Each script has ten digits, all different from
one another and from those of ASCII.
-/

namespace WikiMessage.Number

open WikiMessage.Locale

/-- The digits from zero to nine of a language. -/
def languageDigits? : String → Option String
  | "ar" => some "٠١٢٣٤٥٦٧٨٩"
  | "fa" => some "۰۱۲۳۴۵۶۷۸۹"
  | "ml" => some "൦൧൨൩൪൫൬൭൮൯"
  | "kn" => some "೦೧೨೩೪೫೬೭೮೯"
  | "lo" => some "໐໑໒໓໔໕໖໗໘໙"
  | "or" => some "୦୧୨୩୪୫୬୭୮୯"
  | "km" => some "០១២៣៤៥៦៧៨៩"
  | "nqo" => some "߀߁߂߃߄߅߆߇߈߉"
  | "pa" => some "੦੧੨੩੪੫੬੭੮੯"
  | "gu" => some "૦૧૨૩૪૫૬૭૮૯"
  | "hi" => some "०१२३४५६७८९"
  | "my" => some "၀၁၂၃၄၅၆၇၈၉"
  | "ta" => some "௦௧௨௩௪௫௬௭௮௯"
  | "te" => some "౦౧౨౩౪౫౬౭౮౯"
  | "th" => some "๐๑๒๓๔๕๖๗๘๙"
  | "bo" => some "༠༡༢༣༤༥༦༧༨༩"
  | _ => none

/-- The digits of the first of a tag and its truncations that has digits of its own. -/
def scriptDigits? (tag : String) : Option String :=
  (truncations tag).findSome? fun t => languageDigits? (Text.lowerAscii t)

def latinDigits : List Char := "0123456789".toList

/-- The character that stands in `others` where `c` stands in `digits`, or `c` itself. -/
def swapDigit (digits others : List Char) (c : Char) : Char :=
  match digits.idxOf? c with
  | some i => others[i]?.getD c
  | none => c

def toLatinChars (tag : String) (cs : List Char) : List Char :=
  match scriptDigits? tag with
  | some digits => cs.map (swapDigit digits.toList latinDigits)
  | none => cs

def toNativeChars (tag : String) (cs : List Char) : List Char :=
  match scriptDigits? tag with
  | some digits => cs.map (swapDigit latinDigits digits.toList)
  | none => cs

/-- The text with the digits of the language's script replaced by those of ASCII. -/
def toLatin (tag text : String) : String := String.ofList (toLatinChars tag text.toList)

/-- The text with the digits of ASCII replaced by those of the language's script. -/
def toNative (tag text : String) : String := String.ofList (toNativeChars tag text.toList)

end WikiMessage.Number
