import WikiMessage.Text.Ligature.Table
import WikiMessage.Text.Width.Single

/-!
# Ligatures

Letters of some scripts are drawn as one sign when they meet. Read from its end, a ligature is known
by what has been read of it, a `Tail`. Marks that are not seen may stand anywhere inside it.
-/

namespace WikiMessage.Text.Ligature

/-- Whether the character is a combining mark that is not drawn at all. -/
def isInvisibleMark (c : Char) : Bool :=
  let n := c.toNat
  n = 0x34f || (0x17b4 ≤ n && n ≤ 0x17b5) || (0x180b ≤ n && n ≤ 0x180d) || n = 0x180f ||
    (0xfe00 ≤ n && n ≤ 0xfe0f) || (0xe0100 ≤ n && n ≤ 0xe01ef)

/-- Arabic letters that look like alef. -/
def isAlef (c : Char) : Bool :=
  let n := c.toNat
  [0x622, 0x623, 0x625, 0x627, 0x671, 0x672, 0x673, 0x675, 0x773, 0x774].contains n ||
    (0x870 ≤ n && n ≤ 0x882)

/-- Arabic letters that look like lam. -/
def isLam (c : Char) : Bool :=
  let n := c.toNat
  n = 0x644 || (0x6b5 ≤ n && n ≤ 0x6b8) || n = 0x76a || n = 0x8a6 || n = 0x8c7

/-- Whether Arabic letters join across the character. -/
def isTransparent (c : Char) : Bool := Width.ofChar c = 0 && !interruptingRanges.contains c

/-- Khmer letters whose form below another letter takes no column of its own. -/
def subscriptRanges : CodeRanges :=
  [
    (0x1780, 0x1782), (0x1784, 0x1787), (0x1789, 0x178c), (0x178e, 0x1793), (0x1795, 0x1798),
    (0x179b, 0x179d), (0x17a0, 0x17a0), (0x17a2, 0x17a2), (0x17a7, 0x17a7), (0x17ab, 0x17ac),
    (0x17af, 0x17af)
  ]

def isTifinagh (c : Char) : Bool :=
  let n := c.toNat
  (0x2d31 ≤ n && n ≤ 0x2d65) || n = 0x2d6f

/-- The end of a ligature; some need a joiner before they go on. -/
inductive Tail
  /-- Arabic: a lam comes before. -/
  | alef
  /-- Hebrew: an alef comes before. -/
  | lamed (joined : Bool)
  /-- Buginese: the vowel sign of `i` comes before. -/
  | ya (joined : Bool)
  /-- Buginese: the letter `a` comes before. -/
  | vowelYa
  /-- Khmer: the sign that puts the letter below another comes before. -/
  | subscript
  /-- Tifinagh: a consonant or the sign that joins them comes before. -/
  | consonant (joined : Bool)
  /-- Tifinagh: a consonant comes before. -/
  | joinedConsonant
  /-- Lisu: the first half of a tone comes before. -/
  | tone
  /-- Old Turkic: the letter `ec` comes before. -/
  | orkhonI (joined : Bool)
  deriving DecidableEq, Repr

namespace Tail

def ofChar? (c : Char) : Option Tail :=
  if isAlef c then some alef
  else if c = '\u05dc' then some (lamed false)
  else if c = '\u1a10' then some (ya false)
  else if subscriptRanges.contains c then some subscript
  else if isTifinagh c then some (consonant false)
  else if c = '\ua4fc' || c = '\ua4fd' then some tone
  else if c.toNat = 0x10c03 then some (orkhonI false)
  else none

/-- The tail with a joiner in front of it. -/
def withJoiner : Tail → Tail
  | lamed _ => lamed true
  | ya _ => ya true
  | consonant _ => consonant true
  | orkhonI _ => orkhonI true
  | tail => tail

/-- The columns that a letter before the tail adds, and the tail it makes if the ligature goes on;
nothing if the letter is not part of it. -/
def letter? (tail : Tail) (c : Char) : Option (Int × Option Tail) :=
  match tail with
  | alef => if isLam c then some (0, none) else none
  | lamed joined => if joined && c = '\u05d0' then some (0, none) else none
  | ya joined => if joined && c = '\u1a17' then some (0, some vowelYa) else none
  | vowelYa => if c = '\u1a15' then some (0, none) else none
  | subscript => if c = '\u17d2' then some (-1, none) else none
  | consonant joined =>
    if c = Width.consonantJoiner then some (1, some joinedConsonant)
    else if joined && isTifinagh c then some (0, none)
    else none
  | joinedConsonant => if isTifinagh c then some (-1, none) else none
  | tone => if 0xa4f8 ≤ c.toNat && c.toNat ≤ 0xa4fb then some (0, none) else none
  | orkhonI joined => if joined && c.toNat = 0x10c32 then some (0, none) else none

/-- The same for any character. A joiner counts in all scripts but Arabic, where every mark that
letters join across may come between them. -/
def extend? (tail : Tail) (c : Char) : Option (Int × Option Tail) :=
  if tail = alef then
    if isTransparent c then some (0, some alef) else tail.letter? c
  else if c = joiner then some (0, some tail.withJoiner)
  else if isInvisibleMark c then some (0, some tail)
  else tail.letter? c

end Tail
end WikiMessage.Text.Ligature
