import WikiMessage.Text.Combining
import WikiMessage.Text.Emoji.Table

/-!
# Emoji

An emoji may be several characters: one with a skin tone, a flag of two regional indicators, a flag
spelt in tags, or emoji with joiners between them. Read from its end, such a sequence is known by
what has been read of it, a `Tail`.
-/

namespace WikiMessage.Text.Emoji

def isSkinTone (c : Char) : Bool := 0x1f3fb ≤ c.toNat && c.toNat ≤ 0x1f3ff

def isRegional (c : Char) : Bool := 0x1f1e6 ≤ c.toNat && c.toNat ≤ 0x1f1ff

def isEmoji (c : Char) : Bool := emojiRanges.contains c

/-- Whether a selector after the character can ask for an emoji. -/
def isSelectable (c : Char) : Bool := selectableRanges.contains c

/-- Whether a selector after the emoji can ask for a narrow sign of text. Ideographs in squares stay
wide. -/
def isTextual (c : Char) : Bool :=
  isSelectable c && isEmoji c && !(0x1f200 ≤ c.toNat && c.toNat ≤ 0x1f2ff)

def isSkinToneBase (c : Char) : Bool := skinToneBaseRanges.contains c

def isTagLetter (c : Char) : Bool := 0xe0061 ≤ c.toNat && c.toNat ≤ 0xe007a

def isTagDigit (c : Char) : Bool := 0xe0030 ≤ c.toNat && c.toNat ≤ 0xe0039

/-- The character after the last tag of a flag. -/
def isTagEnd (c : Char) : Bool := c.toNat = 0xe007f

/-- The black flag, which tags make another flag of. -/
def isFlag (c : Char) : Bool := c.toNat = 0x1f3f4

/-- The end of an emoji sequence. The columns of what `joined` and the tails after it stand for have
been counted with the emoji behind the joiner. -/
inductive Tail
  | whole
  | skinTone
  | regional
  | regionals
  | joined
  | joinedKeycap
  | joinedRegional
  | joinedFlag
  | joinedFlagRegional
  /-- A joiner with tags in front of it that end in so many letters. -/
  | tagLetters (count : Nat)
  /-- A joiner with tags in front of it that begin with so many digits. -/
  | tagDigits (count : Nat)
  deriving DecidableEq, Repr

namespace Tail

def ofChar? (c : Char) : Option Tail :=
  if isRegional c then some regional
  else if isSkinTone c then some skinTone
  else if isEmoji c then some whole
  else none

/-- Whether the character before, if a selector asks for an emoji, is joined to the one behind. -/
def isJoined : Tail → Bool
  | joined | joinedKeycap => true
  | _ => false

/-- The tail with one character more in front of it, and the columns which that adds; nothing if the
character is not part of the sequence. -/
def extend? (tail : Tail) (c : Char) : Option (Int × Tail) :=
  match tail with
  | whole => if c = joiner then some (0, joined) else none
  | skinTone =>
    if isSkinToneBase c then some (0, whole)
    else if c = joiner then some (0, joined)
    else none
  | regional => if isRegional c then some (1, regionals) else none
  | regionals =>
    if isRegional c then some (1, regionals)
    else if c = joiner then some (0, joined)
    else none
  | joined =>
    if c = '\u20e3' then some (0, joinedKeycap)
    else if isRegional c then some (1, joinedRegional)
    else if isSkinTone c then some (0, skinTone)
    else if isTagEnd c then some (0, tagLetters 0)
    else if isEmoji c then some (0, whole)
    else none
  | joinedKeycap => none
  | joinedRegional => if isRegional c then some (-1, joinedFlag) else none
  | joinedFlag =>
    if isRegional c then some (3, joinedFlagRegional)
    else if c = joiner then some (0, joined)
    else none
  | joinedFlagRegional =>
    if isRegional c then some (-1, joinedFlag)
    else if c = joiner then some (0, joined)
    else none
  | tagLetters count =>
    if isTagLetter c && count < 6 then some (0, tagLetters (count + 1))
    else if isTagDigit c && count < 5 then some (0, tagDigits 1)
    else if isFlag c && 3 ≤ count then some (0, whole)
    else none
  | tagDigits count =>
    if isTagDigit c && count < 3 then some (0, tagDigits (count + 1))
    else if isFlag c && count = 3 then some (0, whole)
    else none

end Tail
end WikiMessage.Text.Emoji
