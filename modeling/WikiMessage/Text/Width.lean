import WikiMessage.Text.Emoji
import WikiMessage.Text.Ligature

/-!
# Columns that a text takes on a terminal

Most characters take the columns that they take by themselves, but an emoji of several characters
takes two in all, a ligature takes one, and a selector changes the character before it. So a text is
measured from its end: what has been read of it, as far as it bears on the character before, is a
`State`.
-/

namespace WikiMessage.Text

namespace Width

/-- What a selector asks the character before it to be. -/
inductive Selector
  | none
  | fullwidth
  | text
  | emoji
  deriving DecidableEq, Repr

/-- What follows a character, as far as its own columns depend on it. -/
inductive Following
  | plain
  | lineFeed
  /-- The Kirat Rai vowel sign `e`, which others are made with. -/
  | vowelE
  /-- The Kirat Rai vowel sign `ai`, which may be half of another. -/
  | vowelAi
  | emoji (tail : Emoji.Tail)
  | ligature (tail : Ligature.Tail)
  deriving DecidableEq, Repr

structure State where
  following : Following
  selector : Selector
  deriving DecidableEq, Repr

namespace State

def start : State := ⟨.plain, .none⟩

def of (following : Following) : State := ⟨following, .none⟩

/-- The state with a selector in front. Only a ligature goes on across any selector, and the joiner
of an emoji across one that asks for an emoji. -/
def select (state : State) (selector : Selector) : State :=
  match state.following with
  | .ligature tail => ⟨.ligature tail, selector⟩
  | .emoji tail =>
    if tail.isJoined && selector = .emoji then ⟨.emoji tail, selector⟩ else ⟨.plain, selector⟩
  | _ => ⟨.plain, selector⟩

/-- The state without its selector, when the character before is not one that it could change. -/
def unselected (state : State) : State :=
  match state.selector, state.following with
  | .none, _ => state
  | _, .ligature tail => .of (.ligature tail)
  | _, _ => .start

end State

/-- What a character is to the one before it when it is not part of a sequence. -/
def followingOf (c : Char) : Following :=
  if c = '\n' then .lineFeed
  else if c.toNat = 0x16d67 then .vowelE
  else if c.toNat = 0x16d68 then .vowelAi
  else
    match Emoji.Tail.ofChar? c, Ligature.Tail.ofChar? c with
    | some tail, _ => .emoji tail
    | none, some tail => .ligature tail
    | none, none => .plain

/-- The columns of a character and what follows the one before it, if it is part of a sequence with
what follows itself. -/
def continued? (following : Following) (c : Char) : Option (Int × Following) :=
  match following with
  | .plain => none
  | .lineFeed => if c = '\r' then some (0, .plain) else none
  | .vowelE =>
    if c.toNat = 0x16d63 || c.toNat = 0x16d69 then some (0, .plain)
    else if c.toNat = 0x16d67 then some (0, .vowelAi)
    else if c.toNat = 0x16d68 then some (1, .vowelE)
    else none
  | .vowelAi => if c.toNat = 0x16d63 then some (0, .plain) else none
  | .emoji tail => (tail.extend? c).map fun (columns, tail) => (columns, .emoji tail)
  | .ligature tail =>
    (tail.extend? c).map fun (columns, tail) =>
      (columns, match tail with
        | some tail => .ligature tail
        | none => .plain)

def isQuotationMark (c : Char) : Bool :=
  c = '\u2018' || c = '\u2019' || c = '\u201c' || c = '\u201d'

/-- The columns of a character that the selector after it changes, and what follows the one before.
An emoji in front of a joiner has been counted with the one behind it. -/
def selectedColumns? (state : State) (c : Char) : Option (Int × Following) :=
  match state.selector with
  | .none => none
  | .fullwidth => if isQuotationMark c then some (2, .plain) else none
  | .text => if Emoji.isTextual c then some (1, .plain) else none
  | .emoji =>
    if Emoji.isSelectable c then
      match state.following with
      | .emoji _ => some (0, .emoji .whole)
      | _ => some (2, .emoji .whole)
    else none

/-- The selector that a character is. -/
def selectorOf? (c : Char) : Option Selector :=
  if c = '\ufe01' then some .fullwidth
  else if c = '\ufe0e' then some .text
  else if c = '\ufe0f' then some .emoji
  else none

/-- The columns that a character adds in front of what follows it, and the state that it leaves. -/
def step (c : Char) (state : State) : Int × State :=
  match selectorOf? c with
  | some selector => (0, state.unselected.select selector)
  | none =>
    let (columns, following) :=
      (selectedColumns? state c <|> continued? state.unselected.following c).getD
        (ofChar c, followingOf c)
    (columns, .of following)

/-- The columns of a text and its state from the end. -/
def measure : List Char → Int × State
  | [] => (0, .start)
  | c :: cs =>
    let (columns, state) := measure cs
    let (added, state) := step c state
    (columns + added, state)

end Width

def width (cs : List Char) : Nat := (Width.measure cs).1.toNat

end WikiMessage.Text
