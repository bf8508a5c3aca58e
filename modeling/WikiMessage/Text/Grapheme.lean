import WikiMessage.Text.Emoji
import WikiMessage.Text.Grapheme.Table

/-!
# Grapheme clusters

What a reader takes for one character may be several code points: a letter and its marks, the parts
of a Hangul syllable, a flag, an emoji family. A text is cut into such clusters from left to right;
`Grapheme.breakBetween` says where.
-/

namespace WikiMessage.Text.Grapheme

/-- The part a character can play in a cluster. -/
inductive Kind
  | carriageReturn
  | lineFeed
  | control
  | extend
  | joiner
  | regional
  | prepend
  | spacingMark
  | leading
  | vowel
  | trailing
  | openSyllable
  | closedSyllable
  | other
  deriving DecidableEq, Repr

/-- The vowel signs of Kirat Rai, which are made of one another. -/
def isComposedVowel (c : Char) : Bool :=
  c.toNat = 0x16d63 || (0x16d67 ≤ c.toNat && c.toNat ≤ 0x16d6a)

def syllableKind (c : Char) : Kind :=
  let n := c.toNat
  if (0x1100 ≤ n && n ≤ 0x115f) || (0xa960 ≤ n && n ≤ 0xa97c) then .leading
  else if (0x1160 ≤ n && n ≤ 0x11a7) || (0xd7b0 ≤ n && n ≤ 0xd7c6) || isComposedVowel c then .vowel
  else if (0x11a8 ≤ n && n ≤ 0x11ff) || (0xd7cb ≤ n && n ≤ 0xd7fb) then .trailing
  else if 0xac00 ≤ n && n ≤ 0xd7a3 then
    if (n - 0xac00) % 28 = 0 then .openSyllable else .closedSyllable
  else .other

def Kind.ofChar (c : Char) : Kind :=
  if c = '\r' then .carriageReturn
  else if c = '\n' then .lineFeed
  else if c = Text.joiner then .joiner
  else if isCombining c || Emoji.isSkinTone c then .extend
  else if controlRanges.contains c then .control
  else if Emoji.isRegional c then .regional
  else if prependRanges.contains c then .prepend
  else if spacingMarkRanges.contains c then .spacingMark
  else syllableKind c

def isPictograph (c : Char) : Bool := pictographRanges.contains c

def isConjunctConsonant (c : Char) : Bool := conjunctConsonantRanges.contains c

/-- Whether the character is a virama that joins the consonants around it. -/
def isLinker (c : Char) : Bool := linkerRanges.contains c

/-- How far an emoji sequence has come: nothing, a pictograph and its marks, then a joiner. -/
inductive EmojiState
  | none
  | pictograph
  | joined
  deriving DecidableEq, Repr

/-- How far a conjunct has come: nothing, a consonant and its marks, then a virama as well. -/
inductive ConjunctState
  | none
  | consonant
  | linked
  deriving DecidableEq, Repr

/-- What has to be known of the text before a position to decide whether a cluster ends there. -/
structure Context where
  kind : Kind
  emoji : EmojiState
  conjunct : ConjunctState
  /-- Whether an odd number of regional indicators ends here. -/
  oddRegional : Bool

def Context.after (before : Context) (c : Char) : Context where
  kind := Kind.ofChar c
  emoji :=
    if isPictograph c then .pictograph
    else
      match before.emoji, Kind.ofChar c with
      | .pictograph, .extend => .pictograph
      | .pictograph, .joiner => .joined
      | _, _ => .none
  conjunct :=
    if isConjunctConsonant c then .consonant
    else if before.conjunct = .none then .none
    else if isLinker c then .linked
    else if c ≠ '\u200c' && (Kind.ofChar c = .extend || Kind.ofChar c = .joiner) then
      before.conjunct
    else .none
  oddRegional := Kind.ofChar c = .regional && !before.oddRegional

def Context.start : Context := ⟨.other, .none, .none, false⟩

/-- Whether a cluster ends between the text before and the character `c`. -/
def breakBetween (before : Context) (c : Char) : Bool :=
  match before.kind, Kind.ofChar c with
  | .carriageReturn, .lineFeed => false
  | .carriageReturn, _ | .lineFeed, _ | .control, _ => true
  | _, .carriageReturn | _, .lineFeed | _, .control => true
  | .leading, .leading | .leading, .vowel | .leading, .openSyllable
  | .leading, .closedSyllable => false
  | .openSyllable, .vowel | .openSyllable, .trailing | .vowel, .vowel | .vowel, .trailing => false
  | .closedSyllable, .trailing | .trailing, .trailing => false
  | _, .extend | _, .joiner | _, .spacingMark => false
  | .prepend, _ => false
  | .regional, .regional => !before.oddRegional
  | _, _ =>
    !(before.emoji = .joined && isPictograph c) &&
      !(before.conjunct = .linked && isConjunctConsonant c)

/-- The clusters of the rest of a text; the first of them continues the cluster before it. -/
def clustersAfter (before : Context) : List Char → List (List Char)
  | [] => [[]]
  | c :: cs =>
    match clustersAfter (before.after c) cs with
    | [] => [[c]]
    | cluster :: more =>
      if breakBetween before c then [] :: (c :: cluster) :: more else (c :: cluster) :: more

def clusters : List Char → List (List Char)
  | [] => []
  | c :: cs =>
    match clustersAfter (Context.start.after c) cs with
    | [] => [[c]]
    | cluster :: more => (c :: cluster) :: more

/-- The last cluster of the text, which is empty only if the text is. -/
def last (cs : List Char) : List Char := (clusters cs).getLastD []

private theorem flatten_clustersAfter (before : Context) (cs : List Char) :
    (clustersAfter before cs).flatten = cs := by
  induction cs generalizing before with
  | nil => rfl
  | cons c cs ih =>
    have h := ih (before.after c)
    unfold clustersAfter
    split
    · rename_i e
      rw [e] at h
      rw [← h]
      rfl
    · rename_i e
      rw [e] at h
      split <;> simp [← h]

/-- Cutting a text into clusters loses nothing. -/
theorem flatten_clusters (cs : List Char) : (clusters cs).flatten = cs := by
  cases cs with
  | nil => rfl
  | cons c cs =>
    have h := flatten_clustersAfter (Context.start.after c) cs
    simp only [clusters]
    split
    · rename_i e
      rw [e] at h
      rw [← h]
      rfl
    · rename_i e
      rw [e] at h
      simp [← h]

end WikiMessage.Text.Grapheme
