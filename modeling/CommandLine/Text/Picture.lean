import CommandLine.Text.Ligature
import CommandLine.Text.Table.Emoji

/-!
# Picture sequences

Several pictures with joiners between them are shown as one, and so are two
regional-indicator letters, a picture with a skin tone, a keycap, and a black
flag with the tags of a region.  A text is measured from its end: `Picture` says
what stands to the right of a character, and `Picture.extend?` which characters
before it belong to the sequence and what they add to its columns.
-/

set_option autoImplicit false

namespace CommandLine.Text

inductive Picture where
  /-- A whole picture. -/
  | whole
  /-- A skin tone, which is a picture on its own. -/
  | tone
  /-- A joiner, with a picture behind it. -/
  | joiner
  /-- A keycap, with a joiner behind it. -/
  | keycap
  /-- A regional-indicator letter. -/
  | letter
  /-- Two regional-indicator letters or more. -/
  | letters
  /-- A regional-indicator letter, with a joiner behind it. -/
  | joinedLetter
  /-- An even number of regional-indicator letters, with a joiner behind them. -/
  | joinedPairs
  /-- An odd number of such letters, three or more, with a joiner behind them. -/
  | joinedPairsAndLetter
  /-- Letters of a tag, with the end of the tag and a joiner behind them. -/
  | tagLetters (count : Nat)
  /-- Digits of a tag, with the rest of the tag and a joiner behind them. -/
  | tagDigits (count : Nat)
  deriving DecidableEq, Repr

namespace Picture

def isRegionalIndicator (code : Nat) : Bool :=
  0x1F1E6 ≤ code && code ≤ 0x1F1FF

def isSkinTone (code : Nat) : Bool :=
  0x1F3FB ≤ code && code ≤ 0x1F3FF

def isTagLetter (code : Nat) : Bool :=
  0xE0061 ≤ code && code ≤ 0xE007A

def isTagDigit (code : Nat) : Bool :=
  0xE0030 ≤ code && code ≤ 0xE0039

def tagEnd : Nat := 0xE007F

def blackFlag : Char := '🏴'

def enclosingKeycap : Char := '\u20E3'

def ofChar? (char : Char) : Option Picture :=
  let code := char.toNat
  if isRegionalIndicator code then some .letter
  else if isSkinTone code then some .tone
  else if pictures.mem code then some .whole
  else none

/-- Whether a picture that a selector asks for is joined to what follows it. -/
def joins : Picture → Bool
  | .joiner => true
  | .keycap => true
  | _ => false

def beforeJoiner? : Picture → Option Picture
  | .whole => some .joiner
  | .tone => some .joiner
  | .letters => some .joiner
  | .joinedPairs => some .joiner
  | .joinedPairsAndLetter => some .joiner
  | _ => none

def beforeJoined? (char : Char) : Option (Int × Picture) :=
  if char = enclosingKeycap then some (0, .keycap)
  else if char.toNat = tagEnd then some (0, .tagLetters 0)
  else
    match ofChar? char with
    | some .letter => some (1, .joinedLetter)
    | some picture => some (0, picture)
    | none => none

/-- What a regional-indicator letter adds in front of others.  Two letters are one
picture, and pairs are counted from the first letter.  So with each letter it is
decided anew whether the last of them closes a pair: then the picture behind
the joiner adds no columns to that pair, and otherwise it stands alone. -/
def beforeLetters? : Picture → Option (Int × Picture)
  | .letter => some (1, .letters)
  | .letters => some (1, .letters)
  | .joinedLetter => some (-1, .joinedPairs)
  | .joinedPairs => some (3, .joinedPairsAndLetter)
  | .joinedPairsAndLetter => some (-1, .joinedPairs)
  | _ => none

/-- What a character of a tag, or the flag in front of it, adds.  A tag names a
region by two letters or three digits and a part of it by one letter to four. -/
def beforeTag? (code : Nat) : Picture → Option (Int × Picture)
  | .tagLetters count =>
      if isTagLetter code && count < 6 then some (0, .tagLetters (count + 1))
      else if isTagDigit code && count ≤ 4 then some (0, .tagDigits 1)
      else if code = blackFlag.toNat && 3 ≤ count then some (0, .whole)
      else none
  | .tagDigits count =>
      if isTagDigit code && count < 3 then some (0, .tagDigits (count + 1))
      else if code = blackFlag.toNat && count = 3 then some (0, .whole)
      else none
  | _ => none

def extend? (picture : Picture) (char : Char) : Option (Int × Picture) :=
  let code := char.toNat
  if char = zeroWidthJoiner then
    picture.beforeJoiner?.map fun picture => (0, picture)
  else if picture = .joiner then
    beforeJoined? char
  else if picture = .tone && modifiable.mem code then
    some (0, .whole)
  else if isRegionalIndicator code then
    picture.beforeLetters?
  else
    picture.beforeTag? code

end Picture

end CommandLine.Text
