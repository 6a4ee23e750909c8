import CommandLine.Text.Columns
import CommandLine.Text.Table.Transparent

/-!
# Ligatures

In some scripts a few letters are written as one, and take the columns of one.
A text is measured from its end, so a ligature is met at its last part: `Ligature`
says which part stands to the right, and `Ligature.extend?` which characters
before it belong to the ligature and what they add to its columns.

Marks without a shape may stand anywhere inside a ligature.
-/

set_option autoImplicit false

namespace CommandLine.Text

def zeroWidthJoiner : Char := '\u200D'

/-- The part of a ligature that stands to the right of a character.  Those with a
flag need a joiner in front, and the flag says whether it is there. -/
inductive Ligature where
  /-- Arabic alef, which a lam joins. -/
  | alef
  /-- Hebrew lamed, which an alef joins. -/
  | lamed (joined : Bool)
  /-- Buginese ya, which an a with the vowel i joins. -/
  | ya (joined : Bool)
  /-- The vowel i in front of a joined ya. -/
  | vowelYa
  /-- A consonant of Tifinagh. -/
  | consonant (joined : Bool)
  /-- A consonant of Tifinagh with the visible joiner in front. -/
  | joinedConsonant
  /-- One of the two Lisu tones that end a pair. -/
  | tone
  /-- Old Turkic i of the Orkhon inscriptions. -/
  | orkhonI (joined : Bool)
  /-- A Khmer letter that has a form below another letter. -/
  | khmerLetter
  /-- The Kirat Rai vowel sign e. -/
  | vowelE
  /-- The Kirat Rai vowel sign ai, which is e written twice. -/
  | vowelAi
  deriving DecidableEq, Repr

namespace Ligature

/-! ## Letters -/

def isTifinaghConsonant (code : Nat) : Bool :=
  (0x2D31 ≤ code && code ≤ 0x2D65) || code == 0x2D6F

def alefs : Ranges where
  list :=
    [⟨0x622, 0x623⟩, ⟨0x625, 0x625⟩, ⟨0x627, 0x627⟩, ⟨0x671, 0x673⟩, ⟨0x675, 0x675⟩,
     ⟨0x773, 0x774⟩, ⟨0x870, 0x882⟩]
  ascending := by decide +kernel

def lams : Ranges where
  list :=
    [⟨0x644, 0x644⟩, ⟨0x6B5, 0x6B8⟩, ⟨0x76A, 0x76A⟩, ⟨0x8A6, 0x8A6⟩, ⟨0x8C7, 0x8C7⟩]
  ascending := by decide +kernel

/-- Khmer letters that have a form below another letter. -/
def khmerLetters : Ranges where
  list :=
    [⟨0x1780, 0x1782⟩, ⟨0x1784, 0x1787⟩, ⟨0x1789, 0x178C⟩, ⟨0x178E, 0x1793⟩, ⟨0x1795, 0x1798⟩,
     ⟨0x179B, 0x179D⟩, ⟨0x17A0, 0x17A0⟩, ⟨0x17A2, 0x17A2⟩, ⟨0x17A7, 0x17A7⟩, ⟨0x17AB, 0x17AC⟩,
     ⟨0x17AF, 0x17AF⟩]
  ascending := by decide +kernel

def shapelessMarks : Ranges where
  list :=
    [⟨0x34F, 0x34F⟩, ⟨0x17B4, 0x17B5⟩, ⟨0x180B, 0x180D⟩, ⟨0x180F, 0x180F⟩, ⟨0xFE00, 0xFE0F⟩,
     ⟨0xE0100, 0xE01EF⟩]
  ascending := by decide +kernel

def ofChar? (char : Char) : Option Ligature :=
  let code := char.toNat
  match code with
  | 0x5DC => some (.lamed false)
  | 0x1A10 => some (.ya false)
  | 0xA4FC => some .tone
  | 0xA4FD => some .tone
  | 0x10C03 => some (.orkhonI false)
  | 0x16D67 => some .vowelE
  | 0x16D68 => some .vowelAi
  | _ =>
      if isTifinaghConsonant code then some (.consonant false)
      else if alefs.mem code then some .alef
      else if khmerLetters.mem code then some .khmerLetter
      else none

/-! ## What stands between the letters -/

def join : Ligature → Ligature
  | .lamed _ => .lamed true
  | .ya _ => .ya true
  | .consonant _ => .consonant true
  | .orkhonI _ => .orkhonI true
  | ligature => ligature

/-- Whether selectors and other marks without a shape leave a ligature whole.
They part the vowel signs of Kirat Rai. -/
def bearsMarks : Ligature → Bool
  | .vowelE => false
  | .vowelAi => false
  | _ => true

/-- What a ligature becomes in front of a character that fills no column and
leaves it whole.  Arabic letters join across all marks, but not across a joiner. -/
def pass? (ligature : Ligature) (char : Char) : Option Ligature :=
  if ligature = .alef then
    if transparent.mem char.toNat && columns char == 0 then some ligature else none
  else if !ligature.bearsMarks then none
  else if char = zeroWidthJoiner then some ligature.join
  else if shapelessMarks.mem char.toNat then some ligature
  else none

/-! ## Growing a ligature -/

/-- The columns that a letter adds to a ligature that it belongs to, with the
ligature that then stands to the right of the character before it.  The Khmer
sign for a form below takes back the column of the letter behind it, and so does
a consonant in front of the visible joiner. -/
def letter? (ligature : Ligature) (char : Char) : Option (Int × Option Ligature) :=
  let code := char.toNat
  match ligature with
  | .alef => if lams.mem code then some (0, none) else none
  | .lamed true => if code = 0x5D0 then some (0, none) else none
  | .ya true => if code = 0x1A17 then some (0, some .vowelYa) else none
  | .vowelYa => if code = 0x1A15 then some (0, none) else none
  | .consonant joined =>
      if code = 0x2D7F then some (1, some .joinedConsonant)
      else if joined && isTifinaghConsonant code then some (0, none)
      else none
  | .joinedConsonant => if isTifinaghConsonant code then some (-1, none) else none
  | .tone => if 0xA4F8 ≤ code && code ≤ 0xA4FB then some (0, none) else none
  | .orkhonI true => if code = 0x10C32 then some (0, none) else none
  | .khmerLetter => if code = 0x17D2 then some (-1, none) else none
  | .vowelE =>
      match code with
      | 0x16D63 => some (0, none)
      | 0x16D67 => some (0, some .vowelAi)
      | 0x16D68 => some (1, some .vowelE)
      | 0x16D69 => some (0, none)
      | _ => none
  | .vowelAi => if code = 0x16D63 then some (0, none) else none
  | _ => none

def extend? (ligature : Ligature) (char : Char) : Option (Int × Option Ligature) :=
  match ligature.pass? char with
  | some ligature => some (0, some ligature)
  | none => ligature.letter? char

end Ligature

end CommandLine.Text
