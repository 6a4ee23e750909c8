import CommandLine.Text.Table.Extending
import CommandLine.Text.Table.Ignorable
import CommandLine.Text.Table.Wide

/-!
# Columns of a character

A terminal gives each character a number of columns.  Marks, ignorable
characters and signs that are written around what follows them fill none, East
Asian wide characters fill two, and nearly everything else fills one, controls
included.
-/

set_option autoImplicit false

namespace CommandLine.Text

/-- Vowels and final consonants of Hangul, which join the syllable before them. -/
def joinsSyllable (code : Nat) : Bool :=
  (0x1160 ≤ code && code ≤ 0x11FF) || (0xD7B0 ≤ code && code ≤ 0xD7C6) ||
    (0xD7CB ≤ code && code ≤ 0xD7FB)

def surrounding : Ranges where
  list :=
    [⟨0x605, 0x605⟩, ⟨0x70F, 0x70F⟩, ⟨0x890, 0x891⟩, ⟨0x8E2, 0x8E2⟩, ⟨0xD4E, 0xD4E⟩,
     ⟨0xA8FA, 0xA8FA⟩, ⟨0x111C2, 0x111C3⟩, ⟨0x113D1, 0x113D1⟩, ⟨0x1193F, 0x1193F⟩,
     ⟨0x11941, 0x11941⟩, ⟨0x11A84, 0x11A89⟩, ⟨0x11D46, 0x11D46⟩, ⟨0x11F02, 0x11F02⟩]
  ascending := by decide +kernel

/-- The characters whose columns do not follow from their properties.  A joiner
of Tifinagh consonants is visible on its own, so are the half-width sound marks
of kana, the filler for an initial consonant of Hangul is as wide as that
consonant, and two Khmer characters stand for several letters. -/
def exceptionalColumns? (code : Nat) : Option Nat :=
  match code with
  | 0x115F => some 2
  | 0x17A4 => some 2
  | 0x17D8 => some 3
  | 0x2D7F => some 1
  | 0xFF9E => some 1
  | 0xFF9F => some 1
  | _ => none

def columns (char : Char) : Nat :=
  let code := char.toNat
  match exceptionalColumns? code with
  | some columns => columns
  | none =>
      if ignorable.mem code || extending.mem code || joinsSyllable code || surrounding.mem code
      then 0
      else if wide.mem code then 2
      else 1

example : columns 'a' = 1 ∧ columns '\t' = 1 ∧ columns '日' = 2 ∧ columns '\u0301' = 0 := by
  decide +kernel

end CommandLine.Text
