import CommandLine.Text.Bytes
import CommandLine.Text.Lines

/-!
# Spans

A span locates a part of a source by the byte offset of its start and its
length in bytes.  Spans are plain numbers: one may lie outside every source, or
end inside a character, and then `slice?` finds no text for it.
-/

set_option autoImplicit false

namespace CommandLine

/-- A start and a length, both in bytes. -/
structure Span where
  position : Nat
  length : Nat
  deriving DecidableEq, Repr

namespace Span

def stop (span : Span) : Nat :=
  span.position + span.length

/-- The span from `start` to `stop`; it is empty at `start` when they are in
the wrong order. -/
def ofRange (start stop : Nat) : Span :=
  ⟨start, stop - start⟩

def point (position : Nat) : Span :=
  ⟨position, 0⟩

def isEmpty (span : Span) : Bool :=
  span.length == 0

def contains (span other : Span) : Bool :=
  span.position ≤ other.position && other.stop ≤ span.stop

def cover (span other : Span) : Span :=
  ofRange (min span.position other.position) (max span.stop other.stop)

@[simp]
theorem position_cover (span other : Span) :
    (span.cover other).position = min span.position other.position := rfl

@[simp]
theorem stop_cover (span other : Span) :
    (span.cover other).stop = max span.stop other.stop := by
  simp only [cover, ofRange, stop]
  omega

theorem contains_iff (span other : Span) :
    span.contains other = true ↔
      span.position ≤ other.position ∧ other.stop ≤ span.stop := by
  simp [contains]

theorem cover_contains_left (span other : Span) :
    (span.cover other).contains span = true := by
  rw [contains_iff, position_cover, stop_cover]
  omega

theorem cover_contains_right (span other : Span) :
    (span.cover other).contains other = true := by
  rw [contains_iff, position_cover, stop_cover]
  omega

/-- The part of a source that the span covers, unless the span runs past the
end or one of its ends lies inside a character. -/
def slice? (span : Span) (source : String) : Option String :=
  (Text.slice? source.toList span.position span.length).map String.ofList

/-- The part of a source before the span, or the whole source when the span
does not start between two of its characters. -/
def before (span : Span) (source : String) : List Char :=
  match Text.splitAt? source.toList span.position with
  | some (front, _) => front
  | none => source.toList

def line (span : Span) (source : String) : Nat :=
  Text.breaks (span.before source) + 1

/-- The column at which the span starts, in characters and counted from one. -/
def column (span : Span) (source : String) : Nat :=
  (Text.afterLastBreak (span.before source)).length + 1

def text (span : Span) : String :=
  toString span.position ++ ".." ++ toString span.stop

end Span

end CommandLine
