import CommandLine.Diagnostic
import CommandLine.Text.Pad
import CommandLine.Text.Styled
import CommandLine.Word

/-!
# Reports

A report explains diagnostics to a reader at a terminal.  Each has a header with
its code, line, column and message, and below it the line of the source with
the place underlined.  A last line counts the problems.

There are two renderings: `render` writes a plain text, and `document` styles
the codes and the last line.  Both are told how wide a text is at the terminal,
and what becomes of the end of a span that is no machine word.
-/

set_option autoImplicit false

namespace CommandLine

open Text (Segment Style Styled)

/-- The line of a source on which a place starts, cut at the place and at the
end of the place. -/
structure Excerpt where
  /-- The number of the line, counted from one. -/
  number : Nat
  /-- What the line holds before the place. -/
  lead : List Char
  /-- What the line holds of the place. -/
  covered : List Char
  /-- What the line holds behind the place. -/
  rest : List Char
  deriving DecidableEq, Repr

/-- The excerpt for a place.  A place behind the end of the source counts as
its end.  There is none if an end of the place lies inside a character. -/
def Excerpt.ofSpan? (overflow : Overflow) (source : String) (span : Span) :
    Except Trap (Option Excerpt) :=
  let text := source.toList
  let start := min span.position (Text.bytes text)
  match Text.splitAt? text start with
  | none => .ok none
  | some (front, back) =>
      (Word.sum overflow span.position span.length).map fun stop =>
        let tail := Text.beforeFirstBreak back
        let length := min (stop - start) (Text.bytes tail)
        (Text.splitAt? tail length).map fun (covered, rest) =>
          { number := span.line source, lead := Text.afterLastBreak front, covered, rest }

/-- The two lines that show an excerpt: the line of the source behind its
number, and a mark under the place with a remark. -/
def Excerpt.render (width : List Char → Nat) (excerpt : Excerpt) (label : String) : String :=
  let number := toString excerpt.number
  number ++ " | " ++ String.ofList (excerpt.lead ++ excerpt.covered ++ excerpt.rest) ++ "\n" ++
    Text.spaces number.length ++ " | " ++ Text.spaces (width excerpt.lead) ++ "^" ++
    String.ofList (List.replicate (width excerpt.covered - 1) '-') ++ " " ++ label ++ "\n"

namespace Report

def code (diagnostic : Diagnostic) : String :=
  "error[" ++ diagnostic.violation.name ++ "]"

def location (source : String) (diagnostic : Diagnostic) : String :=
  " at " ++ toString (diagnostic.span.line source) ++ ":" ++
    toString (diagnostic.span.column source) ++ ": " ++ diagnostic.message

def summary? (diagnostics : List Diagnostic) : Option String :=
  match diagnostics.length with
  | 0 => none
  | 1 => some "1 problem found"
  | count => some (toString count ++ " problems found")

section

variable (width : List Char → Nat) (overflow : Overflow) (source : String)

def snippet? (span : Span) (label : String) : Except Trap (Option String) :=
  (Excerpt.ofSpan? overflow source span).map fun excerpt? =>
    excerpt?.map fun excerpt => excerpt.render width label

/-! ## Plain rendering -/

/-- A header and its snippet, with a blank line after each. -/
def entry (diagnostic : Diagnostic) : Except Trap String := do
  let body :=
    match ← snippet? width overflow source diagnostic.span diagnostic.violation.label with
    | none => ""
    | some snippet => "\n" ++ snippet
  return code diagnostic ++ location source diagnostic ++ "\n" ++ body ++ "\n"

def render (diagnostics : List Diagnostic) : Except Trap String := do
  let entries ← diagnostics.mapM (entry width overflow source)
  return String.join entries ++
    match summary? diagnostics with
    | none => ""
    | some summary => summary ++ "\n"

/-! ## Styled rendering -/

def codeStyle : Style := ⟨true, some .red⟩

def summaryStyle : Style := ⟨true, none⟩

def item (diagnostic : Diagnostic) : Except Trap Styled := do
  let body :=
    match ← snippet? width overflow source diagnostic.span diagnostic.violation.label with
    | none => []
    | some snippet => [.plain "\n", .plain snippet]
  return [⟨some codeStyle, code diagnostic⟩, .plain (location source diagnostic), .plain "\n"] ++
    body

def document (diagnostics : List Diagnostic) : Except Trap Styled := do
  let items ← diagnostics.mapM (item width overflow source)
  return items.flatMap (· ++ [.plain "\n"]) ++
    match summary? diagnostics with
    | none => []
    | some summary => [⟨some summaryStyle, summary ++ "\n"⟩]

end

end Report

end CommandLine
