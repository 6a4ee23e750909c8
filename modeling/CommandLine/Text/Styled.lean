/-!
# Styled texts

A styled text is a list of segments, some of which carry a style.  It can be
written plainly, which drops the styles, or for a terminal, which sets each
style before its segment and resets it afterwards.
-/

set_option autoImplicit false

namespace CommandLine.Text

inductive Colour where
  | red
  | green
  | yellow
  | magenta
  | cyan
  deriving DecidableEq, Repr

def Colour.parameter : Colour → String
  | .red => "31"
  | .green => "32"
  | .yellow => "33"
  | .magenta => "35"
  | .cyan => "36"

structure Style where
  bold : Bool
  colour? : Option Colour
  deriving DecidableEq, Repr

/-- A piece of text with at most one style. -/
structure Segment where
  style? : Option Style
  text : String
  deriving DecidableEq, Repr

def Segment.plain (text : String) : Segment :=
  ⟨none, text⟩

abbrev Styled := List Segment

def graphic (parameter : String) : String :=
  "\x1b[" ++ parameter ++ "m"

def Style.clear : String :=
  graphic "0"

def Style.set (style : Style) : String :=
  Style.clear ++ (if style.bold then graphic "1" else "") ++
    (style.colour?.map fun colour => graphic colour.parameter).getD ""

def Segment.terminal (segment : Segment) : String :=
  match segment.style? with
  | none => segment.text
  | some style => style.set ++ segment.text ++ Style.clear

def Styled.unstyled (document : Styled) : String :=
  String.join (document.map Segment.text)

def Styled.terminal (document : Styled) : String :=
  String.join (document.map Segment.terminal)

end CommandLine.Text
