import CommandLine.Text.Picture

/-!
# Width of a text

The width of a text is the number of terminal columns that it fills.  It is
summed from the last character to the first: what stands to the right of a
character, its `Context`, can change the columns that the character adds.  There
are four such influences.

* A variation selector chooses how the character before it is shown.
* Pictures that are joined fill two columns together.
* Letters that are written as one fill one column together.
* So do a carriage return and the newline behind it.
-/

set_option autoImplicit false

namespace CommandLine.Text

inductive Selector where
  /-- Asks for a picture. -/
  | picture
  /-- Asks for text. -/
  | text
  /-- Asks for the wide form of a quotation mark. -/
  | wideQuote
  deriving DecidableEq, Repr

def Selector.ofChar? : Char → Option Selector
  | '\uFE0F' => some .picture
  | '\uFE0E' => some .text
  | '\uFE01' => some .wideQuote
  | _ => none

/-- What stands to the right of a character, selectors apart. -/
inductive Context where
  /-- Nothing that changes the character. -/
  | plain
  | newline
  | picture (picture : Picture)
  | ligature (ligature : Ligature)
  deriving DecidableEq, Repr

structure Following where
  context : Context := .plain
  /-- The selector between the character and that context. -/
  selector? : Option Selector := none
  deriving DecidableEq, Repr

namespace Context

def ofChar (char : Char) : Context :=
  match Picture.ofChar? char, Ligature.ofChar? char with
  | some shown, _ => .picture shown
  | none, some part => .ligature part
  | none, none => .plain

def extend? (context : Context) (char : Char) : Option (Int × Context) :=
  match context with
  | .plain => none
  | .newline => none
  | .picture shown =>
      (shown.extend? char).map fun (added, next) => (added, .picture next)
  | .ligature part =>
      (part.extend? char).map fun (added, next?) =>
        (added, (next?.map Context.ligature).getD .plain)

def joinsPicture : Context → Bool
  | .picture shown => shown.joins
  | _ => false

def bearsMarks : Context → Bool
  | .ligature part => part.bearsMarks
  | _ => false

/-- A context with a selector in front.  Ligatures stay whole, and a picture may
still be joined; anything else is cut off. -/
def select (context : Context) (selector : Selector) : Following :=
  if context.bearsMarks || (selector = .picture && context.joinsPicture) then
    ⟨context, some selector⟩
  else
    ⟨.plain, some selector⟩

end Context

/-- The four curved quotation marks that have a wide form. -/
def isQuotationMark (char : Char) : Bool :=
  char == '\u2018' || char == '\u2019' || char == '\u201C' || char == '\u201D'

/-- Enclosed ideographs fill two columns as text, too. -/
def isEnclosedIdeograph (code : Nat) : Bool :=
  0x1F200 ≤ code && code ≤ 0x1F2FF

/-- The columns that a character adds in the form that a selector asks for, if it
has that form. -/
def Selector.apply? (selector : Selector) (context : Context) (char : Char) :
    Option (Int × Context) :=
  let code := char.toNat
  match selector with
  | .picture =>
      if pictureBases.mem code || textBases.mem code then
        some (if context.joinsPicture then 0 else 2, .picture .whole)
      else none
  | .text =>
      if textBases.mem code && !isEnclosedIdeograph code then some (1, .plain) else none
  | .wideQuote => if isQuotationMark char then some (2, .plain) else none

/-- What a selector leaves of the context behind it when the character before it
has no such form. -/
def Following.unselected (following : Following) : Context :=
  if following.selector?.isSome && !following.context.bearsMarks then .plain
  else following.context

/-- The columns that a character adds in front of what follows it, and what
then follows the character before it.  Latin letters and controls part what is
to their right from what is to their left. -/
def columnsBefore (char : Char) (following : Following) : Int × Following :=
  match following.selector?.bind fun selector => selector.apply? following.context char with
  | some (added, context) => (added, { context })
  | none =>
      if char = '\n' then (1, { context := .newline })
      else if char = '\r' && following.context = .newline then (0, {})
      else if char ≤ '\u00A0' then (1, {})
      else
        match Selector.ofChar? char with
        | some selector => (0, following.unselected.select selector)
        | none =>
            match following.unselected.extend? char with
            | some (added, context) => (added, { context })
            | none => (columns char, { context := .ofChar char })

def measure : List Char → Int × Following
  | [] => (0, {})
  | char :: rest =>
      let (total, following) := measure rest
      let (added, next) := columnsBefore char following
      (added + total, next)

/-- The number of terminal columns that a text fills. -/
def width (text : List Char) : Nat :=
  (measure text).1.toNat

/-! ## Examples -/

example : width ['a', '\t', '\uFE0F', '日'] = 4 := by decide +kernel

example : width ['\r', '\n'] = 1 ∧ width ['\n', '\r'] = 2 := by decide +kernel

example : width ['\u2764'] = 1 ∧ width ['\u2764', '\uFE0F'] = 2 := by decide +kernel

example : width ['⌚'] = 2 ∧ width ['⌚', '\uFE0E'] = 1 := by decide +kernel

example : width ['👩', '\u200D', '💻'] = 2 ∧ width ['👩', '💻'] = 4 := by decide +kernel

example : width ['🇯', '🇵', '\u200D', '😀'] = 2 ∧ width ['🇯', '🇵', '😀'] = 4 := by decide +kernel

example : width ['\u0644', '\u0627'] = 1 ∧ width ['\u0627', '\u0644'] = 2 := by decide +kernel

example : width ['\u201C', '\uFE01'] = 2 ∧ width ['\u201C'] = 1 := by decide +kernel

end CommandLine.Text
