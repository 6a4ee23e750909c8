import CommandLine.Text.Styled

/-!
# Writers of styled texts

A writer is handed a styled text piece by piece.  It sends a sequence of its own to set the
style of a piece, the piece, and another sequence to clear the style.  Whatever its sequences
are, the text is what is left without them (`keptOutput_eq`).  A writer without sequences
sends the unstyled text, and a terminal is a writer like any other.
-/

set_option autoImplicit false

namespace CommandLine.Text

/-- A writer, by what it sends to set a style and to clear it. -/
structure Writer where
  set : Style → String
  clear : String

/-- What a writer sends at a time. -/
inductive Sent where
  | text (text : String)
  | sequence (sequence : String)
  deriving DecidableEq, Repr

def Sent.whole : Sent → String
  | .text piece => piece
  | .sequence code => code

def Sent.kept : Sent → String
  | .text piece => piece
  | .sequence _ => ""

namespace Writer

def send (writer : Writer) (segment : Segment) : List Sent :=
  match segment.style? with
  | none => [.text segment.text]
  | some style => [.sequence (writer.set style), .text segment.text, .sequence writer.clear]

def output (writer : Writer) (document : Styled) : String :=
  String.join ((document.flatMap writer.send).map Sent.whole)

def keptOutput (writer : Writer) (document : Styled) : String :=
  String.join ((document.flatMap writer.send).map Sent.kept)

def plain : Writer :=
  ⟨fun _ => "", ""⟩

def terminal : Writer :=
  ⟨Style.set, Style.clear⟩

def around (writer : Writer) (style : Style) (text : String) : String :=
  writer.set style ++ text ++ writer.clear

@[simp]
theorem output_nil (writer : Writer) : writer.output [] = "" := rfl

theorem output_append (writer : Writer) (front back : Styled) :
    writer.output (front ++ back) = writer.output front ++ writer.output back := by
  simp [output, String.join_append]

@[simp]
theorem output_plain_cons (writer : Writer) (text : String) (rest : Styled) :
    writer.output (.plain text :: rest) = text ++ writer.output rest := by
  simp [output, send, Segment.plain, Sent.whole, String.join_cons]

@[simp]
theorem output_styled_cons (writer : Writer) (style : Style) (text : String) (rest : Styled) :
    writer.output (⟨some style, text⟩ :: rest) =
      writer.around style text ++ writer.output rest := by
  simp [output, send, around, Sent.whole, String.join_cons, String.append_assoc]

theorem output_flatMap {α : Type} (writer : Writer) (shown : α → Styled) (items : List α) :
    writer.output (items.flatMap shown) =
      String.join (items.map fun item => writer.output (shown item)) := by
  induction items with
  | nil => rfl
  | cons item rest ih =>
      rw [List.flatMap_cons, output_append, ih, List.map_cons, String.join_cons]

/-- An output is told by what is sent for each piece. -/
theorem output_eq_join {writer : Writer} {shown : Segment → String}
    (unstyled : ∀ text, shown (.plain text) = text)
    (styled : ∀ style text, shown ⟨some style, text⟩ = writer.around style text)
    (document : Styled) : writer.output document = String.join (document.map shown) := by
  induction document with
  | nil => rfl
  | cons segment rest ih =>
      rw [List.map_cons, String.join_cons, ← ih]
      rcases segment with ⟨_ | style, text⟩
      · rw [← Segment.plain, output_plain_cons, unstyled]
      · rw [output_styled_cons, styled]

theorem output_plain (document : Styled) : plain.output document = document.unstyled := by
  apply output_eq_join
  · exact fun text => rfl
  · intro style text
    simp [around, plain]

theorem output_terminal (document : Styled) : terminal.output document = document.terminal :=
  output_eq_join (fun _ => rfl) (fun _ _ => rfl) document

theorem keptOutput_eq (writer : Writer) (document : Styled) :
    writer.keptOutput document = document.unstyled := by
  have same : ∀ segment, (writer.send segment).map Sent.kept =
      (plain.send segment).map Sent.whole := by
    rintro ⟨_ | style, text⟩ <;> rfl
  rw [← output_plain, keptOutput, output, List.map_flatMap, List.map_flatMap]
  simp only [same]

end Writer

end CommandLine.Text
