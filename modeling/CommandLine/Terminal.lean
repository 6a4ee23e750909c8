import CommandLine.Report
import CommandLine.Text.Width

/-!
# Reports at a terminal

Only here is it settled how wide a text is.
-/

set_option autoImplicit false

namespace CommandLine.Terminal

def render (source : String) (diagnostics : List Diagnostic) : Except Trap String :=
  Report.render Text.width .trap source diagnostics

def item (source : String) (diagnostic : Diagnostic) : Except Trap Text.Styled :=
  Report.item Text.width .trap source diagnostic

def document (source : String) (diagnostics : List Diagnostic) : Except Trap Text.Styled :=
  Report.document Text.width .trap source diagnostics

end CommandLine.Terminal
