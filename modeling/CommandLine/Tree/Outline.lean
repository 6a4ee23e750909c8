import CommandLine.Text.Pad
import CommandLine.Text.Quoted
import CommandLine.Tree.Node

/-!
# Outlines of trees

An outline shows one node a line, indented below its parent and followed by its
span.  Quoted values are shown quoted, so a value with a newline in it still
takes one line.
-/

set_option autoImplicit false

namespace CommandLine

def Node.label : Node → String
  | .root _ => "root"
  | .program name => "program " ++ name.literal.text
  | .command given => "command " ++ given.name
  | .option given => "option " ++ given.dashes.text ++ given.name
  | .value ⟨⟨text, true⟩, _⟩ => "value " ++ Text.quoted text
  | .value ⟨⟨text, false⟩, _⟩ => "value " ++ text

def Node.outlineLine (depth : Nat) (node : Node) : String :=
  Text.spaces (2 * depth) ++ node.label ++ " " ++ node.span.text ++ "\n"

def Tree.outline (tree : Tree) : String :=
  String.join (((Node.root tree).preorder 0).map fun (depth, node) => node.outlineLine depth)

end CommandLine
