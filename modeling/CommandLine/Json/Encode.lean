import CommandLine.Diagnostic
import CommandLine.Json
import CommandLine.Rule
import CommandLine.Tree

/-!
# JSON forms

Spans, tokens, trees, rules and diagnostics as JSON.  Absent parts are null, and
the fields of a record come in a fixed order.
-/

set_option autoImplicit false

namespace CommandLine

def Span.toJson (span : Span) : Json :=
  .object [("position", .number span.position), ("length", .number span.length)]

/-! ## Tokens -/

def Dashes.toJson : Dashes → Json
  | .short => .string "short"
  | .long => .string "long"

def Literal.toJson (literal : Literal) : Json :=
  .object [("text", .string literal.text), ("quoted", .bool literal.quoted)]

def Value.toTokenJson (value : Value) : Json :=
  .object [("literal", value.literal.toJson), ("span", value.span.toJson)]

def OptionUse.toTokenJson (option : OptionUse) : Json :=
  .object
    [("name", .string option.name),
      ("name_span", option.nameSpan.toJson),
      ("prefix", option.dashes.toJson),
      ("value", .ofOption Value.toTokenJson option.value?)]

def Token.Kind.toJson (kind : Token.Kind) : Json :=
  let (name, data) : String × Json :=
    match kind with
    | .program literal => ("program_name", literal.toJson)
    | .command name => ("command", .string name)
    | .option given => ("option", given.toTokenJson)
    | .value literal => ("value", literal.toJson)
  .object [("kind", .string name), ("data", data)]

def Token.toJson (token : Token) : Json :=
  .object [("kind", token.kind.toJson), ("span", token.span.toJson)]

/-! ## Trees -/

def Value.toJson (value : Value) : Json :=
  .object
    [("span", value.span.toJson),
      ("value", .string value.literal.text),
      ("quoted", .bool value.literal.quoted)]

def OptionUse.toJson (option : OptionUse) : Json :=
  .object
    [("span", option.span.toJson),
      ("name", .string option.name),
      ("name_span", option.nameSpan.toJson),
      ("prefix", option.dashes.toJson),
      ("value", .ofOption Value.toJson option.value?)]

mutual

def CommandUse.toJson : CommandUse → Json
  | ⟨name, nameSpan, commands, options⟩ =>
      .object
        [("span", (CommandUse.span ⟨name, nameSpan, commands, options⟩).toJson),
          ("name", .string name),
          ("commands", .array (CommandUse.listToJson commands)),
          ("options", .array (options.map OptionUse.toJson))]

def CommandUse.listToJson : List CommandUse → List Json
  | [] => []
  | command :: rest => command.toJson :: CommandUse.listToJson rest

end

def Tree.toJson (tree : Tree) : Json :=
  .object
    [("span", tree.span.toJson),
      ("program", tree.program.toJson),
      ("commands", .array (CommandUse.listToJson tree.commands)),
      ("options", .array (tree.options.map OptionUse.toJson))]

/-! ## Rules -/

def Quantifier.toJson (quantifier : Quantifier) : Json :=
  .string quantifier.name

def OptionRule.toJson (rule : OptionRule) : Json :=
  .object
    [("name", .string rule.name),
      ("short", .ofOption (fun letter => .string letter.toString) rule.short?),
      ("required", .bool rule.required),
      ("expects_value", .bool rule.expectsValue),
      ("repeatable", .bool rule.repeatable)]

mutual

def CommandRule.toJson : CommandRule → Json
  | ⟨name, quantifier, subcommands, commands, options⟩ =>
      .object
        [("name", .string name),
          ("quantifier", quantifier.toJson),
          ("subcommands", subcommands.toJson),
          ("commands", .array (CommandRule.listToJson commands)),
          ("options", .array (options.map OptionRule.toJson))]

def CommandRule.listToJson : List CommandRule → List Json
  | [] => []
  | rule :: rest => rule.toJson :: CommandRule.listToJson rest

end

def Level.toJson (level : Level) : Json :=
  .object
    [("quantifier", level.quantifier.toJson),
      ("commands", .array (CommandRule.listToJson level.commands)),
      ("options", .array (level.options.map OptionRule.toJson))]

/-! ## Diagnostics -/

def Diagnostic.toJson (diagnostic : Diagnostic) : Json :=
  .object
    [("kind", .string diagnostic.violation.name),
      ("subject", .ofOption Json.string diagnostic.subject?),
      ("span", diagnostic.span.toJson),
      ("related", .ofOption Span.toJson diagnostic.related?)]

def Diagnostic.resultToJson : List Diagnostic → Json
  | [] => .object [("status", .string "valid")]
  | diagnostics =>
      .object
        [("status", .string "invalid"),
          ("diagnostics", .array (diagnostics.map Diagnostic.toJson))]

/-! ## Descriptions -/

def Label.toJson (label : Label) : Json :=
  .array [.string label.text, .number label.span.position, .number label.span.length]

def Description.fields (description : Description) : List (String × Json) :=
  [("message", .string description.message),
    ("code", .string description.code),
    ("help", .ofOption Json.string description.help?),
    ("labels", .array (description.labels.map Label.toJson))]

end CommandLine
