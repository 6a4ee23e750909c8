/-!
# Words of the argument list

The program is called with a list of words.  A word that starts with a dash is
a flag, unless it is a single dash; two dashes alone make every later word
plain.  Which flags there are depends on the place: before the task is named,
or behind the name of one of the tasks.
-/

set_option autoImplicit false

namespace CommandLine.Cli

inductive TaskName where
  | tokens
  | ast
  deriving DecidableEq, Repr

def TaskName.ofText? : String → Option TaskName
  | "tokens" => some .tokens
  | "ast" => some .ast
  | _ => none

inductive Place where
  /-- Before the task is named. -/
  | top
  | behind (task : TaskName)
  deriving DecidableEq, Repr

inductive ValueFlag where
  | quote
  | maxDepth
  deriving DecidableEq, Repr

inductive Switch where
  | nextTokenValues
  | json
  | help
  | version
  deriving DecidableEq, Repr

inductive Flag where
  | value (flag : ValueFlag) (attached? : Option String)
  | switch (switch : Switch) (attached? : Option String)
  | unknown
  deriving DecidableEq, Repr

inductive Word where
  /-- The name of a task, a command line, or a value. -/
  | plain
  /-- Two dashes alone. -/
  | separator
  | flag (flag : Flag)
  deriving DecidableEq, Repr

def Flag.long (place : Place) (name : String) (attached? : Option String) : Flag :=
  match name, place with
  | "quote", _ => .value .quote attached?
  | "max-depth", _ => .value .maxDepth attached?
  | "next-token-values", _ => .switch .nextTokenValues attached?
  | "json", .behind .ast => .switch .json attached?
  | "help", _ => .switch .help attached?
  | "version", .top => .switch .version attached?
  | _, _ => .unknown

/-- The flag behind one dash; only its first letter counts. -/
def Flag.short (place : Place) (letter : Char) : Flag :=
  match letter, place with
  | 'h', _ => .switch .help none
  | 'V', .top => .switch .version none
  | _, _ => .unknown

def attachedValue? (text : List Char) : Option String :=
  match text.dropWhile (· != '=') with
  | [] => none
  | _ :: value => some (String.ofList value)

def Word.ofText (place : Place) (text : String) : Word :=
  match text.toList with
  | ['-', '-'] => .separator
  | '-' :: '-' :: rest =>
      .flag (.long place (String.ofList (rest.takeWhile (· != '='))) (attachedValue? rest))
  | '-' :: letter :: _ => .flag (.short place letter)
  | _ => .plain

end CommandLine.Cli
