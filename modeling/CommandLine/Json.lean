/-!
# JSON values

The values that the library writes as JSON are built from natural numbers,
texts, lists and records; a record keeps the order of its fields.  `pretty`
writes one with two spaces a level.
-/

set_option autoImplicit false

namespace CommandLine

inductive Json where
  | null
  | bool (value : Bool)
  | number (value : Nat)
  | string (value : String)
  | array (items : List Json)
  | object (fields : List (String × Json))
  deriving Repr

namespace Json

def ofOption {α : Type} (toJson : α → Json) : Option α → Json
  | none => .null
  | some value => toJson value

def controlDigits (char : Char) : List Char :=
  let digits := Nat.toDigits 16 char.toNat
  List.replicate (4 - digits.length) '0' ++ digits

def escape (char : Char) : List Char :=
  if char = '"' then ['\\', '"']
  else if char = '\\' then ['\\', '\\']
  else if char = '\x08' then ['\\', 'b']
  else if char = '\x0c' then ['\\', 'f']
  else if char = '\n' then ['\\', 'n']
  else if char = '\r' then ['\\', 'r']
  else if char = '\t' then ['\\', 't']
  else if char.toNat < 0x20 then ['\\', 'u'] ++ controlDigits char
  else [char]

def quote (text : String) : String :=
  String.ofList ('"' :: text.toList.flatMap escape ++ ['"'])

def newline (depth : Nat) : String :=
  "\n" ++ String.ofList (List.replicate (2 * depth) ' ')

/-- Puts the written items of a list or record between brackets, each on a line
of its own; an empty one takes no line. -/
def enclose (opening closing : String) (depth : Nat) : List String → String
  | [] => opening ++ closing
  | items =>
      opening ++ newline (depth + 1) ++
        String.intercalate ("," ++ newline (depth + 1)) items ++ newline depth ++ closing

mutual

def prettyAt (depth : Nat) : Json → String
  | .null => "null"
  | .bool true => "true"
  | .bool false => "false"
  | .number value => toString value
  | .string value => quote value
  | .array items => enclose "[" "]" depth (prettyItems (depth + 1) items)
  | .object fields => enclose "\x7b" "\x7d" depth (prettyFields (depth + 1) fields)

def prettyItems (depth : Nat) : List Json → List String
  | [] => []
  | item :: rest => prettyAt depth item :: prettyItems depth rest

def prettyFields (depth : Nat) : List (String × Json) → List String
  | [] => []
  | (name, value) :: rest =>
      (quote name ++ ": " ++ prettyAt depth value) :: prettyFields depth rest

end

/-- Writes a value with two spaces a level of nesting. -/
def pretty (value : Json) : String :=
  prettyAt 0 value

end Json

end CommandLine
