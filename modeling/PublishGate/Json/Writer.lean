import PublishGate.Json.Value
import PublishGate.Text.Hex

/-! # Writing JSON -/

namespace PublishGate.Json

/-- A character inside a string. Quotes, backslashes and the controls below U+0020 are escaped, by
letter where there is one, and all others stand for themselves. -/
def escape (c : Char) : List Char :=
  if c = '"' then ['\\', '"']
  else if c = '\\' then ['\\', '\\']
  else if c = '\n' then ['\\', 'n']
  else if c = '\r' then ['\\', 'r']
  else if c = '\t' then ['\\', 't']
  else if c.toNat = 0x08 then ['\\', 'b']
  else if c.toNat = 0x0C then ['\\', 'f']
  else if c.toNat < 0x20 then
    ['\\', 'u', '0', '0', Text.lowerHex (c.toNat / 16), Text.lowerHex (c.toNat % 16)]
  else [c]

def quoted (s : String) : List Char :=
  '"' :: (s.toList.flatMap escape ++ ['"'])

mutual

def compact : Json → List Char
  | .null => ['n', 'u', 'l', 'l']
  | .bool true => ['t', 'r', 'u', 'e']
  | .bool false => ['f', 'a', 'l', 's', 'e']
  | .number spelling => spelling.toList
  | .string s => quoted s
  | .broken => ['"', '"']
  | .array items => '[' :: (compactItems items ++ [']'])
  | .object fields => '{' :: (compactFields fields ++ ['}'])

def compactItems : List Json → List Char
  | [] => []
  | [v] => compact v
  | v :: w :: rest => compact v ++ ',' :: compactItems (w :: rest)

def compactFields : List (String × Json) → List Char
  | [] => []
  | [(k, v)] => quoted k ++ ':' :: compact v
  | (k, v) :: f :: rest => quoted k ++ ':' :: (compact v ++ ',' :: compactFields (f :: rest))

end

def newLine (depth : Nat) : List Char :=
  '\n' :: List.replicate (2 * depth) ' '

mutual

/-- The text with one item or field a line, indented by two blanks for each level. Empty arrays and
objects stay closed up. -/
def pretty (depth : Nat) : Json → List Char
  | .array [] => ['[', ']']
  | .object [] => ['{', '}']
  | .array items => '[' :: (prettyItems (depth + 1) items ++ (newLine depth ++ [']']))
  | .object fields => '{' :: (prettyFields (depth + 1) fields ++ (newLine depth ++ ['}']))
  | .null => ['n', 'u', 'l', 'l']
  | .bool true => ['t', 'r', 'u', 'e']
  | .bool false => ['f', 'a', 'l', 's', 'e']
  | .number spelling => spelling.toList
  | .string s => quoted s
  | .broken => ['"', '"']

def prettyItems (depth : Nat) : List Json → List Char
  | [] => []
  | [v] => newLine depth ++ pretty depth v
  | v :: w :: rest => newLine depth ++ (pretty depth v ++ ',' :: prettyItems depth (w :: rest))

def prettyFields (depth : Nat) : List (String × Json) → List Char
  | [] => []
  | [(k, v)] => newLine depth ++ (quoted k ++ ':' :: ' ' :: pretty depth v)
  | (k, v) :: f :: rest =>
    newLine depth ++ (quoted k ++ ':' :: ' ' :: (pretty depth v ++
      ',' :: prettyFields depth (f :: rest)))

end

def compactText (v : Json) : String :=
  String.ofList v.compact

def prettyText (v : Json) : String :=
  String.ofList (v.pretty 0)

end PublishGate.Json
