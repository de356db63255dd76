import ConsumerContract.Json.Basic

/-!
JSON texts. The compact form has no blanks; the indented form puts every item and entry on a line of
its own, two blanks deeper than its container, and leaves empty containers as `[]` and `\x7b\x7d`.
-/

namespace ConsumerContract.Json

def hexDigit (n : Nat) : Char := if n < 10 then Char.ofNat (48 + n) else Char.ofNat (87 + n)

def escapedChar (c : Char) : List Char :=
  match c with
  | '\x22' => ['\\', '\x22']
  | '\\' => ['\\', '\\']
  | '\x08' => ['\\', 'b']
  | '\t' => ['\\', 't']
  | '\n' => ['\\', 'n']
  | '\x0c' => ['\\', 'f']
  | '\r' => ['\\', 'r']
  | c =>
      if c.toNat < 0x20 then
        ['\\', 'u', '0', '0', hexDigit (c.toNat / 16), hexDigit (c.toNat % 16)]
      else [c]

def writeString (s : String) : List Char :=
  '\x22' :: (s.toList.flatMap escapedChar ++ ['\x22'])

mutual

def write : Json → List Char
  | .null => ['n', 'u', 'l', 'l']
  | .bool true => ['t', 'r', 'u', 'e']
  | .bool false => ['f', 'a', 'l', 's', 'e']
  | .number n => n.text.toList
  | .string s => writeString s
  | .array [] => ['[', ']']
  | .array (v :: rest) => '[' :: (write v ++ writeItems rest)
  | .object [] => ['{', '}']
  | .object ((k, v) :: rest) => '{' :: (writeString k ++ ':' :: (write v ++ writeEntries rest))

def writeItems : List Json → List Char
  | [] => [']']
  | v :: rest => ',' :: (write v ++ writeItems rest)

def writeEntries : List (String × Json) → List Char
  | [] => ['}']
  | (k, v) :: rest => ',' :: (writeString k ++ ':' :: (write v ++ writeEntries rest))

end

def text (v : Json) : String := .ofList v.write

def newline (depth : Nat) : List Char := '\n' :: List.replicate (2 * depth) ' '

mutual

def indent (depth : Nat) : Json → List Char
  | .array [] => ['[', ']']
  | .array (v :: rest) =>
      '[' :: (newline (depth + 1) ++ indent (depth + 1) v ++ indentItems depth rest)
  | .object [] => ['{', '}']
  | .object ((k, v) :: rest) =>
      '{' :: (newline (depth + 1) ++ writeString k ++ ':' :: ' ' ::
        (indent (depth + 1) v ++ indentEntries depth rest))
  | v => write v

def indentItems (depth : Nat) : List Json → List Char
  | [] => newline depth ++ [']']
  | v :: rest =>
      ',' :: (newline (depth + 1) ++ indent (depth + 1) v ++ indentItems depth rest)

def indentEntries (depth : Nat) : List (String × Json) → List Char
  | [] => newline depth ++ ['}']
  | (k, v) :: rest =>
      ',' :: (newline (depth + 1) ++ writeString k ++ ':' :: ' ' ::
        (indent (depth + 1) v ++ indentEntries depth rest))

end

def indented (v : Json) : String := .ofList (v.indent 0)

end ConsumerContract.Json
