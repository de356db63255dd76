import ConsumerContract.Text.Letter

namespace ConsumerContract.Text

def hexDigits (n : Nat) : List Char := Nat.toDigits 16 n

def quotedChar (c : Char) : List Char :=
  match c with
  | '\x00' => ['\\', '0']
  | '\t' => ['\\', 't']
  | '\r' => ['\\', 'r']
  | '\n' => ['\\', 'n']
  | '\x22' => ['\\', '\x22']
  | '\\' => ['\\', '\\']
  | c =>
      if isExtender c || !isPrintable c then
        ['\\', 'u', '{'] ++ hexDigits c.toNat ++ ['}']
      else [c]

def quoted (s : String) : String :=
  .ofList ('\x22' :: (s.toList.flatMap quotedChar ++ ['\x22']))

end ConsumerContract.Text
