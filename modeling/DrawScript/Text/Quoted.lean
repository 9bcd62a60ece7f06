import DrawScript.Text.Shapeless

set_option autoImplicit false

namespace DrawScript.Text

def hexadecimal (n : Nat) : String := String.ofList (Nat.toDigits 16 n)

def quotedCharacter (c : Char) : String :=
  if c = '"' then "\\\""
  else if c = '\\' then "\\\\"
  else if c = '\n' then "\\n"
  else if c = '\r' then "\\r"
  else if c = '\t' then "\\t"
  else if c = '\x00' then "\\0"
  else if isShapeless c then "\\u\x7b" ++ hexadecimal c.toNat ++ "\x7d"
  else c.toString

def quoted (text : String) : String :=
  "\"" ++ String.join (text.toList.map quotedCharacter) ++ "\""

end DrawScript.Text
