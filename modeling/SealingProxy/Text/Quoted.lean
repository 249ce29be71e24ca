import SealingProxy.Text.Hidden
/-! # Quoted text in messages

Messages show characters and texts in quotes. Backslashes, the quotes themselves and what cannot be
seen are written as escapes: a letter for the common controls, the code point in hexadecimal digits
for the rest. -/

namespace SealingProxy.Text.Quoted

/-- A character as it stands between quotes of a kind. Those of the other kind need no escape. -/
def escape (quote c : Char) : List Char :=
  if c = '\x00' then ['\\', '0']
  else if c = '\t' then ['\\', 't']
  else if c = '\n' then ['\\', 'n']
  else if c = '\r' then ['\\', 'r']
  else if c = '\\' ∨ c = quote then ['\\', c]
  else if isHidden c then "\\u\x7b".toList ++ (Nat.toDigits 16 c.toNat ++ ['\x7d'])
  else [c]

def char (c : Char) : String :=
  String.ofList ('\'' :: (escape '\'' c ++ ['\'']))

def text (s : String) : String :=
  String.ofList ('"' :: (s.toList.flatMap (escape '"') ++ ['"']))

end SealingProxy.Text.Quoted
