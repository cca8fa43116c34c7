import ResourceRoutes.Text.Printable
set_option autoImplicit false

namespace ResourceRoutes.Text

def codePointEscape (c : Char) : List Char :=
  ['\\', 'u', Char.ofNat 0x7B] ++ Nat.toDigits 16 c.toNat ++ [Char.ofNat 0x7D]

def escapeChar (c : Char) : List Char :=
  if c = '\x00' then ['\\', '0']
  else if c = '\t' then ['\\', 't']
  else if c = '\r' then ['\\', 'r']
  else if c = '\n' then ['\\', 'n']
  else if c = '\\' then ['\\', '\\']
  else if c = '"' then ['\\', '"']
  else if isGraphemeExtend c then codePointEscape c
  else if isPrintable c then [c]
  else codePointEscape c

def quoted (cs : List Char) : List Char := '"' :: cs.flatMap escapeChar ++ ['"']

end ResourceRoutes.Text
