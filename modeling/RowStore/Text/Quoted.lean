import RowStore.Text.Shown

/-!
Quoted texts, as messages show names and paths: the text between double quotes, with the quote,
the backslash and four controls behind a backslash and every other character that is not shown by
its hexadecimal number in braces.
-/

set_option autoImplicit false

namespace RowStore.Text

def hexadecimal (number : Nat) : List Char :=
  Nat.toDigits 16 number

def quotedChar (character : Char) : List Char :=
  if character = '"' then ['\\', '"']
  else if character = '\\' then ['\\', '\\']
  else if character = '\n' then ['\\', 'n']
  else if character = '\r' then ['\\', 'r']
  else if character = '\t' then ['\\', 't']
  else if character = '\x00' then ['\\', '0']
  else if isShown character then [character]
  else ['\\', 'u', '\x7b'] ++ hexadecimal character.toNat ++ ['\x7d']

def quoted (text : String) : String :=
  String.ofList ('"' :: text.toList.flatMap quotedChar ++ ['"'])

end RowStore.Text
