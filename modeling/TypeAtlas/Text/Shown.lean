import TypeAtlas.Text.Hidden

/-!
Texts as they are shown in messages.

A text is shown in double quotes. Characters that cannot be seen, or that would join the one before
them, are shown by their number.
-/

set_option autoImplicit false

namespace TypeAtlas.Text

/-- A character as it is shown between quotes. -/
def shownChar (c : Char) : List Char :=
  if c = '"' then ['\\', '"']
  else if c = '\\' then ['\\', '\\']
  else if c = '\n' then ['\\', 'n']
  else if c = '\r' then ['\\', 'r']
  else if c = '\t' then ['\\', 't']
  else if c.toNat = 0 then ['\\', '0']
  else if isHidden c then ['\\', 'u', '\x7b'] ++ Nat.toDigits 16 c.toNat ++ ['\x7d']
  else [c]

/-- A text as it is shown in messages. -/
def shown (text : String) : String :=
  String.ofList ('"' :: text.toList.flatMap shownChar ++ ['"'])

end TypeAtlas.Text
