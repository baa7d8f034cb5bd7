import FollowClient.Text.Unprintable

/-!
A text in double quotes, as it stands in a message. The quote, the backslash and the usual control
characters have short escapes, other unprintable characters are written by number, and every other
character stands for itself.
-/

namespace FollowClient.Text.Quoted

/-- The written form of one character between the quotes. -/
def encodeChar (c : Char) : List Char :=
  if c = '"' then ['\\', '"']
  else if c = '\\' then ['\\', '\\']
  else if c = '\n' then ['\\', 'n']
  else if c = '\r' then ['\\', 'r']
  else if c = '\t' then ['\\', 't']
  else if c.toNat = 0 then ['\\', '0']
  else if isUnprintable c then ['\\', 'u', '\x7b'] ++ Nat.toDigits 16 c.toNat ++ ['\x7d']
  else [c]

/-- The text between double quotes. -/
def encode (s : String) : String :=
  String.ofList ('"' :: s.toList.flatMap encodeChar ++ ['"'])

end FollowClient.Text.Quoted
