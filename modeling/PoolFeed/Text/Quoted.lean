import PoolFeed.Text.Invisible

/-!
# Quoting a text for a reader

A text as it is shown inside an error: between double quotes, with everything escaped that a
reader could not see or could not tell apart.
-/

namespace PoolFeed.Text

/-- A character inside double quotes, as a reader sees it. -/
def shown (c : Char) : List Char :=
  if c = '"' then ['\\', '"']
  else if c = '\\' then ['\\', '\\']
  else if c = '\n' then ['\\', 'n']
  else if c = '\r' then ['\\', 'r']
  else if c = '\t' then ['\\', 't']
  else if c.toNat = 0 then ['\\', '0']
  else if !isInvisible c then [c]
  else '\\' :: 'u' :: '\x7b' :: Nat.toDigits 16 c.toNat ++ ['\x7d']

/-- A text between double quotes, as a reader sees it. -/
def quotedForReading (s : String) : String :=
  String.ofList ('"' :: s.toList.flatMap shown ++ ['"'])

end PoolFeed.Text
