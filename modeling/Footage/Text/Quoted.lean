import Footage.Hex
import Footage.Text.Marked

namespace Footage.Text

-- A character inside double quotes. What cannot be seen is given by number.
def escaped (c : Char) : List Char :=
  if c = '"' then ['\\', '"']
  else if c = '\\' then ['\\', '\\']
  else if c = '\x00' then ['\\', '0']
  else if c = '\t' then ['\\', 't']
  else if c = '\n' then ['\\', 'n']
  else if c = '\r' then ['\\', 'r']
  else if isMarked c then [c]
  else '\\' :: 'u' :: '\x7b' :: Hex.digits c.toNat ++ ['\x7d']

-- A text of the payload as it is named in a message.
def quoted (s : String) : String :=
  "\"" ++ String.ofList (s.toList.flatMap escaped) ++ "\""

end Footage.Text
