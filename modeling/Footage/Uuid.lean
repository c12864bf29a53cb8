import Footage.Hex

namespace Footage

-- A 128-bit identifier, by its hexadecimal digits.
structure Uuid where
  digits : List (Fin 16)
  length_eq : digits.length = 32
deriving DecidableEq

namespace Uuid

def ofDigits? (cs : List Char) : Option Uuid :=
  match Hex.read? cs with
  | some ds => if h : ds.length = 32 then some ⟨ds, h⟩ else none
  | none => none

-- Groups of 8, 4, 4, 4 and 12 digits between hyphens.
def ofGroups? (cs : List Char) : Option Uuid :=
  if cs.length = 36 ∧ cs[8]? = some '-' ∧ cs[13]? = some '-' ∧ cs[18]? = some '-' ∧
      cs[23]? = some '-' then
    ofDigits? (cs.take 8 ++ (cs.drop 9).take 4 ++ (cs.drop 14).take 4 ++ (cs.drop 19).take 4
      ++ cs.drop 24)
  else none

def urnLabel : List Char := ['u', 'r', 'n', ':', 'u', 'u', 'i', 'd', ':']

-- An identifier is written as bare digits, in groups, in groups between braces,
-- or in groups after a label in either case.
def parse? (text : String) : Option Uuid :=
  let cs := text.toList
  if cs.length = 32 then ofDigits? cs
  else if cs.length = 36 then ofGroups? cs
  else if cs.length = 38 then
    if cs.head? = some '\x7b' ∧ cs.getLast? = some '\x7d' then ofGroups? (cs.drop 1).dropLast
    else none
  else if cs.length = 45 then
    if (cs.take 9).map Char.toLower = urnLabel then ofGroups? (cs.drop 9) else none
  else none

def text (u : Uuid) : String :=
  let cs := Hex.write u.digits
  String.ofList (cs.take 8 ++ '-' :: (cs.drop 8).take 4 ++ '-' :: (cs.drop 12).take 4
    ++ '-' :: (cs.drop 16).take 4 ++ '-' :: cs.drop 20)

end Uuid

end Footage
