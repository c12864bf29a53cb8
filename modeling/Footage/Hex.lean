namespace Footage.Hex

-- The value of a hexadecimal digit in either case.
def digit? (c : Char) : Option (Fin 16) :=
  if 48 ≤ c.toNat ∧ c.toNat ≤ 57 then some (Fin.ofNat 16 (c.toNat - 48))
  else if 97 ≤ c.toNat ∧ c.toNat ≤ 102 then some (Fin.ofNat 16 (c.toNat - 87))
  else if 65 ≤ c.toNat ∧ c.toNat ≤ 70 then some (Fin.ofNat 16 (c.toNat - 55))
  else none

-- Digits are written in lower case.
def char (d : Fin 16) : Char := Nat.digitChar d.val

def read? : List Char → Option (List (Fin 16))
  | [] => some []
  | c :: cs =>
    match digit? c, read? cs with
    | some d, some ds => some (d :: ds)
    | _, _ => none

def write (ds : List (Fin 16)) : List Char := ds.map char

-- The hexadecimal digits of a number, without leading zeros.
def digits (n : Nat) : List Char := Nat.toDigits 16 n

theorem digit?_char (d : Fin 16) : digit? (char d) = some d := by
  revert d
  decide

theorem read?_write (ds : List (Fin 16)) : read? (write ds) = some ds := by
  induction ds with
  | nil => rfl
  | cons d ds ih =>
    have hw : write (d :: ds) = char d :: write ds := rfl
    simp only [hw, read?, digit?_char, ih]

end Footage.Hex
