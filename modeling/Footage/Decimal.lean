namespace Footage.Decimal

def tenTo (k : Nat) : Nat := Nat.pow 10 k

-- The decimal digits of a number, without leading zeros.
def digits (n : Nat) : List Char := Nat.toDigits 10 n

def ofNat (n : Nat) : String := String.ofList (digits n)

-- A negative number has a minus sign in front of the digits of its size.
def ofInt (n : Int) : String :=
  if n < 0 then "-" ++ ofNat n.natAbs else ofNat n.natAbs

-- The digits filled up on the left to a least width.
def padded (width : Nat) (fill : Char) (n : Nat) : List Char :=
  List.leftpad width fill (digits n)

def zeros (width : Nat) (n : Nat) : String := String.ofList (padded width '0' n)

-- The value of one digit, and of a row of digits.
def digit? (c : Char) : Option Nat :=
  if 48 ≤ c.toNat ∧ c.toNat ≤ 57 then some (c.toNat - 48) else none

def value (ds : List Nat) : Nat := ds.foldl (fun n d => 10 * n + d) 0

def digits? : List Char → Option (List Nat)
  | [] => some []
  | c :: cs =>
    match digit? c, digits? cs with
    | some d, some ds => some (d :: ds)
    | _, _ => none

def read? (cs : List Char) : Option Nat := (digits? cs).map value

theorem digit?_lt {c : Char} {d : Nat} (h : digit? c = some d) : d < 10 := by
  unfold digit? at h
  split at h
  · simp only [Option.some.injEq] at h
    omega
  · simp at h

theorem digits?_bounds {cs : List Char} {ds : List Nat} (h : digits? cs = some ds) :
    ds.length = cs.length ∧ ∀ d ∈ ds, d < 10 := by
  induction cs generalizing ds with
  | nil =>
    simp only [digits?, Option.some.injEq] at h
    simp [← h]
  | cons c cs ih =>
    unfold digits? at h
    split at h
    · rename_i d more hd hm
      obtain ⟨hl, hb⟩ := ih hm
      simp only [Option.some.injEq] at h
      subst h
      refine ⟨by simp [hl], ?_⟩
      intro x hx
      cases List.mem_cons.1 hx with
      | inl he => exact he ▸ digit?_lt hd
      | inr ht => exact hb x ht
    · simp at h

theorem foldl_lt (ds : List Nat) (soFar : Nat) (h : ∀ d ∈ ds, d < 10) :
    ds.foldl (fun n d => 10 * n + d) soFar < (soFar + 1) * tenTo ds.length := by
  induction ds generalizing soFar with
  | nil => simp [tenTo]
  | cons d ds ih =>
    have hd := h d (by simp)
    have hi := ih (10 * soFar + d) (fun x hx => h x (List.mem_cons_of_mem _ hx))
    have hs : (10 * soFar + d + 1) * tenTo ds.length ≤ (soFar + 1) * tenTo (d :: ds).length := by
      have ht : tenTo (d :: ds).length = 10 * tenTo ds.length := by
        simp only [tenTo, List.length_cons, Nat.pow_succ, Nat.pow_eq]
        omega
      rw [ht, ← Nat.mul_assoc]
      exact Nat.mul_le_mul_right _ (by omega)
    exact Nat.lt_of_lt_of_le hi hs

-- A row of digits names a number below the power of ten with as many zeros.
theorem read?_lt {cs : List Char} {n : Nat} (h : read? cs = some n) : n < tenTo cs.length := by
  obtain ⟨ds, hd, rfl⟩ := Option.map_eq_some_iff.1 h
  obtain ⟨hl, hb⟩ := digits?_bounds hd
  have := foldl_lt ds 0 hb
  simpa [value, hl] using this

end Footage.Decimal
