import Footage.Json.Token

namespace Footage.Json

-- A value as it is written, with the literals left as they are.
inductive Written
  | null
  | bool (b : Bool)
  | number (n : Numeral)
  | string (pieces : List Piece)
  | array (items : List Written)
  | object (members : List (List Piece × Written))
deriving Inhabited

namespace Written

-- An array or object that is not closed yet, with what was read of it, the latest
-- first; in an object also the name whose value comes next.
inductive Open
  | array (items : List Written)
  | object (members : List (List Piece × Written)) (name : List Piece)

-- What may come next, inside the open containers, the innermost first.
inductive Stage
  | value (outer : List Open)
  | firstItem (outer : List Open)
  | afterItem (items : List Written) (outer : List Open)
  | firstName (outer : List Open)
  | name (members : List (List Piece × Written)) (outer : List Open)
  | colon (members : List (List Piece × Written)) (name : List Piece) (outer : List Open)
  | afterMember (members : List (List Piece × Written)) (outer : List Open)
  | done (w : Written)

-- Puts a complete value into the innermost open container.
def deliver (w : Written) : List Open → Stage
  | [] => .done w
  | .array items :: outer => .afterItem (w :: items) outer
  | .object members name :: outer => .afterMember ((name, w) :: members) outer

-- The start of a value.
def start (outer : List Open) : Token → Option Stage
  | .null => some (deliver .null outer)
  | .bool b => some (deliver (.bool b) outer)
  | .number n => some (deliver (.number n) outer)
  | .string pieces => some (deliver (.string pieces) outer)
  | .openArray => some (.firstItem outer)
  | .openObject => some (.firstName outer)
  | _ => none

def step : Stage → Token → Option Stage
  | .value outer, t => start outer t
  | .firstItem outer, .closeArray => some (deliver (.array []) outer)
  | .firstItem outer, t => start (.array [] :: outer) t
  | .afterItem items outer, .comma => some (.value (.array items :: outer))
  | .afterItem items outer, .closeArray => some (deliver (.array items.reverse) outer)
  | .firstName outer, .closeObject => some (deliver (.object []) outer)
  | .firstName outer, .string name => some (.colon [] name outer)
  | .name members outer, .string name => some (.colon members name outer)
  | .colon members name outer, .colon => some (.value (.object members name :: outer))
  | .afterMember members outer, .comma => some (.name members outer)
  | .afterMember members outer, .closeObject => some (deliver (.object members.reverse) outer)
  | _, _ => none

def run : Stage → List Token → Option (Written × List Token)
  | .done w, rest => some (w, rest)
  | _, [] => none
  | stage, t :: rest =>
    match step stage t with
    | some next => run next rest
    | none => none

-- The value that the tokens begin with, and the tokens after it.
def read? (tokens : List Token) : Option (Written × List Token) := run (.value []) tokens

theorem run_no_longer {stage : Stage} {tokens rest : List Token} {w : Written}
    (h : run stage tokens = some (w, rest)) : rest.length ≤ tokens.length := by
  fun_induction run stage tokens with
  | case1 => simp_all
  | case2 => simp at h
  | case3 _ _ _ _ _ _ ih =>
    have := ih h
    simp only [List.length_cons]
    omega
  | case4 => simp at h

-- How many arrays and objects may stand inside each other.
def depthLimit : Nat := 127

mutual

-- The value meant, inside a number of containers that may still be opened.
def value? (w : Written) (depth : Nat) : Option Json :=
  match w with
  | .null => some .null
  | .bool b => some (.bool b)
  | .number n => n.value?.map .number
  | .string pieces => (Piece.decode pieces).map fun cs => .string (String.ofList cs)
  | .array items =>
    match depth with
    | 0 => none
    | depth + 1 => (itemValues? items depth).map .array
  | .object members =>
    match depth with
    | 0 => none
    | depth + 1 => (memberValues? members depth).map fun ms => .object (gather ms)

def itemValues? (items : List Written) (depth : Nat) : Option (List Json) :=
  match items with
  | [] => some []
  | w :: rest =>
    match value? w depth, itemValues? rest depth with
    | some v, some vs => some (v :: vs)
    | _, _ => none

def memberValues? (members : List (List Piece × Written)) (depth : Nat) :
    Option (List (String × Json)) :=
  match members with
  | [] => some []
  | (name, w) :: rest =>
    match Piece.decode name, value? w depth, memberValues? rest depth with
    | some n, some v, some vs => some ((String.ofList n, v) :: vs)
    | _, _, _ => none

end

end Written

-- Reads a text that is one value and nothing else.
def read? (text : String) : Option Json :=
  match Written.read? (Token.all text.toList) with
  | some (w, []) => w.value? Written.depthLimit
  | _ => none

end Footage.Json
