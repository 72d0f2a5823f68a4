import CobolSubset.Text.Basic

/-!
# JSON values

Trees, tokens and reports have a JSON form. An object is a list of fields in the order in which they
are written.
-/

namespace CobolSubset

inductive Json where
  | null
  | bool (b : Bool)
  /-- The number `mantissa * 10 ^ (-exponent)`. -/
  | number (mantissa : Int) (exponent : Nat)
  | string (s : Text)
  | array (items : List Json)
  | object (fields : List (Text × Json))
deriving Repr, Inhabited

namespace Json

def ofNat (n : Nat) : Json := number n 0

/-- The value of the first field with this name. -/
def field? (name : Text) : List (Text × Json) → Option Json
  | [] => none
  | (key, value) :: rest => if key = name then some value else field? name rest

def text? : Json → Option Text
  | string s => some s
  | _ => none

def bool? : Json → Option Bool
  | bool b => some b
  | _ => none

def int? : Json → Option Int
  | number n 0 => some n
  | _ => none

/-- A choice among names: the name as a string, or as the only key of an object whose value is null.
-/
def choice? : Json → Option Text
  | string s => some s
  | object [(name, null)] => some name
  | _ => none

/-- The values of a record: an object that has all the names, other fields aside, or an array of
exactly these values. -/
def record? (names : List Text) : Json → Option (List Json)
  | object fields => names.mapM fun name => field? name fields
  | array items => if items.length = names.length then some items else none
  | _ => none

end Json

end CobolSubset
