import LogWeave.Decimal.Binary

/-! Document values.

The members of an object stand in the order of their names, each name once; `put` keeps it so. -/
namespace LogWeave.Json

/-- A whole number of 64 bits, or any other as a binary fraction. -/
inductive Number where
  | whole (n : Int)
  | fraction (negative : Bool) (size : Decimal.Binary)
  deriving DecidableEq, Repr

inductive Value where
  | null
  | bool (b : Bool)
  | number (n : Number)
  | text (s : String)
  | list (items : List Value)
  | object (members : List (String × Value))
  deriving Repr, Inhabited

namespace Value

/-- The whole number as a value. -/
def whole (n : Int) : Value := number (.whole n)

/-- A text that may be missing. -/
def text? : Option String → Value
  | some s => text s
  | none => null

/-- A member set to a value: in place of one of its name, or where its name belongs. -/
def put (key : String) (value : Value) : List (String × Value) → List (String × Value)
  | [] => [(key, value)]
  | (k, v) :: rest =>
    if key < k then (key, value) :: (k, v) :: rest
    else if key = k then (key, value) :: rest
    else (k, v) :: put key value rest

def get? (members : List (String × Value)) (key : String) : Option Value :=
  (members.find? (·.1 == key)).map Prod.snd

end Value

end LogWeave.Json
