import LogWeave.Address.Name

/-! Hosts: names, and numbers of the fourth and the sixth version.

A name whose last label is a number has to be an address of the fourth version; an address of the
sixth stands in brackets. -/
namespace LogWeave.Address

/-- What can be wrong with an address. -/
inductive Fault where
  | noHost
  | name
  | port
  | fourth
  | sixth
  /-- A character that a name may have, and a request may not. -/
  | character
  deriving DecidableEq, Repr

def Fault.message : Fault → String
  | noHost => "Unable to parse URL: empty host"
  | name => "Unable to parse URL: invalid international domain name"
  | port => "Unable to parse URL: invalid port number"
  | fourth => "Unable to parse URL: invalid IPv4 address"
  | sixth => "Unable to parse URL: invalid IPv6 address"
  | character => "Unable to parse URI: invalid uri character"

inductive Host where
  | name (text : List Char)
  | fourth (number : Nat)
  /-- Eight numbers of 16 bits. -/
  | sixth (numbers : List Nat)
  deriving DecidableEq, Repr

/-! ### Numbers -/

namespace Fourth

/-- A number, in hexadecimal behind `0x` and in octal behind a zero. -/
def number? : List Char → Option Nat
  | [] => none
  | '0' :: 'x' :: digits => Address.number? 16 digits
  | '0' :: 'X' :: digits => Address.number? 16 digits
  | ['0'] => some 0
  | '0' :: digits => Address.number? 8 digits
  | digits => Address.number? 10 digits

/-- The labels of a name, without an empty one at its end. -/
def labels (name : List Char) : List (List Char) :=
  let labels := parts '.' name
  if labels.getLast? = some [] then labels.dropLast else labels

/-- Whether a name has to be read as a number. -/
def isMeant (name : List Char) : Bool :=
  match (labels name).getLast? with
  | some label => !label.isEmpty && label.all Char.isDigit || (number? label).isSome
  | none => false

/-- An address in at most four numbers, the last of which fills all that is left. -/
def read? (name : List Char) : Option Nat := do
  let numbers ← (labels name).mapM number?
  let last ← numbers.getLast?
  let front := numbers.dropLast
  if front.length < 4 && front.all (· < 256) && last < Nat.pow 256 (4 - front.length) then
    pure (front.foldl (fun n k => n * 256 + k) 0 * Nat.pow 256 (4 - front.length) + last)
  else none

end Fourth

namespace Sixth

/-- One to four hexadecimal digits. -/
def number? (digits : List Char) : Option Nat :=
  if digits.isEmpty || 4 < digits.length then none else Address.number? 16 digits

/-- A number below 256 without a zero in front. -/
def byte? (digits : List Char) : Option Nat := do
  let number ← if digits.isEmpty then none else Address.number? 10 digits
  if number < 256 && (digits.length == 1 || digits.head? != some '0') then pure number else none

/-- The numbers between colons; where `last` is set, four bytes between dots may stand for the last
two. -/
def numbers? (last : Bool) (text : List Char) : Option (List Nat) :=
  let rec read : List (List Char) → Option (List Nat)
    | [] => some []
    | [part] =>
      match last, (parts '.' part).mapM byte? with
      | true, some [a, b, c, d] => some [a * 256 + b, c * 256 + d]
      | _, _ => (number? part).map ([·])
    | part :: rest => do pure ((← number? part) :: (← read rest))
  if text.isEmpty then some [] else read (parts ':' text)

/-- What stands before the first pair of colons, and behind it. -/
def gap? : List Char → Option (List Char × List Char)
  | ':' :: ':' :: rest => some ([], rest)
  | c :: rest => (gap? rest).map fun (front, back) => (c :: front, back)
  | [] => none

/-- Eight numbers; a pair of colons stands for zeros, of which there is at least one. -/
def read? (text : List Char) : Option (List Nat) := do
  match gap? text with
  | some (front, back) =>
    let front ← numbers? false front
    let back ← numbers? true back
    if front.length + back.length < 8 then
      pure (front ++ List.replicate (8 - front.length - back.length) 0 ++ back)
    else none
  | none =>
    let numbers ← numbers? true text
    if numbers.length = 8 then pure numbers else none

end Sixth

/-- A host as it is given: bytes of a name may be spelt by numbers. -/
def Host.read (text : List Char) : Except Fault Host :=
  match text with
  | '[' :: rest =>
    match rest.getLast?, Sixth.read? rest.dropLast with
    | some ']', some numbers => .ok (sixth numbers)
    | _, _ => .error .sixth
  | _ =>
    match (Address.spelt? text).bind fun text => Name.read? text.toList with
    | none => .error .name
    | some [] => .error .noHost
    | some text =>
      if Fourth.isMeant text then
        match Fourth.read? text with
        | some number => .ok (fourth number)
        | none => .error .fourth
      else .ok (name text)

end LogWeave.Address
