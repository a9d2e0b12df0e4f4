import ApiConsole.Decimal.Binary64

/-!
# JSON values

A value is null, a truth value, a number, a string, an array or an object. An object is a list of
members. Objects that come from text hold each key once, in the order of their code points; objects
that are built for a record keep the order of its fields.
-/
namespace ApiConsole.Json

open Decimal

/-- A number: an integer of 64 bits, signed or unsigned, or a binary fraction. -/
inductive Number where
  | int (n : Int)
  | real (x : Binary64)
  deriving DecidableEq, Repr

inductive Value where
  | null
  | bool (b : Bool)
  | number (n : Number)
  | string (s : String)
  | array (items : List Value)
  | object (members : List (String × Value))
  deriving Repr, Inhabited

namespace Value

/-- A natural number as a value. -/
def nat (n : Nat) : Value := .number (.int n)

/-! ## Members -/

/-- Puts a member at the place of its key; a member with that key gives way. -/
def insertMember (key : String) (v : Value) : List (String × Value) → List (String × Value)
  | [] => [(key, v)]
  | (k, w) :: rest =>
    if key < k then (key, v) :: (k, w) :: rest
    else if key = k then (key, v) :: rest
    else (k, w) :: insertMember key v rest

/-- The members in the order of their keys, the last one of each key. -/
def sortedMembers (members : List (String × Value)) : List (String × Value) :=
  members.foldl (fun acc (k, v) => insertMember k v acc) []

/-- The object with the given members. -/
def ofMembers (members : List (String × Value)) : Value := .object (sortedMembers members)

/-- The member of an object with a given key. -/
def get? (key : String) : Value → Option Value
  | .object members => members.lookup key
  | _ => none

def string? : Value → Option String
  | .string s => some s
  | _ => none

def array? : Value → Option (List Value)
  | .array items => some items
  | _ => none

def isString (v : Value) : Bool := v.string?.isSome

@[simp] theorem sortedMembers_nil : sortedMembers [] = [] := rfl

theorem get?_eq_none_of_not_object {key : String} {v : Value}
    (h : ∀ members, v ≠ .object members) : v.get? key = none := by
  cases v with
  | object members => exact absurd rfl (h members)
  | _ => rfl

end Value

end ApiConsole.Json
