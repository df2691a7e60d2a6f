import CalibratedSweep.Json.Basic
/-!
Decoders: what kind of value a JSON value is, and the fields of a structure. A missing field and a
value of the wrong kind give nothing.
-/

namespace CalibratedSweep.Json

def string? : Json → Option String
  | .string s => some s
  | _ => none

def below? (limit : Nat) : Json → Option Nat
  | .integer (.ofNat n) => if n < limit then some n else none
  | _ => none

def uint32? (j : Json) : Option UInt32 := (below? UInt32.size j).map UInt32.ofNat

def uint64? (j : Json) : Option UInt64 := (below? UInt64.size j).map UInt64.ofNat

def count? (j : Json) : Option Nat := below? UInt64.size j

def float? : Json → Option Float
  | .number x => some x
  | .integer (.ofNat n) => some (UInt64.ofNat n).toFloat
  | .integer (.negSucc n) => some (-(UInt64.ofNat (n + 1)).toFloat)
  | _ => none

def list? {α : Type} (item : Json → Option α) : Json → Option (List α)
  | .array items => items.mapM item
  | _ => none

/-- Null stands for nothing; anything else must be an item. -/
def optional? {α : Type} (item : Json → Option α) : Json → Option (Option α)
  | .null => some none
  | j => (item j).map some

def field? {α : Type} (name : String) (item : Json → Option α) (j : Json) : Option α :=
  (j.get? name).bind item

def optionalField? {α : Type} (name : String) (item : Json → Option α) (j : Json) :
    Option (Option α) :=
  match j.get? name with
  | none => some none
  | some v => optional? item v

/--
A structure written as the list of its fields, in order, reads like one written with names. An
optional field must be present in a list.
-/
def named (names : List String) : Json → Option Json
  | .object fields => some (.object fields)
  | .array items => if items.length = names.length then some (.object (names.zip items)) else none
  | _ => none

end CalibratedSweep.Json
