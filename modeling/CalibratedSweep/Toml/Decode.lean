import CalibratedSweep.Toml.Value
/-!
Decoders of TOML values. A structure is a table of its fields, or an array of their values in
order; fields that are missing take a default, and a moment is a structure without fields.
-/

namespace CalibratedSweep.Toml

def Value.string? : Value → Option String
  | .string s => some s
  | _ => none

def Value.boolean? : Value → Option Bool
  | .boolean b => some b
  | _ => none

def Value.integer? : Value → Option Int
  | .integer n => some n
  | _ => none

def Value.below? (limit : Nat) : Value → Option Nat
  | .integer (.ofNat n) => if n < limit then some n else none
  | _ => none

def Value.uint32? (v : Value) : Option UInt32 := (v.below? UInt32.size).map UInt32.ofNat

def Value.uint64? (v : Value) : Option UInt64 := (v.below? UInt64.size).map UInt64.ofNat

def Value.number? : Value → Option Float
  | .float x => some x
  | .integer (.ofNat n) => some (Float.ofNat n)
  | .integer (.negSucc n) => some (-(Float.ofNat (n + 1)))
  | _ => none

def Value.items? : Value → Option (List Value)
  | .array items => some items
  | .tables items => some (items.map (.table .header))
  | _ => none

def Value.list? {α : Type} (item : Value → Option α) (v : Value) : Option (List α) :=
  v.items?.bind fun items => items.mapM item

def Value.fields? (names : List String) : Value → Option Entries
  | .table _ es => some es
  | .moment => some []
  | v => v.items?.map fun items => names.zip items

def Entries.field? {α : Type} (es : Entries) (name : String) (item : Value → Option α)
    (default : α) : Option α :=
  match es.lookup name with
  | none => some default
  | some v => item v

def Value.isBare : Value → Bool
  | .array items => items.isEmpty
  | .tables items => items.isEmpty
  | .table _ es => es.isEmpty
  | _ => false

/-- A name on its own, or as the only key of a table with nothing in it. -/
def Value.name? : Value → Option String
  | .string s => some s
  | .table _ [(key, v)] => if v.isBare then some key else none
  | _ => none

end CalibratedSweep.Toml
