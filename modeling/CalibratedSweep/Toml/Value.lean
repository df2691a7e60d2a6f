/-!
TOML values, and tables as they are put together from headers and dotted keys. How a table came
about decides who may still add to it.
-/

namespace CalibratedSweep.Toml

inductive TableKind where
  /-- Named by a header of its own, or the root. -/
  | header
  /-- On the path of some header. -/
  | implied
  /-- On the path of a dotted key. -/
  | dotted
  /-- Written between braces; nothing can be added to it. -/
  | inlined
  deriving DecidableEq, Repr

inductive Value where
  | string (s : String)
  | integer (n : Int)
  | float (x : Float)
  | boolean (b : Bool)
  | moment
  | array (items : List Value)
  | table (kind : TableKind) (entries : List (String × Value))
  /-- Tables that share a header in double brackets. -/
  | tables (items : List (List (String × Value)))

abbrev Entries := List (String × Value)

def Entries.put (es : Entries) (key : String) (v : Value) : Entries :=
  match es with
  | [] => [(key, v)]
  | (k, old) :: rest => if k = key then (k, v) :: rest else (k, old) :: Entries.put rest key v

def Entries.remove (es : Entries) (key : String) : Entries := es.filter fun e => e.1 != key

def mayDescend (viaKey : Bool) : TableKind → Bool
  | .inlined => false
  | .header => !viaKey
  | .implied | .dotted => true

/--
Changes the table at the end of a path, and makes the tables on the path that are missing. A path
of a dotted key (`viaKey`) does not lead through a table that has a header of its own. Of tables
that share a header, the last one is meant.
-/
def change (viaKey : Bool) (f : TableKind → Entries → Option Entries) (kind : TableKind)
    (es : Entries) : List String → Option Entries
  | [] => f kind es
  | key :: path =>
    match es.lookup key with
    | none =>
      let kind := if viaKey then .dotted else .implied
      (change viaKey f kind [] path).map fun sub => es.put key (.table kind sub)
    | some (.table kind sub) =>
      if mayDescend viaKey kind then
        (change viaKey f kind sub path).map fun sub => es.put key (.table kind sub)
      else none
    | some (.tables items) =>
      match items.getLast? with
      | none => none
      | some sub =>
        (change viaKey f .header sub path).map fun sub => es.put key (.tables (items.dropLast ++ [sub]))
    | some _ => none

def insertNew (key : String) (v : Value) (es : Entries) : Option Entries :=
  if (es.lookup key).isSome then none else some (es ++ [(key, v)])

/-- Adds the value of a key. Only dotted keys add to tables that dotted keys made. -/
def setKey (path : List String) (key : String) (v : Value) (kind : TableKind) (es : Entries) :
    Option Entries :=
  change true (fun k es => if (k == .dotted) == path.isEmpty then none else insertNew key v es)
    kind es path

end CalibratedSweep.Toml
