import CalibratedSweep.Decimal.Layout

namespace CalibratedSweep

inductive Json where
  | null
  | bool (b : Bool)
  | integer (n : Int)
  | number (x : Float)
  | string (s : String)
  | array (items : List Json)
  | object (fields : List (String × Json))

namespace Json

/-- The value of a field; of fields with one name the last counts. -/
def get? (name : String) : Json → Option Json
  | .object fields => fields.reverse.lookup name
  | _ => none

/-- A finite number; what has no JSON form is null. -/
def ofFloat (x : Float) : Json := if x.isFinite then .number x else .null

def ofStrings (xs : List String) : Json := .array (xs.map .string)

def ofOption {α : Type} (f : α → Json) : Option α → Json
  | none => .null
  | some x => f x

def hex4 (n : Nat) : List Char := (Nat.toDigits 16 n).leftpad 4 '0'

def escapedChar (c : Char) : List Char :=
  if c = '\"' ∨ c = '\\' then ['\\', c]
  else if c = '\n' then ['\\', 'n']
  else if c = '\r' then ['\\', 'r']
  else if c = '\t' then ['\\', 't']
  else if c.toNat = 8 then ['\\', 'b']
  else if c.toNat = 12 then ['\\', 'f']
  else if c.toNat < 32 then ['\\', 'u'] ++ hex4 c.toNat
  else [c]

def stringText (s : String) : String :=
  String.ofList ('\"' :: s.toList.flatMap escapedChar ++ ['\"'])

/-- Where items of an array or object go: on one line, or each on a line of the given depth. -/
inductive Spacing where
  | compact
  | indented (depth : Nat)

def Spacing.deeper : Spacing → Spacing
  | .compact => .compact
  | .indented d => .indented (d + 1)

def Spacing.lineStart : Spacing → String
  | .compact => ""
  | .indented d => "\n" ++ String.ofList (List.replicate (2 * d) ' ')

def Spacing.afterColon : Spacing → String
  | .compact => ""
  | .indented _ => " "

def enclose (opening closing : String) (sp : Spacing) (items : List String) : String :=
  if items.isEmpty then opening ++ closing
  else
    opening ++ sp.deeper.lineStart ++ ("," ++ sp.deeper.lineStart).intercalate items ++
      sp.lineStart ++ closing

mutual

def render (sp : Spacing) : Json → String
  | .null => "null"
  | .bool true => "true"
  | .bool false => "false"
  | .integer n => toString n
  | .number x => String.ofList (Decimal.report.text x)
  | .string s => stringText s
  | .array items => enclose "[" "]" sp (renderItems sp.deeper items)
  | .object fields => enclose "\x7b" "\x7d" sp (renderFields sp.deeper fields)

def renderItems (sp : Spacing) : List Json → List String
  | [] => []
  | j :: rest => render sp j :: renderItems sp rest

def renderFields (sp : Spacing) : List (String × Json) → List String
  | [] => []
  | (name, j) :: rest =>
    (stringText name ++ ":" ++ sp.afterColon ++ render sp j) :: renderFields sp rest

end

def compact (j : Json) : String := j.render .compact

def pretty (j : Json) : String := j.render (.indented 0)

end Json

end CalibratedSweep
