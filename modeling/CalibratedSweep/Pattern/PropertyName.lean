import CalibratedSweep.Pattern.CharSet
/-!
Names of Unicode properties in patterns. Case, blanks, underscores, hyphens and a leading `is` do
not matter. A name may stand alone (`Greek`, `Lu`, `Alphabetic`) or say which property has which
value (`script=Greek`, `gc!=Lu`).
-/

namespace CalibratedSweep.Pattern.PropertyName

def isSeparator (c : Char) : Bool := c == ' ' || c == '_' || c == '-'

/-- Small letters without separators; characters past ASCII are dropped. -/
def squeeze (s : List Char) : List Char :=
  (s.filter fun c => decide (c.toNat < 128) && !isSeparator c).map Char.toLower

/-- The form in which names are compared. The name `isc` keeps its `is`. -/
def normalize (s : List Char) : String :=
  match s with
  | a :: b :: rest =>
    if a.toLower = 'i' ∧ b.toLower = 's' then
      let name := squeeze rest
      String.ofList (if name = ['c'] then ['i', 's', 'c'] else name)
    else String.ofList (squeeze s)
  | s => String.ofList (squeeze s)

def category? (name : String) : Option CharSet :=
  match name with
  | "any" => some .any
  | "assigned" => some (.compl (.property (.category .cn)))
  | "ascii" => some (.range 0 0x7F)
  | _ => (Unicode.Category.named? name).map .ofCategories

def script? (name : String) : Option CharSet :=
  (Unicode.Script.named? name).map fun _ => .property (.script name)

def binary? : String → Option CharSet
  | "alphabetic" | "alpha" => some (.property .alphabetic)
  | "lowercase" | "lower" => some (.property .lowercase)
  | "uppercase" | "upper" => some (.property .uppercase)
  | "whitespace" | "wspace" | "space" => some (.property .blank)
  | _ => none

def alone? (name : List Char) : Option CharSet :=
  let n := normalize name
  binary? n <|> category? n <|> script? n

def withValue? (property value : List Char) : Option CharSet :=
  match normalize property with
  | "generalcategory" | "gc" => category? (normalize value)
  | "script" | "sc" => script? (normalize value)
  | _ => none

def splitAt? (mark : List Char) : List Char → Option (List Char × List Char)
  | [] => none
  | c :: rest =>
    if mark.isPrefixOf (c :: rest) then some ([], (c :: rest).drop mark.length)
    else (splitAt? mark rest).map fun (a, b) => (c :: a, b)

/-- The set that the text between braces names, and whether it is the complement that is meant. -/
def read? (text : List Char) : Option (CharSet × Bool) :=
  match splitAt? ['!', '='] text with
  | some (p, v) => (withValue? p v).map fun s => (s, true)
  | none =>
    match splitAt? [':'] text <|> splitAt? ['='] text with
    | some (p, v) => (withValue? p v).map fun s => (s, false)
    | none => (alone? text).map fun s => (s, false)

end CalibratedSweep.Pattern.PropertyName
