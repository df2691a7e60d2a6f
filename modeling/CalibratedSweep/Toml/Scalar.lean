import CalibratedSweep.Decimal.Reader
import CalibratedSweep.Toml.Value

namespace CalibratedSweep.Toml

/-! Characters and ends of lines -/

def isBlank (c : Char) : Bool := c == ' ' || c == '\t'

def skipBlanks (s : List Char) : List Char := s.dropWhile isBlank

def lineEnd? : List Char → Option (List Char)
  | '\n' :: rest => some rest
  | '\r' :: '\n' :: rest => some rest
  | _ => none

def isCommentChar (c : Char) : Bool :=
  c == '\t' || decide (32 ≤ c.toNat ∧ c.toNat ≠ 127)

def isBasicChar (c : Char) : Bool := isCommentChar c && c != '\"' && c != '\\'

def isLiteralChar (c : Char) : Bool := isCommentChar c && c != '\''

/-! Strings -/

def hexDigit? (c : Char) : Option Nat :=
  if '0' ≤ c ∧ c ≤ '9' then some (c.toNat - '0'.toNat)
  else if 'a' ≤ c ∧ c ≤ 'f' then some (c.toNat - 'a'.toNat + 10)
  else if 'A' ≤ c ∧ c ≤ 'F' then some (c.toNat - 'A'.toNat + 10)
  else none

def codePoint? (width : Nat) (s : List Char) : Option (Char × List Char) :=
  match (s.take width).mapM hexDigit? with
  | none => none
  | some ds =>
    let n := ds.foldl (fun n d => n * 16 + d) 0
    if ds.length = width ∧ (n < 0xD800 ∨ (0xDFFF < n ∧ n < 0x110000)) then
      some (Char.ofNat n, s.drop width)
    else none

def escape? : List Char → Option (Char × List Char)
  | 'b' :: rest => some (Char.ofNat 8, rest)
  | 'f' :: rest => some (Char.ofNat 12, rest)
  | 'n' :: rest => some ('\n', rest)
  | 'r' :: rest => some ('\r', rest)
  | 't' :: rest => some ('\t', rest)
  | '\\' :: rest => some ('\\', rest)
  | '\"' :: rest => some ('\"', rest)
  | 'u' :: rest => codePoint? 4 rest
  | 'U' :: rest => codePoint? 8 rest
  | _ => none

def basicFrom? (acc : List Char) : Nat → List Char → Option (String × List Char)
  | 0, _ => none
  | _, [] => none
  | fuel + 1, c :: rest =>
    if c = '\"' then some (String.ofList acc.reverse, rest)
    else if c = '\\' then
      match escape? rest with
      | some (d, rest) => basicFrom? (d :: acc) fuel rest
      | none => none
    else if isBasicChar c then basicFrom? (c :: acc) fuel rest
    else none

def skipBlankLines : List Char → List Char
  | [] => []
  | '\r' :: '\n' :: rest => skipBlankLines rest
  | c :: rest => if isBlank c || c == '\n' then skipBlankLines rest else c :: rest

/-- After a backslash at the end of a line: the first place that is no blank and no end of line. -/
def joinedLine? (s : List Char) : Option (List Char) :=
  (lineEnd? (skipBlanks s)).map skipBlankLines

/--
The close of a string in tripled quotes `q`: up to two more quotes right before the last three
belong to the string. Gives these and what follows.
-/
def tripleClose? (q : Char) (s : List Char) : Option (List Char × List Char) :=
  let count := (s.takeWhile (· == q)).length
  if 3 ≤ count then
    let extra := min (count - 3) 2
    some (List.replicate extra q, s.drop (extra + 3))
  else none

def longBasicFrom? (acc : List Char) : Nat → List Char → Option (String × List Char)
  | 0, _ => none
  | _, [] => none
  | fuel + 1, c :: rest =>
    match tripleClose? '\"' (c :: rest), lineEnd? (c :: rest) with
    | some (quotes, rest), _ => some (String.ofList (acc.reverse ++ quotes), rest)
    | none, some rest => longBasicFrom? ('\n' :: acc) fuel rest
    | none, none =>
      if c = '\\' then
        match joinedLine? rest with
        | some rest => longBasicFrom? acc fuel rest
        | none =>
          match escape? rest with
          | some (d, rest) => longBasicFrom? (d :: acc) fuel rest
          | none => none
      else if isBasicChar c || c == '\"' then longBasicFrom? (c :: acc) fuel rest
      else none

def longLiteralFrom? (acc : List Char) : Nat → List Char → Option (String × List Char)
  | 0, _ => none
  | _, [] => none
  | fuel + 1, c :: rest =>
    match tripleClose? '\'' (c :: rest), lineEnd? (c :: rest) with
    | some (quotes, rest), _ => some (String.ofList (acc.reverse ++ quotes), rest)
    | none, some rest => longLiteralFrom? ('\n' :: acc) fuel rest
    | none, none =>
      if isLiteralChar c || c == '\'' then longLiteralFrom? (c :: acc) fuel rest else none

def literalFrom? (s : List Char) : Option (String × List Char) :=
  match s.dropWhile isLiteralChar with
  | '\'' :: rest => some (String.ofList (s.takeWhile isLiteralChar), rest)
  | _ => none

def shortString? : List Char → Option (String × List Char)
  | '\"' :: rest => basicFrom? [] rest.length rest
  | '\'' :: rest => literalFrom? rest
  | _ => none

/-- An end of line right after opening quotes does not count. -/
def dropLineEnd (s : List Char) : List Char := (lineEnd? s).getD s

def string? : List Char → Option (String × List Char)
  | '\"' :: '\"' :: '\"' :: rest => longBasicFrom? [] rest.length (dropLineEnd rest)
  | '\'' :: '\'' :: '\'' :: rest => longLiteralFrom? [] rest.length (dropLineEnd rest)
  | s => shortString? s

/-! Numbers -/

def moreDigits (p : Char → Bool) : List Char → List Char × List Char
  | [] => ([], [])
  | [c] => if p c then ([c], []) else ([], [c])
  | c :: d :: rest =>
    if p c then
      let (ds, rest) := moreDigits p (d :: rest)
      (c :: ds, rest)
    else if c == '_' && p d then moreDigits p (d :: rest)
    else ([], c :: d :: rest)

def digits? (p : Char → Bool) (s : List Char) : Option (List Char × List Char) :=
  if s.head?.any p then some (moreDigits p s) else none

def sign : List Char → List Char × List Char
  | '+' :: rest => (['+'], rest)
  | '-' :: rest => (['-'], rest)
  | s => ([], s)

def whole? : List Char → Option (List Char × List Char)
  | '0' :: rest => some (['0'], rest)
  | s => digits? Decimal.isDigit s

def fraction? : List Char → Option (List Char × List Char)
  | '.' :: rest => (digits? Decimal.isDigit rest).map fun (ds, rest) => ('.' :: ds, rest)
  | s => some ([], s)

def exponent? : List Char → Option (List Char × List Char)
  | c :: rest =>
    if c = 'e' ∨ c = 'E' then
      let (sg, rest) := sign rest
      (digits? Decimal.isDigit rest).map fun (ds, rest) => ('e' :: sg ++ ds, rest)
    else some ([], c :: rest)
  | [] => some ([], [])

/-- A double; one that is too large for a double is refused, unless it is negative. -/
def float? (text : List Char) : Option Value :=
  match Decimal.read? text with
  | some x => if x.isInf && 0.0 < x then none else some (.float x)
  | none => none

def integer? (text : List Char) : Option Value := (Numeral.signed64? text).map .integer

def decimal? (s : List Char) : Option (Value × List Char) := do
  let (sg, rest) := sign s
  let (whole, rest) ← whole? rest
  let (fraction, rest) ← fraction? rest
  let (exponent, rest) ← exponent? rest
  let text := sg ++ whole ++ fraction ++ exponent
  let v ← if fraction.isEmpty ∧ exponent.isEmpty then integer? text else float? text
  return (v, rest)

def isDigitOf (base : Nat) (c : Char) : Bool := (hexDigit? c).any (· < base)

def based? (base : Nat) (s : List Char) : Option (Value × List Char) :=
  match digits? (isDigitOf base) s with
  | none => none
  | some (ds, rest) =>
    let n := ds.foldl (fun n c => n * base + (hexDigit? c).getD 0) 0
    if n < Numeral.signLimit then some (.integer n, rest) else none

def wordNumber? (s : List Char) : Option (Value × List Char) :=
  let (sg, rest) := sign s
  match rest with
  | 'i' :: 'n' :: 'f' :: rest => (Decimal.read? (sg ++ ['i', 'n', 'f'])).map fun x => (.float x, rest)
  | 'n' :: 'a' :: 'n' :: rest => (Decimal.read? (sg ++ ['n', 'a', 'n'])).map fun x => (.float x, rest)
  | _ => none

def number? : List Char → Option (Value × List Char)
  | '0' :: 'x' :: rest => based? 16 rest
  | '0' :: 'o' :: rest => based? 8 rest
  | '0' :: 'b' :: rest => based? 2 rest
  | s =>
    match wordNumber? s with
    | some r => some r
    | none => decimal? s

/-! Dates and times -/

def fixedDigits? (width : Nat) (s : List Char) : Option (Nat × List Char) :=
  let ds := s.take width
  if ds.length = width then (Numeral.value? ds).map fun n => (n, s.drop width) else none

def literal? (c : Char) : List Char → Option (List Char)
  | d :: rest => if d = c then some rest else none
  | [] => none

def daysInMonth (year month : Nat) : Nat :=
  if month = 2 then
    if year % 4 = 0 ∧ (year % 100 ≠ 0 ∨ year % 400 = 0) then 29 else 28
  else if month = 4 ∨ month = 6 ∨ month = 9 ∨ month = 11 then 30
  else 31

def date? (s : List Char) : Option (List Char) := do
  let (year, s) ← fixedDigits? 4 s
  let (month, s) ← fixedDigits? 2 (← literal? '-' s)
  let (day, s) ← fixedDigits? 2 (← literal? '-' s)
  if 1 ≤ month ∧ month ≤ 12 ∧ 1 ≤ day ∧ day ≤ daysInMonth year month then some s else none

def dropFraction (s : List Char) : List Char :=
  match s with
  | '.' :: c :: rest => if Decimal.isDigit c then rest.dropWhile Decimal.isDigit else s
  | _ => s

def time? (s : List Char) : Option (List Char) := do
  let (hour, s) ← fixedDigits? 2 s
  let (minute, s) ← fixedDigits? 2 (← literal? ':' s)
  let (second, s) ← fixedDigits? 2 (← literal? ':' s)
  if hour < 24 ∧ minute < 60 ∧ second ≤ 60 then some (dropFraction s) else none

def offset? (s : List Char) : Option (List Char) :=
  match s with
  | [] => some []
  | c :: rest =>
    if c = 'Z' ∨ c = 'z' then some rest
    else if c = '+' ∨ c = '-' then do
      let (hour, rest) ← fixedDigits? 2 rest
      let (minute, rest) ← fixedDigits? 2 (← literal? ':' rest)
      if hour < 24 ∧ minute < 60 then some rest else none
    else some s

def timeOfDay? (s : List Char) : Option (List Char) :=
  match s with
  | [] => some []
  | c :: rest =>
    if c = 'T' ∨ c = 't' ∨ c = ' ' then
      match time? rest with
      | some rest => offset? rest
      | none => some s
    else some s

def moment? (s : List Char) : Option (List Char) :=
  match date? s with
  | some rest => timeOfDay? rest
  | none => time? s

/-! Scalars -/

def scalar? (s : List Char) : Option (Value × List Char) :=
  match s with
  | [] => none
  | 't' :: 'r' :: 'u' :: 'e' :: rest => some (.boolean true, rest)
  | 'f' :: 'a' :: 'l' :: 's' :: 'e' :: rest => some (.boolean false, rest)
  | c :: _ =>
    if c = '\"' ∨ c = '\'' then (string? s).map fun (t, rest) => (.string t, rest)
    else
      match moment? s with
      | some rest => some (.moment, rest)
      | none => number? s

end CalibratedSweep.Toml
