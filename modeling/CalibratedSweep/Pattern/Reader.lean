import CalibratedSweep.Decimal.Reader
import CalibratedSweep.Pattern.Escape
/-!
Reads patterns. A reading step uses up characters, so the length of the pattern bounds the
recursion. There is no look-around and no reference back to a group.
-/

namespace CalibratedSweep.Pattern

/-! Classes in brackets -/

/-- What comes after the next character, over blanks and the sign of a comment. -/
def peek (x : Bool) (s : List Char) : Option Char :=
  if x then
    match s.dropWhile Text.isBlank with
    | [] => s.head?
    | '#' :: rest =>
      match rest.dropWhile Text.isBlank with
      | [] => s.head?
      | c :: _ => some c
    | c :: _ => some c
  else s.head?

def asciiClass? (s : List Char) : Option (ClassBody × List Char) :=
  match s with
  | '[' :: ':' :: rest =>
    let (negated, rest) := match rest with
      | '^' :: rest => (true, rest)
      | rest => (false, rest)
    match rest.dropWhile (· != ':') with
    | ':' :: ']' :: after =>
      (AsciiClass.ofName? (String.ofList (rest.takeWhile (· != ':')))).map fun c =>
        (.ascii c negated, after)
    | _ => none
  | _ => none

def classPrimitive? (x : Bool) : List Char → Option (Primitive × List Char)
  | [] => none
  | '\\' :: rest => escape? x rest
  | c :: rest => some (plainLiteral c, rest)

/-- A single item; places in the text are none. -/
def Primitive.classItem? : Primitive → Option ClassBody
  | .literal l => some (.range l l)
  | .letter c negated => some (.letter c negated)
  | .property s negated => some (.property s negated)
  | .anchor _ => none

/-- One character, or a range of them if a dash follows that neither ends the class nor is doubled. -/
def classRange? (x : Bool) (s : List Char) : Option (ClassBody × List Char) := do
  let (first, rest) ← classPrimitive? x s
  match skip x rest with
  | [] => none
  | '-' :: rest =>
    let next := peek x rest
    if next = some ']' ∨ next = some '-' then return (← first.classItem?, '-' :: rest)
    else
      let (second, rest) ← classPrimitive? x (skip x rest)
      match first, second with
      | .literal a, .literal b =>
        if a.char ≤ b.char then return (.range a b, rest) else none
      | _, _ => none
  | rest => return (← first.classItem?, rest)

def closeItems (opened : Option (SetOp × ClassBody)) (items : List ClassBody) : ClassBody :=
  let body := ClassBody.ofItems items.reverse
  match opened with
  | none => body
  | some (o, left) => .op o left body

def dash : ClassBody := .range ⟨'-', false⟩ ⟨'-', false⟩

def closingBracket : ClassBody := .range ⟨']', false⟩ ⟨']', false⟩

/-- Items that only the start of a class may hold: dashes, or else a closing bracket. -/
def leadingItems (x : Bool) (s : List Char) : List ClassBody × List Char :=
  match run x (· == '-') s.length s with
  | ([], ']' :: rest) => ([closingBracket], skip x rest)
  | (dashes, rest) => (dashes.map fun _ => dash, rest)

def classOpening (x : Bool) (s : List Char) : Bool × List ClassBody × List Char :=
  match skip x s with
  | '^' :: rest => (true, leadingItems x (skip x rest))
  | rest => (false, leadingItems x rest)

/-- The rest of a class up to its closing bracket; `items` are those read, backwards. -/
def classBody? (x : Bool) (opened : Option (SetOp × ClassBody)) (items : List ClassBody) :
    Nat → List Char → Option (ClassBody × List Char)
  | 0, _ => none
  | fuel + 1, s =>
    match skip x s with
    | [] => none
    | ']' :: rest => some (closeItems opened items, rest)
    | '&' :: '&' :: rest => classBody? x (some (.inter, closeItems opened items)) [] fuel rest
    | '-' :: '-' :: rest => classBody? x (some (.diff, closeItems opened items)) [] fuel rest
    | '~' :: '~' :: rest => classBody? x (some (.symmDiff, closeItems opened items)) [] fuel rest
    | '[' :: rest =>
      match asciiClass? ('[' :: rest) with
      | some (c, rest) => classBody? x opened (c :: items) fuel rest
      | none =>
        let (negated, first, rest) := classOpening x rest
        match classBody? x none first.reverse fuel rest with
        | some (b, rest) => classBody? x opened (.bracketed b negated :: items) fuel rest
        | none => none
    | s =>
      match classRange? x s with
      | some (b, rest) => classBody? x opened (b :: items) fuel rest
      | none => none

def class? (x : Bool) (fuel : Nat) (s : List Char) : Option (Pattern × List Char) :=
  let (negated, first, rest) := classOpening x s
  (classBody? x none first.reverse fuel rest).map fun (b, rest) => (.bracketed b negated, rest)

/-! Repetitions -/

def dropLazy : List Char → List Char
  | '?' :: rest => rest
  | s => s

def decimal? (x : Bool) (s : List Char) : Option (Nat × List Char) :=
  let (ds, rest) := run x Decimal.isDigit s.length (s.dropWhile Text.isBlank)
  match Numeral.value? ds with
  | some n =>
    if n < UInt32.size then some (n, (run x Text.isBlank s.length rest).2) else none
  | none => none

def counts? (x : Bool) (s : List Char) : Option (Nat × Option Nat × List Char) := do
  let (least, rest) ← decimal? x (skip x s)
  match rest with
  | '\x7d' :: rest => return (least, some least, dropLazy (skip x rest))
  | ',' :: rest =>
    match skip x rest with
    | '\x7d' :: rest => return (least, none, dropLazy (skip x rest))
    | rest =>
      let (most, rest) ← decimal? x rest
      match rest with
      | '\x7d' :: rest => if least ≤ most then return (least, some most, dropLazy (skip x rest)) else none
      | _ => none
  | _ => none

def repetition? (x : Bool) : List Char → Option (Nat × Option Nat × List Char)
  | '?' :: rest => some (0, some 1, dropLazy rest)
  | '*' :: rest => some (0, none, dropLazy rest)
  | '+' :: rest => some (1, none, dropLazy rest)
  | '\x7b' :: rest => counts? x rest
  | _ => none

def isRepetitionSign (c : Char) : Bool := c == '?' || c == '*' || c == '+' || c == '\x7b'

/-- Repeats the last of the items, which are held backwards. Flags cannot be repeated. -/
def repeatLast? (least : Nat) (most : Option Nat) : List Pattern → Option (List Pattern)
  | [] => none
  | .flags _ :: _ => none
  | p :: before => some (.times p least most :: before)

/-! Groups -/

/-- Flags up to the sign that ends them; after a minus sign they are switched off. -/
def flagsFrom? (off dangling : Bool) (seen : FlagChanges) : List Char →
    Option (FlagChanges × List Char)
  | [] => none
  | c :: rest =>
    if c = ':' ∨ c = ')' then if dangling then none else some (seen.reverse, c :: rest)
    else if c = '-' then if off then none else flagsFrom? true true seen rest
    else
      match Flag.ofChar? c with
      | none => none
      | some f => if seen.any (·.1 == f) then none else flagsFrom? off false ((f, !off) :: seen) rest

def isNameStart (c : Char) : Bool := c == '_' || Unicode.isAlphabetic c

def isNumber (c : Char) : Bool := Unicode.Category.numbers.any fun k => k.contains c.toNat

def isNameChar (c : Char) : Bool :=
  c == '_' || c == '.' || c == '[' || c == ']' || Unicode.isAlphabetic c || isNumber c

def groupName? (s : List Char) : Option (String × List Char) :=
  let name := s.takeWhile (· != '>')
  match name, s.dropWhile (· != '>') with
  | c :: more, '>' :: rest =>
    if isNameStart c && more.all isNameChar then some (String.ofList name, rest) else none
  | _, _ => none

inductive Opening where
  | group (changes : FlagChanges)
  | named (name : String)
  | flags (changes : FlagChanges)

def opening? (s : List Char) : Option (Opening × List Char) :=
  match s with
  | '?' :: '=' :: _ | '?' :: '!' :: _ | '?' :: '<' :: '=' :: _ | '?' :: '<' :: '!' :: _ => none
  | '?' :: 'P' :: '<' :: rest => (groupName? rest).map fun (n, rest) => (.named n, rest)
  | '?' :: '<' :: rest => (groupName? rest).map fun (n, rest) => (.named n, rest)
  | '?' :: rest =>
    match flagsFrom? false false [] rest with
    | some (changes, ')' :: rest) => if changes.isEmpty then none else some (.flags changes, rest)
    | some (changes, _ :: rest) => some (.group changes, rest)
    | _ => none
  | s => some (.group [], s)

def ignoresBlanks (changes : FlagChanges) (x : Bool) : Bool := (changes.lookup .ignoreBlanks).getD x

/-! Patterns -/

structure Cursor where
  rest : List Char
  ignoreBlanks : Bool
  names : List String

def primitivePattern : Primitive → Pattern
  | .literal l => .literal l
  | .anchor a => .anchor a
  | .letter c negated => .letter c negated
  | .property s negated => .property s negated

def primitive? (x : Bool) : List Char → Option (Pattern × List Char)
  | [] => none
  | '\\' :: rest => (escape? x rest).map fun (p, rest) => (primitivePattern p, rest)
  | '.' :: rest => some (.dot, rest)
  | '^' :: rest => some (.anchor .lineStart, rest)
  | '$' :: rest => some (.anchor .lineEnd, rest)
  | c :: rest => some (.literal ⟨c, false⟩, rest)

mutual

def branches? : Nat → Cursor → Option (Pattern × Cursor)
  | 0, _ => none
  | fuel + 1, cur =>
    match sequence? [] fuel cur with
    | none => none
    | some (p, cur) =>
      match cur.rest with
      | '|' :: rest => (branches? fuel { cur with rest }).map fun (q, cur) => (.alt p q, cur)
      | _ => some (p, cur)

def sequence? (items : List Pattern) : Nat → Cursor → Option (Pattern × Cursor)
  | 0, _ => none
  | fuel + 1, cur =>
    let x := cur.ignoreBlanks
    match skip x cur.rest with
    | [] => some (catList items.reverse, { cur with rest := [] })
    | c :: rest =>
      if c = '|' ∨ c = ')' then some (catList items.reverse, { cur with rest := c :: rest })
      else if c = '(' then
        match opening? (skip x rest) with
        | none => none
        | some (.flags changes, rest) =>
          sequence? (.flags changes :: items) fuel
            { cur with rest, ignoreBlanks := ignoresBlanks changes x }
        | some (.named name, rest) =>
          if name ∈ cur.names then none
          else group? items [] fuel { cur with rest, names := name :: cur.names }
        | some (.group changes, rest) => group? items changes fuel { cur with rest }
      else if isRepetitionSign c then
        match repetition? x (c :: rest) with
        | none => none
        | some (least, most, rest) =>
          match repeatLast? least most items with
          | none => none
          | some items => sequence? items fuel { cur with rest }
      else
        match if c = '[' then class? x fuel rest else primitive? x (c :: rest) with
        | none => none
        | some (p, rest) => sequence? (p :: items) fuel { cur with rest }

def group? (items : List Pattern) (changes : FlagChanges) : Nat → Cursor → Option (Pattern × Cursor)
  | 0, _ => none
  | fuel + 1, cur =>
    match branches? fuel { cur with ignoreBlanks := ignoresBlanks changes cur.ignoreBlanks } with
    | some (p, inner) =>
      match inner.rest with
      | ')' :: rest =>
        sequence? (.group changes p :: items) fuel
          { inner with rest, ignoreBlanks := cur.ignoreBlanks }
      | _ => none
    | none => none

end

def read? (text : String) : Option Pattern :=
  let s := text.toList
  match branches? (3 * s.length + 3) ⟨s, false, []⟩ with
  | some (p, cur) => if cur.rest.isEmpty ∧ p.depth ≤ maxDepth then some p else none
  | none => none

end CalibratedSweep.Pattern
