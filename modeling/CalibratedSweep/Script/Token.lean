import CalibratedSweep.Text.Numeral
/-!
Tokens of shell scripts: words with their quotes and parameters, operators, and ends of lines. A
token knows its line. Command substitution is not among what is read.
-/

namespace CalibratedSweep.Script

/-- A part of a word. What is quoted is neither split nor taken for a pattern. -/
inductive Part where
  | text (s : List Char) (quoted : Bool)
  | parameter (name : String) (quoted : Bool)
  deriving DecidableEq, Repr

abbrev Word := List Part

def Word.plain? : Word → Option String
  | [.text s false] => some (String.ofList s)
  | _ => none

inductive Token where
  | word (w : Word)
  /-- The number of a stream, right before the sign that redirects it. -/
  | stream (n : Nat)
  | sign (s : String)
  | lineEnd
  deriving DecidableEq, Repr

structure Placed where
  token : Token
  line : Nat
  deriving DecidableEq, Repr

def signs : List String := ["&&", "||", ";;", ">>", ">&", "<&", "&", ";", "|", "(", ")", ">", "<"]

def isMeta (c : Char) : Bool :=
  c == ' ' || c == '\t' || c == '\n' || c == ';' || c == '&' || c == '|' || c == '(' || c == ')' ||
    c == '<' || c == '>'

def isNameStart (c : Char) : Bool := c.isAlpha || c == '_'

def isNameChar (c : Char) : Bool := c.isAlphanum || c == '_'

def isSpecial (c : Char) : Bool :=
  c.isDigit || c == '*' || c == '@' || c == '#' || c == '?' || c == '$'

/-- A parameter after its dollar sign; a dollar sign before anything else stands for itself. -/
def parameter? (quoted : Bool) (s : List Char) : Option (Part × List Char) :=
  match s with
  | '(' :: _ => none
  | '\x7b' :: rest =>
    let name := rest.takeWhile (· != '\x7d')
    match rest.dropWhile (· != '\x7d') with
    | _ :: after =>
      if !name.isEmpty && (name.all isNameChar || (name.length == 1 && name.all isSpecial)) then
        some (.parameter (String.ofList name) quoted, after)
      else none
    | [] => none
  | c :: rest =>
    if isSpecial c then some (.parameter (String.ofList [c]) quoted, rest)
    else if isNameStart c then
      some (.parameter (String.ofList (s.takeWhile isNameChar)) quoted, s.dropWhile isNameChar)
    else some (.text ['$'] quoted, s)
  | [] => some (.text ['$'] quoted, s)

def isEscapable (c : Char) : Bool := c == '$' || c == '\"' || c == '\\' || c.toNat == 96

def doubleQuoted? : Nat → List Char → Option (Word × List Char)
  | 0, _ => none
  | _, [] => none
  | fuel + 1, c :: rest =>
    if c = '\"' then some ([], rest)
    else if c = '$' then
      match parameter? true rest with
      | none => none
      | some (p, rest) => (doubleQuoted? fuel rest).map fun (w, rest) => (p :: w, rest)
    else if c.toNat = 96 then none
    else
      let (taken, rest) := match c, rest with
        | '\\', '\n' :: rest => ([], rest)
        | '\\', d :: more => if isEscapable d then ([d], more) else (['\\'], d :: more)
        | c, rest => ([c], rest)
      (doubleQuoted? fuel rest).map fun (w, rest) => (.text taken true :: w, rest)

def word? : Nat → List Char → Option (Word × List Char)
  | 0, _ => none
  | _, [] => some ([], [])
  | fuel + 1, c :: rest =>
    let more (p : Word) (rest : List Char) := (word? fuel rest).map fun (w, rest) => (p ++ w, rest)
    if isMeta c then some ([], c :: rest)
    else if c = '\'' then
      match rest.dropWhile (· != '\'') with
      | _ :: after => more [.text (rest.takeWhile (· != '\'')) true] after
      | [] => none
    else if c = '\"' then
      match doubleQuoted? fuel rest with
      | some (w, rest) => more (.text [] true :: w) rest
      | none => none
    else if c = '$' then
      match parameter? false rest with
      | some (p, rest) => more [p] rest
      | none => none
    else if c.toNat = 96 then none
    else if c = '\\' then
      match rest with
      | '\n' :: rest => more [] rest
      | d :: rest => more [.text [d] true] rest
      | [] => more [.text ['\\'] true] []
    else more [.text [c] false] rest

def Word.join : Word → Word
  | .text s q :: rest =>
    match Word.join rest with
    | .text t r :: more => if q == r then .text (s ++ t) q :: more else .text s q :: .text t r :: more
    | w => .text s q :: w
  | p :: rest => p :: Word.join rest
  | [] => []

def sign? (s : List Char) : Option (String × List Char) :=
  (signs.find? fun x => x.toList.isPrefixOf s).map fun x => (x, s.drop x.length)

def streamNumber? (s : List Char) : Option (Nat × List Char) :=
  let ds := s.takeWhile Char.isDigit
  match s.dropWhile Char.isDigit with
  | c :: rest =>
    if c = '<' ∨ c = '>' then (Numeral.value? ds).map fun n => (n, c :: rest) else none
  | [] => none

def countLines (before after : List Char) : Nat :=
  (before.take (before.length - after.length)).countP (· == '\n')

def tokensFrom? (line : Nat) : Nat → List Char → Option (List Placed)
  | 0, _ => none
  | _, [] => some []
  | fuel + 1, c :: rest =>
    if c = ' ' ∨ c = '\t' then tokensFrom? line fuel rest
    else if c = '#' then tokensFrom? line fuel (rest.dropWhile (· != '\n'))
    else if c = '\n' then (tokensFrom? (line + 1) fuel rest).map (⟨.lineEnd, line⟩ :: ·)
    else
      match c, rest with
      | '\\', '\n' :: rest => tokensFrom? (line + 1) fuel rest
      | c, rest =>
        match sign? (c :: rest), streamNumber? (c :: rest) with
        | some (x, rest), _ => (tokensFrom? line fuel rest).map (⟨.sign x, line⟩ :: ·)
        | none, some (n, rest) => (tokensFrom? line fuel rest).map (⟨.stream n, line⟩ :: ·)
        | none, none =>
          if isMeta c then none
          else
            match word? (rest.length + 2) (c :: rest) with
            | none => none
            | some (w, after) =>
              (tokensFrom? (line + countLines (c :: rest) after) fuel after).map
                (⟨.word w.join, line⟩ :: ·)

def tokens? (text : List Char) : Option (List Placed) := tokensFrom? 1 (text.length + 1) text

end CalibratedSweep.Script
