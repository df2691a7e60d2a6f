import CalibratedSweep.Script.Basic

namespace CalibratedSweep.Script

abbrev Tokens := List Placed

def closers : List String := ["then", "else", "elif", "fi", "esac", "do", "done", "\x7d"]

def closes (t : Placed) : Bool :=
  match t.token with
  | .sign s => s == ")" || s == ";;"
  | .word w => w.plain?.any fun s => s ∈ closers
  | _ => false

def unread : List String := ["while", "until", "for", "do", "done", "function"]

def skipLineEnds (ts : Tokens) : Tokens := ts.dropWhile fun t => t.token == .lineEnd

def keyword? (name : String) (ts : Tokens) : Option Tokens :=
  match skipLineEnds ts with
  | ⟨.word w, _⟩ :: rest => if w.plain? = some name then some rest else none
  | _ => none

def dropSign? (s : String) (ts : Tokens) : Option Tokens :=
  match ts with
  | t :: rest => if t.token = .sign s then some rest else none
  | [] => none

def redirection? (ts : Tokens) : Option (Redirection × Tokens) :=
  let (number, rest) := match ts with
    | ⟨.stream n, _⟩ :: rest => (some n, rest)
    | rest => (none, rest)
  match rest with
  | ⟨.sign ">", _⟩ :: ⟨.word w, _⟩ :: rest => some (⟨number.getD 1, .file w false⟩, rest)
  | ⟨.sign ">>", _⟩ :: ⟨.word w, _⟩ :: rest => some (⟨number.getD 1, .file w true⟩, rest)
  | ⟨.sign "<", _⟩ :: ⟨.word w, _⟩ :: rest => some (⟨number.getD 0, .input w⟩, rest)
  | ⟨.sign ">&", _⟩ :: ⟨.word w, _⟩ :: rest =>
    match (w.plain?.map String.toList).bind Numeral.value? with
    | some n => some (⟨number.getD 1, .stream n⟩, rest)
    | none => none
  | _ => none

def redirections : Nat → Tokens → List Redirection × Tokens
  | 0, ts => ([], ts)
  | fuel + 1, ts =>
    match redirection? ts with
    | some (r, rest) =>
      let (rs, rest) := redirections fuel rest
      (r :: rs, rest)
    | none => ([], ts)

def words : Nat → Tokens → List Word × List Redirection × Tokens
  | 0, ts => ([], [], ts)
  | fuel + 1, ts =>
    match redirection? ts, ts with
    | some (r, rest), _ =>
      let (ws, rs, rest) := words fuel rest
      (ws, r :: rs, rest)
    | none, ⟨.word w, _⟩ :: rest =>
      let (ws, rs, rest) := words fuel rest
      (w :: ws, rs, rest)
    | none, ts => ([], [], ts)

def assignment? (w : Word) : Option (String × Word) :=
  match w with
  | .text s false :: rest =>
    let name := s.takeWhile (· != '=')
    match s.dropWhile (· != '=') with
    | _ :: value =>
      if name.head?.any isNameStart && name.all isNameChar then
        some (String.ofList name, .text value false :: rest)
      else none
    | [] => none
  | _ => none

/-- A command of words alone; assignments before a command hold from then on. -/
def simple? (line : Nat) : List Word → List Redirection → Option Script
  | [], [] => none
  | [], rs => some (.command line [] rs)
  | w :: rest, rs =>
    match assignment? w with
    | some (name, value) =>
      match rest, rs with
      | [], [] => some (.assign name value)
      | rest, rs => (simple? line rest rs).map (.sequence (.assign name value))
    | none => some (.command line (w :: rest) rs)

/--
A command in the background. It must be a simple one and must not hold the streams of the script, as
the script would then not be over before it is.
-/
def background? : Script → Option Script
  | .command line ws rs =>
    let streams := rs.map Redirection.stream
    if 1 ∈ streams ∧ 2 ∈ streams then some (.background (.command line ws rs)) else none
  | _ => none

def patterns? : Nat → Tokens → Option (List Word × Tokens)
  | 0, _ => none
  | fuel + 1, ts =>
    match ts with
    | ⟨.sign "(", _⟩ :: rest => patterns? fuel rest
    | ⟨.word w, _⟩ :: ⟨.sign ")", _⟩ :: rest => some ([w], rest)
    | ⟨.word w, _⟩ :: ⟨.sign "|", _⟩ :: rest => (patterns? fuel rest).map fun (ws, rest) => (w :: ws, rest)
    | _ => none

mutual

def list? : Nat → Tokens → Option (Script × Tokens)
  | 0, _ => none
  | fuel + 1, ts =>
    match skipLineEnds ts with
    | [] => some (.nothing, [])
    | t :: rest =>
      if closes t then some (.nothing, t :: rest)
      else
        match chain? fuel (t :: rest) with
        | none => none
        | some (a, rest) =>
          match rest with
          | ⟨.sign ";", _⟩ :: rest => (list? fuel rest).map fun (b, rest) => (.sequence a b, rest)
          | ⟨.lineEnd, _⟩ :: rest => (list? fuel rest).map fun (b, rest) => (.sequence a b, rest)
          | ⟨.sign "&", _⟩ :: rest =>
            match background? a with
            | some a => (list? fuel rest).map fun (b, rest) => (.sequence a b, rest)
            | none => none
          | [] => some (a, [])
          | t :: rest => if closes t then some (a, t :: rest) else none

def chain? : Nat → Tokens → Option (Script × Tokens)
  | 0, _ => none
  | fuel + 1, ts =>
    match single? fuel ts with
    | none => none
    | some (a, rest) => chainFrom? a fuel rest

def chainFrom? (a : Script) : Nat → Tokens → Option (Script × Tokens)
  | 0, _ => none
  | fuel + 1, ts =>
    match ts with
    | ⟨.sign "&&", _⟩ :: rest =>
      match single? fuel (skipLineEnds rest) with
      | some (b, rest) => chainFrom? (.both a b) fuel rest
      | none => none
    | ⟨.sign "||", _⟩ :: rest =>
      match single? fuel (skipLineEnds rest) with
      | some (b, rest) => chainFrom? (.either a b) fuel rest
      | none => none
    | ts => some (a, ts)

def single? : Nat → Tokens → Option (Script × Tokens)
  | 0, _ => none
  | fuel + 1, ts =>
    match ts with
    | [] => none
    | ⟨.sign "(", _⟩ :: rest =>
      match list? fuel rest with
      | some (a, ⟨.sign ")", _⟩ :: rest) =>
        let (rs, rest) := redirections fuel rest
        some (.apart a rs, rest)
      | _ => none
    | t :: rest =>
      match (match t.token with
        | .word w => w.plain?
        | _ => none) with
      | some "!" => (single? fuel rest).map fun (a, rest) => (.negated a, rest)
      | some "\x7b" =>
        match list? fuel rest with
        | some (a, rest) =>
          match keyword? "\x7d" rest with
          | some rest =>
            let (rs, rest) := redirections fuel rest
            some (.group a rs, rest)
          | none => none
        | none => none
      | some "if" =>
        match branches? fuel rest with
        | some (a, rest) =>
          let (rs, rest) := redirections fuel rest
          some (if rs.isEmpty then a else .group a rs, rest)
        | none => none
      | some "case" =>
        match rest with
        | ⟨.word w, _⟩ :: rest =>
          match keyword? "in" rest with
          | some rest => arms? w fuel rest
          | none => none
        | _ => none
      | name =>
        if name.any fun s => s ∈ unread then none
        else
          let (ws, rs, rest) := words fuel (t :: rest)
          (simple? t.line ws rs).map fun a => (a, rest)

def branches? : Nat → Tokens → Option (Script × Tokens)
  | 0, _ => none
  | fuel + 1, ts =>
    match list? fuel ts with
    | none => none
    | some (condition, rest) =>
      match keyword? "then" rest with
      | none => none
      | some rest =>
        match list? fuel rest with
        | none => none
        | some (yes, rest) =>
          match keyword? "elif" rest, keyword? "else" rest, keyword? "fi" rest with
          | some rest, _, _ =>
            (branches? fuel rest).map fun (no, rest) => (.choose condition yes no, rest)
          | _, some rest, _ =>
            match list? fuel rest with
            | some (no, rest) => (keyword? "fi" rest).map fun rest => (.choose condition yes no, rest)
            | none => none
          | _, _, some rest => some (.choose condition yes .nothing, rest)
          | _, _, _ => none

def arms? (subject : Word) : Nat → Tokens → Option (Script × Tokens)
  | 0, _ => none
  | fuel + 1, ts =>
    match keyword? "esac" ts with
    | some rest => some (.nothing, rest)
    | none =>
      match patterns? fuel (skipLineEnds ts) with
      | none => none
      | some (ps, rest) =>
        match list? fuel rest with
        | none => none
        | some (body, rest) =>
          match dropSign? ";;" (skipLineEnds rest) with
          | some rest =>
            (arms? subject fuel rest).map fun (more, rest) => (.arm subject ps body more, rest)
          | none => (keyword? "esac" rest).map fun rest => (.arm subject ps body .nothing, rest)

end

def read? (text : String) : Option Script :=
  match tokens? text.toList with
  | none => none
  | some ts =>
    match list? (4 * ts.length + 4) ts with
    | some (s, []) => some s
    | _ => none

end CalibratedSweep.Script
