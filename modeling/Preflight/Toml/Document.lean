import Preflight.Toml.Quoted
import Preflight.Toml.Number
import Preflight.Toml.Table

/-! # TOML documents
`parse?` reads a document of TOML 1.0 into an object. Arrays and inline tables nest up to 79 deep, and a dotted
key has up to 79 parts. -/
namespace Preflight.Toml

def nestingLimit : Nat := 79

abbrev Reader (α : Type) := List Char → Option (α × List Char)

def isSpace (c : Char) : Bool := c = ' ' || c = '\t'

def dropSpace (s : List Char) : List Char := s.dropWhile isSpace

def dropNewline? : List Char → Option (List Char)
  | '\n' :: s => some s
  | '\r' :: '\n' :: s => some s
  | _ => none

/-- The rest of a line: white space and a comment. The text may end in place of the line. -/
def dropLine? (s : List Char) : Option (List Char) :=
  let rest := match dropSpace s with
    | '#' :: r => r.dropWhile (!isControl ·)
    | r => r
  if rest = [] then some [] else dropNewline? rest

/-- White space, comments and line ends, as they may stand between the elements of an array. -/
def dropTrivia : (inComment : Bool) → List Char → Option (List Char)
  | true, '\n' :: s => dropTrivia false s
  | true, '\r' :: '\n' :: s => dropTrivia false s
  | true, c :: s => if isControl c then none else dropTrivia true s
  | true, [] => none
  | false, '#' :: s => dropTrivia true s
  | false, '\r' :: '\n' :: s => dropTrivia false s
  | false, c :: s => if c = '\n' || isSpace c then dropTrivia false s else some (c :: s)
  | false, [] => some []

def takeKeyPart? : Reader String
  | '"' :: s => (takeBasic s).map fun p => (String.ofList p.1, p.2)
  | '\'' :: s => (takeLiteral s).map fun p => (String.ofList p.1, p.2)
  | s =>
    let bare := s.takeWhile isBareChar
    if bare = [] then none else some (String.ofList bare, s.drop bare.length)

/-- The parts of a key with dots and white space between them; `fuel` bounds their number. -/
def takeKeyParts? : (fuel : Nat) → Reader (List String)
  | 0, _ => none
  | fuel + 1, s => do
    let (part, s) ← takeKeyPart? (dropSpace s)
    match dropSpace s with
    | '.' :: s => do
      let (parts, s) ← takeKeyParts? fuel s
      return (part :: parts, s)
    | s => return ([part], s)

def keyOf? (parts : List String) : Option Key :=
  match parts.getLast? with
  | some last => if parts.length ≤ nestingLimit then some ⟨parts.dropLast, last⟩ else none
  | none => none

def takeKey? (s : List Char) : Option (Key × List Char) := do
  let (parts, s) ← takeKeyParts? (s.length + 1) s
  return (← keyOf? parts, s)

def takePair? (value : Reader Json) (s : List Char) : Option ((Key × Json) × List Char) := do
  let (key, s) ← takeKey? s
  let s ← takeThe? '=' s
  let (v, s) ← value (dropSpace s)
  return ((key, v), s)

/-- The elements of an array up to its closing bracket. A comma may follow the last one. -/
def takeElements? (value : Reader Json) : (fuel : Nat) → Reader (List Json)
  | 0, _ => none
  | fuel + 1, s => do
    match ← dropTrivia false s with
    | ']' :: s => return ([], s)
    | s => do
      let (v, s) ← value s
      match ← dropTrivia false s with
      | ',' :: s => do
        let (vs, s) ← takeElements? value fuel s
        return (v :: vs, s)
      | ']' :: s => return ([v], s)
      | _ => none

/-- The pairs of an inline table up to its closing brace, of which there is at least one. -/
def takePairs? (value : Reader Json) : (fuel : Nat) → Reader (List (Key × Json))
  | 0, _ => none
  | fuel + 1, s => do
    let (pair, s) ← takePair? value (dropSpace s)
    match dropSpace s with
    | ',' :: s => do
      let (pairs, s) ← takePairs? value fuel s
      return (pair :: pairs, s)
    | '\x7d' :: s => return ([pair], s)
    | _ => none

/-- An inline table is put together like a document without headers. -/
def takeInlineTable? (value : Reader Json) (s : List Char) : Option (Json × List Char) :=
  match dropSpace s with
  | '\x7d' :: s => some (.obj [], s)
  | s => do
    let (pairs, s) ← takePairs? value (s.length + 1) s
    let table ← Table.build [] (pairs.map fun p => .setValue p.1 p.2) {}
    return (table.toJson, s)

/-- A value in which arrays and inline tables nest at most `depth` deep. -/
def takeValue? : (depth : Nat) → Reader Json
  | depth, c :: s =>
    if c = '"' ∨ c = '\'' then (takeString? (c :: s)).map fun p => (.str (String.ofList p.1), p.2)
    else if c = '[' then
      match depth with
      | 0 => none
      | depth + 1 => (takeElements? (takeValue? depth) (s.length + 1) s).map fun p => (.arr p.1, p.2)
    else if c = '\x7b' then
      match depth with
      | 0 => none
      | depth + 1 => takeInlineTable? (takeValue? depth) s
    else if c = '+' ∨ c = '-' ∨ c.isDigit then takeNumeric? (c :: s)
    else if c = 'i' ∨ c = 'n' then takeFloat? (c :: s)
    else match c :: s with
      | 't' :: 'r' :: 'u' :: 'e' :: s => some (.bool true, s)
      | 'f' :: 'a' :: 'l' :: 's' :: 'e' :: s => some (.bool false, s)
      | _ => none
  | _, [] => none

/-- A statement and the rest of its line. -/
def takeStatement? (s : List Char) : Option (Statement × List Char) := do
  match s with
  | '[' :: '[' :: s => do
    let (key, s) ← takeKey? s
    let s ← takeThe? ']' s
    let s ← takeThe? ']' s
    return (.openElement key, ← dropLine? s)
  | '[' :: s => do
    let (key, s) ← takeKey? s
    let s ← takeThe? ']' s
    return (.openTable key, ← dropLine? s)
  | s => do
    let ((key, v), s) ← takePair? (takeValue? nestingLimit) s
    return (.setValue key v, ← dropLine? s)

/-- The statements of a text; `fuel` bounds the number of its lines. -/
def takeStatements? : (fuel : Nat) → List Char → Option (List Statement)
  | 0, _ => none
  | fuel + 1, s =>
    match dropSpace s with
    | [] => some []
    | '#' :: s => do takeStatements? fuel (← dropLine? ('#' :: s))
    | '\n' :: s => takeStatements? fuel s
    | '\r' :: '\n' :: s => takeStatements? fuel s
    | s => do
      let (statement, s) ← takeStatement? s
      let statements ← takeStatements? fuel s
      return statement :: statements

/-- A byte order mark in front of a document is no part of it. -/
def dropMark : List Char → List Char
  | '\ufeff' :: s => s
  | s => s

def parseChars? (s : List Char) : Option Json := do
  let statements ← takeStatements? (s.length + 1) (dropMark s)
  let table ← Table.build [] statements {}
  return table.toJson

def parse? (text : String) : Option Json := parseChars? text.toList

end Preflight.Toml
