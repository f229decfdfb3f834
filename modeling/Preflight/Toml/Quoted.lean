/-! # Strings of TOML
The four quoted forms: basic and literal, each on one line or over several. `Quoting.choose` picks the plainest
form in which a text can be written, `quote` writes it, and the `take…` functions read a form whose opening
quotes have been consumed, giving back the text and what follows the closing quotes. -/
namespace Preflight.Toml

def isControl (c : Char) : Bool := c ≠ '\t' && (c.toNat < 0x20 || c.toNat = 0x7F)

inductive Quoting | basic | literal | blockBasic | blockLiteral
  deriving DecidableEq

def longestRun (q : Char) : (run longest : Nat) → List Char → Nat
  | run, longest, [] => max run longest
  | run, longest, c :: s =>
    if c = q then longestRun q (run + 1) longest s else longestRun q 0 (max run longest) s

namespace Quoting

/-- Whether a text needs escapes for its control characters other than the line feed. -/
def needsEscapes (s : List Char) : Bool := s.any fun c => isControl c && c ≠ '\n'

def choose (s : List Char) : Quoting :=
  let multiline := s.contains '\n'
  let backslash := s.contains '\\'
  let doubles := longestRun '"' 0 0 s
  let singles := longestRun '\'' 0 0 s
  if needsEscapes s then (if multiline then .blockBasic else .basic)
  else if !backslash && doubles = 0 && !multiline then .basic
  else if singles = 0 && !multiline then .literal
  else if !backslash && doubles ≤ 2 then .blockBasic
  else if singles ≤ 2 then .blockLiteral
  else if multiline then .blockBasic
  else .basic

end Quoting

/-- The escape of a character that cannot stand for itself in a basic form. -/
def escape? (c : Char) : Option (List Char) :=
  if c = '\x08' then some ['\\', 'b']
  else if c = '\t' then some ['\\', 't']
  else if c = '\n' then some ['\\', 'n']
  else if c = '\x0c' then some ['\\', 'f']
  else if c = '\r' then some ['\\', 'r']
  else if c = '\\' then some ['\\', '\\']
  else if isControl c then
    some ['\\', 'u', '0', '0', Nat.digitChar (c.toNat / 16) |>.toUpper, Nat.digitChar (c.toNat % 16) |>.toUpper]
  else none

/-- The contents of a basic form on one line. -/
def basicChars (s : List Char) : List Char :=
  s.flatMap fun c => if c = '"' then ['\\', '"'] else (escape? c).getD [c]

/-- The contents of a basic form over several lines: the third quote of a run is escaped, and a line feed stands
for itself. -/
def blockBasicChars : (run : Nat) → List Char → List Char
  | _, [] => []
  | run, c :: s =>
    if c = '"' then
      if run = 2 then '\\' :: '"' :: blockBasicChars 0 s else '"' :: blockBasicChars (run + 1) s
    else if c = '\n' then '\n' :: blockBasicChars 0 s
    else (escape? c).getD [c] ++ blockBasicChars 0 s

/-- A text in quotes. In a form over several lines a text that holds a line feed starts on a line of its own. -/
def quoteAs (q : Quoting) (s : List Char) : List Char :=
  let opening := if s.contains '\n' then ['\n'] else []
  match q with
  | .basic => '"' :: basicChars s ++ ['"']
  | .literal => '\'' :: s ++ ['\'']
  | .blockBasic => '"' :: '"' :: '"' :: opening ++ blockBasicChars 0 s ++ ['"', '"', '"']
  | .blockLiteral => '\'' :: '\'' :: '\'' :: opening ++ s ++ ['\'', '\'', '\'']

def quote (s : List Char) : List Char := quoteAs (Quoting.choose s) s

/-- Letters, digits, the underscore and the hyphen: what a key may consist of without quotes. -/
def isBareChar (c : Char) : Bool := c.isAlphanum || c = '_' || c = '-'

def isBareKey (s : List Char) : Bool := !s.isEmpty && s.all isBareChar

/-- A key: bare if it can be, otherwise in quotes on one line. -/
def quoteKey (s : List Char) : List Char :=
  if isBareKey s then s
  else if s.any isControl then quoteAs .basic s
  else if !s.contains '\\' && !s.contains '"' then quoteAs .basic s
  else if !s.contains '\'' then quoteAs .literal s
  else quoteAs .basic s

def hexValue? (c : Char) : Option Nat :=
  if c.isDigit then some (c.toNat - '0'.toNat)
  else if 'a' ≤ c ∧ c ≤ 'f' then some (c.toNat - 'a'.toNat + 10)
  else if 'A' ≤ c ∧ c ≤ 'F' then some (c.toNat - 'A'.toNat + 10)
  else none

/-- The character that hexadecimal digits name, unless it is a surrogate or out of range. -/
def hexChar? (digits : List Char) : Option Char := do
  let values ← digits.mapM hexValue?
  let n := values.foldl (fun acc d => 16 * acc + d) 0
  if h : n.isValidChar then some (Char.ofNatAux n h) else none

def unescape? (c : Char) : Option Char :=
  if c = 'b' then some '\x08'
  else if c = 't' then some '\t'
  else if c = 'n' then some '\n'
  else if c = 'f' then some '\x0c'
  else if c = 'r' then some '\r'
  else if c = '"' then some '"'
  else if c = '\\' then some '\\'
  else none

abbrev Taken := Option (List Char × List Char)

def Taken.push (c : Char) (t : Taken) : Taken := t.map fun p => (c :: p.1, p.2)

/-- The rest of a basic form on one line. -/
def takeBasic : List Char → Taken
  | [] => none
  | '"' :: s => some ([], s)
  | '\\' :: 'u' :: a :: b :: c :: d :: s => do (takeBasic s).push (← hexChar? [a, b, c, d])
  | '\\' :: 'U' :: a :: b :: c :: d :: e :: f :: g :: h :: s => do
    (takeBasic s).push (← hexChar? [a, b, c, d, e, f, g, h])
  | '\\' :: c :: s => do (takeBasic s).push (← unescape? c)
  | c :: s => if isControl c then none else (takeBasic s).push c

def takeLiteral : List Char → Taken
  | [] => none
  | '\'' :: s => some ([], s)
  | c :: s => if isControl c then none else (takeLiteral s).push c

/-- Where a reader stands in a basic form over several lines: in the text, behind a backslash that has to be
followed by the end of its line, or in the white space that such a backslash drops. -/
inductive BlockState | text | lineEnd | dropping
  deriving DecidableEq

/-- The rest of a basic form over several lines. Up to two quotes may stand in front of the closing ones. -/
def takeBlockBasic : BlockState → List Char → Taken
  | _, [] => none
  | .lineEnd, c :: s =>
    if c = ' ' ∨ c = '\t' then takeBlockBasic .lineEnd s
    else if c = '\n' then takeBlockBasic .dropping s
    else match c, s with
      | '\r', '\n' :: s => takeBlockBasic .dropping s
      | _, _ => none
  | .dropping, '\r' :: '\n' :: s => takeBlockBasic .dropping s
  | .dropping, ' ' :: s => takeBlockBasic .dropping s
  | .dropping, '\t' :: s => takeBlockBasic .dropping s
  | .dropping, '\n' :: s => takeBlockBasic .dropping s
  | _, '"' :: '"' :: '"' :: '"' :: '"' :: s => some (['"', '"'], s)
  | _, '"' :: '"' :: '"' :: '"' :: s => some (['"'], s)
  | _, '"' :: '"' :: '"' :: s => some ([], s)
  | _, '\r' :: '\n' :: s => (takeBlockBasic .text s).push '\n'
  | _, '\n' :: s => (takeBlockBasic .text s).push '\n'
  | _, '\\' :: 'u' :: a :: b :: c :: d :: s => do (takeBlockBasic .text s).push (← hexChar? [a, b, c, d])
  | _, '\\' :: 'U' :: a :: b :: c :: d :: e :: f :: g :: h :: s => do
    (takeBlockBasic .text s).push (← hexChar? [a, b, c, d, e, f, g, h])
  | _, '\\' :: c :: s =>
    match unescape? c with
    | some c => (takeBlockBasic .text s).push c
    | none => takeBlockBasic .lineEnd (c :: s)
  | _, c :: s => if isControl c then none else (takeBlockBasic .text s).push c

def takeBlockLiteral : List Char → Taken
  | [] => none
  | '\'' :: '\'' :: '\'' :: '\'' :: '\'' :: s => some (['\'', '\''], s)
  | '\'' :: '\'' :: '\'' :: '\'' :: s => some (['\''], s)
  | '\'' :: '\'' :: '\'' :: s => some ([], s)
  | '\r' :: '\n' :: s => (takeBlockLiteral s).push '\n'
  | '\n' :: s => (takeBlockLiteral s).push '\n'
  | c :: s => if isControl c then none else (takeBlockLiteral s).push c

/-- A line feed right behind the opening quotes belongs to them. -/
def dropNewline : List Char → List Char
  | '\r' :: '\n' :: s => s
  | '\n' :: s => s
  | s => s

/-- A string in any of the four forms. -/
def takeString? : List Char → Taken
  | '"' :: '"' :: '"' :: s => takeBlockBasic .text (dropNewline s)
  | '"' :: s => takeBasic s
  | '\'' :: '\'' :: '\'' :: s => takeBlockLiteral (dropNewline s)
  | '\'' :: s => takeLiteral s
  | _ => none

end Preflight.Toml
