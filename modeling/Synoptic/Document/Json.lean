import Synoptic.Document

namespace Synoptic.Json

variable {α : Type}

def hexDigits (width n : Nat) : List Char :=
  let digits := Nat.toDigits 16 n
  List.replicate (width - digits.length) '0' ++ digits

def escaped (c : Char) : List Char :=
  if c == '"' || c == '\\' then ['\\', c]
  else if c == '\n' then ['\\', 'n']
  else if c == '\r' then ['\\', 'r']
  else if c == '\t' then ['\\', 't']
  else if c.toNat < 0x20 then '\\' :: 'u' :: hexDigits 4 c.toNat
  else [c]

def quoted (s : String) : String := String.ofList ('"' :: s.toList.flatMap escaped ++ ['"'])

def number [Number α] (x : α) : String := if x - x == 0 then Number.text x else "null"

mutual

def write [Number α] : Document α → String
  | .null => "null"
  | .bool b => if b then "true" else "false"
  | .natural n => toString n
  | .negated n => "-" ++ toString n
  | .real x => number x
  | .text s => quoted s
  | .list items => "[" ++ ",".intercalate (writeAll items) ++ "]"
  | .record entries => "\x7b" ++ ",".intercalate (writeEntries entries) ++ "\x7d"

def writeAll [Number α] : List (Document α) → List String
  | [] => []
  | d :: ds => write d :: writeAll ds

def writeEntries [Number α] : List (Document α × Document α) → List String
  | [] => []
  | (k, v) :: es => (writeKey k ++ ":" ++ write v) :: writeEntries es

def writeKey [Number α] : Document α → String
  | .text s => quoted s
  | .null => quoted "null"
  | .bool b => quoted (if b then "true" else "false")
  | .natural n => quoted (toString n)
  | .negated n => quoted ("-" ++ toString n)
  | .real x => quoted (number x)
  | .list _ | .record _ => quoted ""

end

def isSpace (c : Char) : Bool := c == ' ' || c == '\t' || c == '\n' || c == '\r'

def skipSpace (s : List Char) : List Char := s.dropWhile isSpace

def hexDigit? (c : Char) : Option Nat :=
  if c.isDigit then some (c.toNat - '0'.toNat)
  else if 'a' ≤ c && c ≤ 'f' then some (c.toNat - 'a'.toNat + 10)
  else if 'A' ≤ c && c ≤ 'F' then some (c.toNat - 'A'.toNat + 10)
  else none

def hex? (digits : List Char) : Option Nat :=
  digits.foldlM (fun n c => (hexDigit? c).map (16 * n + ·)) 0

def simpleEscape? (c : Char) : Option Char :=
  if c == '"' || c == '\\' || c == '/' then some c
  else if c == 'b' then some '\x08'
  else if c == 'f' then some '\x0c'
  else if c == 'n' then some '\n'
  else if c == 'r' then some '\r'
  else if c == 't' then some '\t'
  else none

/-- The rest of a text in quotes. The first half of a surrogate pair waits for the second one. -/
def string? (acc : List Char) (high : Option Nat) : List Char → Option (String × List Char)
  | '\\' :: 'u' :: a :: b :: c :: d :: r => do
    let code ← hex? [a, b, c, d]
    match high with
    | some h =>
      if 0xDC00 ≤ code ∧ code < 0xE000 then
        string? (Char.ofNat (0x10000 + 0x400 * (h - 0xD800) + (code - 0xDC00)) :: acc) none r
      else none
    | none =>
      if 0xD800 ≤ code ∧ code < 0xDC00 then string? acc (some code) r
      else if 0xDC00 ≤ code ∧ code < 0xE000 then none
      else string? (Char.ofNat code :: acc) none r
  | c :: r =>
    if high.isSome || c.toNat < 0x20 then none
    else if c == '"' then some (String.ofList acc.reverse, r)
    else if c == '\\' then
      match r with
      | e :: r => do string? ((← simpleEscape? e) :: acc) none r
      | [] => none
    else string? (c :: acc) none r
  | [] => none

def isWhole (digits : List Char) : Bool :=
  !digits.isEmpty && digits.all Char.isDigit && (digits.length == 1 || digits.head? != some '0')

/-- A number: a whole one if it is written so and fits 64 bits, else a real one. -/
def number? [Number α] (s : List Char) : Option (Document α) := do
  let negative := s.head? == some '-'
  let body := if negative then s.tail else s
  let whole := body.takeWhile Char.isDigit
  let rest := body.dropWhile Char.isDigit
  let digitFollows (r : List Char) : Bool := r.head?.any Char.isDigit
  let fractionSound := rest.head? != some '.' || digitFollows rest.tail
  if !isWhole whole || !fractionSound then none
  else if rest.isEmpty then
    let n := (String.ofList whole).toNat?.getD 0
    if negative then
      if n == 0 || Nat.pow 2 63 < n then (Number.ofChars? s).map .real else some (.negated n)
    else if Nat.pow 2 64 ≤ n then (Number.ofChars? s).map .real
    else some (.natural n)
  else (Number.ofChars? s).map .real

def isNumberChar (c : Char) : Bool :=
  c.isDigit || c == '-' || c == '+' || c == '.' || c == 'e' || c == 'E'

def word? (s : List Char) : Option (Document α × List Char) :=
  match s with
  | 'n' :: 'u' :: 'l' :: 'l' :: r => some (.null, r)
  | 't' :: 'r' :: 'u' :: 'e' :: r => some (.bool true, r)
  | 'f' :: 'a' :: 'l' :: 's' :: 'e' :: r => some (.bool false, r)
  | _ => none

def expect? (c : Char) (s : List Char) : Option (List Char) :=
  match skipSpace s with
  | x :: r => if x == c then some r else none
  | [] => none

mutual

/-- The value that a text starts with, and the rest. Every call uses up some of the fuel, and no
text needs more than twice its length. -/
def value? [Number α] : Nat → List Char → Option (Document α × List Char)
  | 0, _ => none
  | fuel + 1, s =>
    match skipSpace s with
    | '\x7b' :: r =>
      match skipSpace r with
      | '\x7d' :: r => some (.record [], r)
      | r => do
        let (entries, r) ← entries? fuel r
        some (.record entries, r)
    | '[' :: r =>
      match skipSpace r with
      | ']' :: r => some (.list [], r)
      | r => do
        let (items, r) ← items? fuel r
        some (.list items, r)
    | '"' :: r => do
      let (s, r) ← string? [] none r
      some (.text s, r)
    | s =>
      let digits := s.takeWhile isNumberChar
      if digits.isEmpty then word? s
      else do
        let n ← number? digits
        some (n, s.drop digits.length)

def items? [Number α] : Nat → List Char → Option (List (Document α) × List Char)
  | 0, _ => none
  | fuel + 1, s => do
    let (v, r) ← value? fuel s
    match skipSpace r with
    | ',' :: r => do
      let (vs, r) ← items? fuel r
      some (v :: vs, r)
    | ']' :: r => some ([v], r)
    | _ => none

def entries? [Number α] : Nat → List Char → Option (List (Document α × Document α) × List Char)
  | 0, _ => none
  | fuel + 1, s => do
    let r ← expect? '"' s
    let (k, r) ← string? [] none r
    let r ← expect? ':' r
    let (v, r) ← value? fuel r
    match skipSpace r with
    | ',' :: r => do
      let (es, r) ← entries? fuel r
      some ((.text k, v) :: es, r)
    | '\x7d' :: r => some ([(.text k, v)], r)
    | _ => none

end

def read? [Number α] (s : String) : Option (Document α) := do
  let chars := s.toList
  let (d, rest) ← value? (2 * chars.length + 2) chars
  if (skipSpace rest).isEmpty then some d else none

end Synoptic.Json
