import Synoptic.Yaml.Scalar

namespace Synoptic.Yaml

inductive Token
  | documentStart | documentEnd
  | blockList | blockMap | blockEnd
  | item
  | key | value
  | openList | closeList | openMap | closeMap | comma
  | scalar (plain : Bool) (text : String)

structure KeyStart where
  tokens : Nat
  index : Nat
  line : Nat
  column : Nat
  required : Bool

structure Scan where
  rest : List Place
  tokens : Array Token
  columns : List Nat
  keyAllowed : Bool
  keyStart : Option KeyStart
  outer : List (Option KeyStart)

namespace Scan

def start (rest : List Place) : Scan := ⟨rest, #[], [], true, none, []⟩

def inFlow (s : Scan) : Bool := !s.outer.isEmpty

/-- The least column of what belongs to the innermost block collection and is no part of it. -/
def least (s : Scan) : Nat :=
  match s.columns with
  | column :: _ => column + 1
  | [] => 0

def push (s : Scan) (t : Token) : Scan := { s with tokens := s.tokens.push t }

def dedent (s : Scan) (column : Nat) : Scan :=
  if s.inFlow then s
  else
    let closed := s.columns.takeWhile (column < ·)
    { s with
      columns := s.columns.drop closed.length
      tokens := s.tokens ++ closed.map fun _ => Token.blockEnd }

def dedentAll (s : Scan) : Scan :=
  if s.inFlow then s
  else { s with columns := [], tokens := s.tokens ++ s.columns.map fun _ => Token.blockEnd }

def indent (s : Scan) (column place : Nat) (t : Token) : Scan :=
  if !s.inFlow && s.least ≤ column then
    { s with columns := column :: s.columns, tokens := s.tokens.insertIdxIfInBounds place t }
  else s

def dropKeyStart (s : Scan) : Option Scan :=
  if s.keyStart.any (·.required) then none else some { s with keyStart := none }

def saveKeyStart (s : Scan) (p : Place) : Option Scan :=
  if s.keyAllowed then do
    let s ← s.dropKeyStart
    let required := !s.inFlow && s.columns.head? == some p.column
    some { s with keyStart := some ⟨s.tokens.size, p.index, p.line, p.column, required⟩ }
  else some s

/-- Keys end on the line that they start on, at most 1024 bytes behind. -/
def reaches (k : KeyStart) (p : Place) : Bool := k.line == p.line && p.index ≤ k.index + 1024

def documentMark (s : Scan) (t : Token) : Option Scan := do
  let s ← s.dedentAll.dropKeyStart
  some { s.push t with rest := s.rest.drop 3, keyAllowed := false }

def openFlow (s : Scan) (p : Place) (t : Token) : Option Scan := do
  let s ← s.saveKeyStart p
  some
    { s.push t with
      rest := s.rest.tail
      keyAllowed := true
      keyStart := none
      outer := s.keyStart :: s.outer }

def closeFlow (s : Scan) (t : Token) : Option Scan := do
  let s ← s.dropKeyStart
  some
    { s.push t with
      rest := s.rest.tail
      keyAllowed := false
      keyStart := s.outer.head?.join
      outer := s.outer.tail }

def comma (s : Scan) : Option Scan := do
  let s ← s.dropKeyStart
  some { s.push .comma with rest := s.rest.tail, keyAllowed := true }

def item (s : Scan) (p : Place) : Option Scan :=
  if !s.inFlow && !s.keyAllowed then none
  else do
    let s ← (s.indent p.column s.tokens.size .blockList).dropKeyStart
    some { s.push .item with rest := s.rest.tail, keyAllowed := true }

def explicitKey (s : Scan) (p : Place) : Option Scan :=
  if !s.inFlow && !s.keyAllowed then none
  else do
    let s ← (s.indent p.column s.tokens.size .blockMap).dropKeyStart
    some { s.push .key with rest := s.rest.tail, keyAllowed := !s.inFlow }

def value (s : Scan) (p : Place) : Option Scan :=
  match s.keyStart with
  | some k =>
    if reaches k p then
      let s := { s with tokens := s.tokens.insertIdxIfInBounds k.tokens .key, keyStart := none }
      let s := s.indent k.column k.tokens .blockMap
      some { s.push .value with rest := s.rest.tail, keyAllowed := false }
    else if k.required then none
    else bareValue { s with keyStart := none } p
  | none => bareValue s p
where
  bareValue (s : Scan) (p : Place) : Option Scan :=
    if !s.inFlow && !s.keyAllowed then none
    else
      let s := s.indent p.column s.tokens.size .blockMap
      some { s.push .value with rest := s.rest.tail, keyAllowed := !s.inFlow }

def scalar (s : Scan) (p : Place) (plain : Bool) (read : Scan → Option Reading) : Option Scan := do
  let s ← s.saveKeyStart p
  let r ← read s
  some { s.push (.scalar plain r.text) with rest := r.rest, keyAllowed := r.lineEnded }

def isIndicator (c : Char) : Bool :=
  isFlowMark c || c == '#' || c == '&' || c == '*' || c == '!' || c == '|' || c == '>' ||
    c == '"' || c == '%' || c == '@' || c.toNat == 0x27 || c.toNat == 0x60

def startsPlain (s : Scan) (p : Place) (rest : List Place) : Bool :=
  if p.char == '-' then !rest.head?.any fun q => isBlank q.char
  else if p.char == '?' || p.char == ':' then !s.inFlow && !atGap rest
  else !isIndicator p.char && !isBlank p.char

/-- Reads the token at a place. Anchors, aliases, tags, directives and block scalars are not
known. -/
def token (s : Scan) (p : Place) (rest : List Place) : Option Scan :=
  if atMark '-' s.rest then s.documentMark .documentStart
  else if atMark '.' s.rest then s.documentMark .documentEnd
  else if p.char == '[' then s.openFlow p .openList
  else if p.char == '\x7b' then s.openFlow p .openMap
  else if p.char == ']' then s.closeFlow .closeList
  else if p.char == '\x7d' then s.closeFlow .closeMap
  else if p.char == ',' then s.comma
  else if p.char == '-' && atGap rest then s.item p
  else if p.char == '?' && (s.inFlow || atGap rest) then s.explicitKey p
  else if p.char == ':' && (s.inFlow || atGap rest) then s.value p
  else if p.char == '"' then s.scalar p false fun s => readDouble [] .none .none s.rest.tail
  else if p.char.toNat == 0x27 then s.scalar p false fun s => readSingle [] .none s.rest.tail
  else if s.startsPlain p rest then
    s.scalar p true fun s => readPlain s.inFlow s.least [] .none s.rest
  else none

/-- Reads tokens to the end. Each takes a character at least, so fuel beyond their number is
enough. -/
def run : Nat → Scan → Option (Array Token)
  | 0, _ => none
  | fuel + 1, s =>
    let (keyAllowed, rest) := skipGap s.inFlow false s.keyAllowed s.rest
    let s := { s with keyAllowed, rest }
    match rest with
    | [] => do
      let s ← s.dedentAll.dropKeyStart
      some s.tokens
    | p :: rest => do run fuel (← (s.dedent p.column).token p rest)

end Scan

def tokens? (text : String) : Option (List Token) := do
  let places ← places? text
  let tokens ← Scan.run (places.length + 1) (.start places)
  some tokens.toList

end Synoptic.Yaml
