import Synoptic.Yaml.Place

namespace Synoptic.Yaml

inductive Gap
  | none
  | blanks (chars : List Char)
  | breaks (chars : List Char)
  | escapedBreak (chars : List Char)

namespace Gap

def addBlank (c : Char) : Gap → Gap
  | .none => .blanks [c]
  | .blanks cs => .blanks (cs ++ [c])
  | g => g

def addBreak (c : Char) : Gap → Gap
  | .none | .blanks _ => .breaks [c]
  | .breaks cs => .breaks (cs ++ [c])
  | .escapedBreak cs => .escapedBreak (cs ++ [c])

def text : Gap → List Char
  | .none => []
  | .blanks cs => cs
  | .breaks ['\n'] => [' ']
  | .breaks ('\n' :: more) => more
  | .breaks cs => cs
  | .escapedBreak cs => cs

def isNone : Gap → Bool
  | .none => true
  | _ => false

def hasBreak : Gap → Bool
  | .breaks _ | .escapedBreak _ => true
  | _ => false

end Gap

structure Reading where
  text : String
  lineEnded : Bool
  rest : List Place

def isFlowMark (c : Char) : Bool := c == ',' || c == '[' || c == ']' || c == '\x7b' || c == '\x7d'

/-- Whether a plain scalar ends before the next character. `least` is the least column of lines that
go on with it. -/
def plainEnds (flow : Bool) (least : Nat) (gap : Gap) (p : Place) (rest : List Place) : Bool :=
  atDocumentMark (p :: rest) ||
    !gap.isNone && (p.char == '#' || !flow && p.column < least) ||
    p.char == ':' && atGap rest ||
    flow && isFlowMark p.char

def readPlain (flow : Bool) (least : Nat) (acc : List Char) (gap : Gap) :
    List Place → Option Reading
  | [] => some ⟨String.ofList acc.reverse, gap.hasBreak, []⟩
  | p :: rest =>
    if isBlank p.char then
      if p.char == '\t' && gap.hasBreak && p.column < least then none
      else readPlain flow least acc (gap.addBlank p.char) rest
    else if isBreak p.char then readPlain flow least acc (gap.addBreak p.char) rest
    else if flow && p.char == ':' && rest.head?.any fun q => isFlowMark q.char || q.char == '?' then
      none
    else if plainEnds flow least gap p rest then
      some ⟨String.ofList acc.reverse, gap.hasBreak, p :: rest⟩
    else readPlain flow least (p.char :: gap.text.reverse ++ acc) .none rest

inductive Escape
  | none
  | start
  | code (left value : Nat)

def escapedChar? (c : Char) : Option Char :=
  if c == '0' then some (Char.ofNat 0)
  else if c == 'a' then some (Char.ofNat 7)
  else if c == 'b' then some (Char.ofNat 8)
  else if c == 't' || c == '\t' then some '\t'
  else if c == 'n' then some '\n'
  else if c == 'v' then some (Char.ofNat 0xB)
  else if c == 'f' then some (Char.ofNat 0xC)
  else if c == 'r' then some '\r'
  else if c == 'e' then some (Char.ofNat 0x1B)
  else if c == ' ' || c == '"' || c == '/' || c == '\\' then some c
  else if c == 'N' then some (Char.ofNat 0x85)
  else if c == '_' then some (Char.ofNat 0xA0)
  else if c == 'L' then some (Char.ofNat 0x2028)
  else if c == 'P' then some (Char.ofNat 0x2029)
  else none

def codeLength? (c : Char) : Option Nat :=
  if c == 'x' then some 2 else if c == 'u' then some 4 else if c == 'U' then some 8 else none

def hexDigit? (c : Char) : Option Nat :=
  if c.isDigit then some (c.toNat - '0'.toNat)
  else if 'a' ≤ c && c ≤ 'f' then some (c.toNat - 'a'.toNat + 10)
  else if 'A' ≤ c && c ≤ 'F' then some (c.toNat - 'A'.toNat + 10)
  else none

def ofCode? (n : Nat) : Option Char := if n.isValidChar then some (Char.ofNat n) else none

def readDouble (acc : List Char) (gap : Gap) (escape : Escape) : List Place → Option Reading
  | [] => none
  | p :: rest =>
    match escape with
    | .code left value => do
      let value := 16 * value + (← hexDigit? p.char)
      if left == 1 then readDouble ((← ofCode? value) :: acc) .none .none rest
      else readDouble acc .none (.code (left - 1) value) rest
    | .start =>
      if isBreak p.char then readDouble acc (.escapedBreak []) .none rest
      else
        match codeLength? p.char with
        | some left => readDouble acc .none (.code left 0) rest
        | none => do readDouble ((← escapedChar? p.char) :: acc) .none .none rest
    | .none =>
      if isBlank p.char then readDouble acc (gap.addBlank p.char) .none rest
      else if isBreak p.char then readDouble acc (gap.addBreak p.char) .none rest
      else if atDocumentMark (p :: rest) then none
      else
        let acc := gap.text.reverse ++ acc
        if p.char == '"' then some ⟨String.ofList acc.reverse, false, rest⟩
        else if p.char == '\\' then readDouble acc .none .start rest
        else readDouble (p.char :: acc) .none .none rest

def readSingle (acc : List Char) (gap : Gap) : List Place → Option Reading
  | [] => none
  | p :: rest =>
    if isBlank p.char then readSingle acc (gap.addBlank p.char) rest
    else if isBreak p.char then readSingle acc (gap.addBreak p.char) rest
    else if atDocumentMark (p :: rest) then none
    else
      let acc := gap.text.reverse ++ acc
      if p.char == '\'' then
        match rest with
        | q :: rest' =>
          if q.char == '\'' then readSingle ('\'' :: acc) .none rest'
          else some ⟨String.ofList acc.reverse, false, rest⟩
        | [] => some ⟨String.ofList acc.reverse, false, []⟩
      else readSingle (p.char :: acc) .none rest

end Synoptic.Yaml
