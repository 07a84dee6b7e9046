namespace Synoptic.Yaml

/-- A character and where it stands: its place in the whole text, counted in bytes of UTF-8, its line
and its column. -/
structure Place where
  char : Char
  index : Nat
  line : Nat
  column : Nat

def isForbidden (c : Char) : Bool :=
  let n := c.toNat
  !(n == 0x9 || n == 0xA || n == 0xD || (0x20 ≤ n && n ≤ 0x7E) || n == 0x85 ||
    (0xA0 ≤ n && n ≤ 0xFFFD) || 0x10000 ≤ n)

def uniformBreaks : List Char → List Char
  | '\r' :: '\n' :: r => '\n' :: uniformBreaks r
  | c :: r => (if c == '\r' || c.toNat == 0x85 then '\n' else c) :: uniformBreaks r
  | [] => []

def isBreak (c : Char) : Bool := c == '\n' || c.toNat == 0x2028 || c.toNat == 0x2029

def isBlank (c : Char) : Bool := c == ' ' || c == '\t'

def placed (index line column : Nat) : List Char → List Place
  | [] => []
  | c :: r =>
    ⟨c, index, line, column⟩ ::
      if isBreak c then placed (index + c.utf8Size) (line + 1) 0 r
      else placed (index + c.utf8Size) line (column + 1) r

def places? (text : String) : Option (List Place) :=
  let chars := text.toList
  if chars.any isForbidden then none else some (placed 0 0 0 (uniformBreaks chars))

def atGap : List Place → Bool
  | [] => true
  | p :: _ => isBlank p.char || isBreak p.char

def atMark (c : Char) : List Place → Bool
  | p :: q :: r :: rest =>
    p.column == 0 && p.char == c && q.char == c && r.char == c && atGap rest
  | _ => false

def atDocumentMark (s : List Place) : Bool := atMark '-' s || atMark '.' s

def atOrderMark (p : Place) : Bool := p.column == 0 && p.char.toNat == 0xFEFF

/-- Skips blanks, comments, line ends, and a byte order mark at the start of a line, which counts as a
column. Outside of flow collections a key may start after a line end, and where it may, a tab is not
skipped. -/
def skipGap (flow comment keyAllowed : Bool) : List Place → Bool × List Place
  | [] => (keyAllowed, [])
  | p :: rest =>
    if isBreak p.char then skipGap flow false (keyAllowed || !flow) rest
    else if comment || p.char == '#' then skipGap flow true keyAllowed rest
    else if atOrderMark p || p.char == ' ' || p.char == '\t' && (flow || !keyAllowed) then
      skipGap flow false keyAllowed rest
    else (keyAllowed, p :: rest)

end Synoptic.Yaml
