import Synoptic.Document
import Synoptic.Yaml.Node

namespace Synoptic.Yaml

variable {α : Type}

def isNullWord (s : String) : Bool := s == "~" || s == "null" || s == "Null" || s == "NULL"

def boolWord? (s : String) : Option Bool :=
  if s == "true" || s == "True" || s == "TRUE" then some true
  else if s == "false" || s == "False" || s == "FALSE" then some false
  else none

def isZeroLed (s : List Char) : Bool :=
  let digits := match s with
    | c :: r => if c == '+' || c == '-' then r else s
    | [] => s
  1 < digits.length && digits.head? == some '0' && digits.all Char.isDigit

def natural? (base : Nat) (digits : List Char) : Option Nat :=
  if digits.isEmpty then none
  else
    digits.foldlM (fun n c => do
      let d ← hexDigit? c
      if d < base then some (base * n + d) else none) 0

def based? : List Char → Option Nat
  | '0' :: 'x' :: r => natural? 16 r
  | '0' :: 'o' :: r => natural? 8 r
  | '0' :: 'b' :: r => natural? 2 r
  | r => natural? 10 r

def unsigned? (s : List Char) : Option Nat :=
  if isZeroLed s then none
  else
    match s with
    | '+' :: r => based? r
    | r => based? r

def negated? (s : List Char) : Option Nat :=
  if isZeroLed s then none
  else
    match s with
    | '-' :: r => based? r
    | _ => none

def count? (s : List Char) : Option Nat := (unsigned? s).filter (· < Nat.pow 2 64)

def dropPlus : List Char → List Char
  | '+' :: r => r
  | r => r

def namedReal? [Number α] (s : List Char) : Option α :=
  let unsigned := String.ofList (dropPlus s)
  let whole := String.ofList s
  if unsigned == ".inf" || unsigned == ".Inf" || unsigned == ".INF" then
    Number.ofChars? ['i', 'n', 'f']
  else if whole == "-.inf" || whole == "-.Inf" || whole == "-.INF" then
    Number.ofChars? ['-', 'i', 'n', 'f']
  else if whole == ".nan" || whole == ".NaN" || whole == ".NAN" then
    Number.ofChars? ['n', 'a', 'n']
  else none

def real? [Number α] (s : List Char) : Option α :=
  match namedReal? s with
  | some x => some x
  | none =>
    let unsigned := dropPlus s
    if s.head? == some '+' && unsigned.head?.any (fun c => c == '+' || c == '-') then none
    else
      match Number.ofChars? (α := α) unsigned with
      | some x => if x - x == 0 then some x else none
      | none => none

/-- A whole number: one that fits 64 bits. One that fits 128 bits only is refused, and a larger one
counts as real. -/
def whole? (α : Type) (s : List Char) : Option (Option (Document α)) :=
  match unsigned? s, negated? s with
  | some n, _ =>
    if n < Nat.pow 2 64 then some (some (.natural n))
    else if n < Nat.pow 2 128 then some none
    else none
  | _, some n =>
    if n ≤ Nat.pow 2 63 then some (some (.negated n))
    else if n ≤ Nat.pow 2 127 then some none
    else none
  | none, none => none

def resolve? [Number α] (text : String) : Option (Document α) :=
  let s := text.toList
  if s.isEmpty || isNullWord text then some .null
  else
    match boolWord? text with
    | some b => some (.bool b)
    | none =>
      match whole? α s with
      | some d => d
      | none => some (realOrText s)
where
  realOrText (s : List Char) : Document α :=
    if isZeroLed s then .text (String.ofList s)
    else
      match real? s with
      | some x => .real x
      | none => .text (String.ofList s)

namespace Node

mutual

def document? [Number α] : Nat → Node → Option (Document α)
  | _, .plain text => resolve? text
  | _, .quoted text => some (.text text)
  | 0, .list _ => none
  | depth + 1, .list items => do some (.list (← documents? depth items))
  | 0, .map _ => none
  | depth + 1, .map entries => do some (.record (← pairs? depth entries))

def documents? [Number α] : Nat → List Node → Option (List (Document α))
  | _, [] => some []
  | depth, n :: ns => do some ((← n.document? depth) :: (← documents? depth ns))

def pairs? [Number α] :
    Nat → List (Node × Node) → Option (List (Document α × Document α))
  | _, [] => some []
  | depth, (k, v) :: es => do
    some ((← k.document? depth, ← v.document? depth) :: (← pairs? depth es))

end

def depthLimit : Nat := 128

def text? : Node → Option String
  | .plain text | .quoted text => some text
  | _ => none

def bool? : Node → Option Bool
  | .plain text => boolWord? text
  | _ => none

def count? : Node → Option Nat
  | .plain text => Yaml.count? text.toList
  | _ => none

def real? [Number α] : Node → Option α
  | .plain text => Yaml.real? text.toList
  | _ => none

def isNull : Node → Bool
  | .plain text => text.isEmpty || isNullWord text
  | _ => false

def optional? {β : Type} (f : Node → Option β) (n : Node) : Option (Option β) :=
  if n.isNull then some none else (f n).map some

def items? : Node → Option (List Node)
  | .list items => some items
  | .plain text => if text.isEmpty then some [] else none
  | _ => none

def entries? : Node → Option (List (String × Node))
  | .map entries => entries.mapM fun (k, v) => k.text?.map (·, v)
  | .plain text => if text.isEmpty then some [] else none
  | _ => none

def fields? (names : List String) (n : Node) : Option (List (Option Node)) := do
  let entries ← n.entries?
  names.mapM fun name =>
    match entries.filter (·.1 == name) with
    | [] => some none
    | [(_, v)] => some (some v)
    | _ => none

def reader [Number α] : Reader Node α := ⟨real?, count?, fields?⟩

end Node

end Synoptic.Yaml
