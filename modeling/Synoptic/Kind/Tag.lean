import Synoptic.Error
import Synoptic.Text.Blank
import Synoptic.Text.Case

namespace Synoptic.Kind

variable {α : Type}

def numbered (n : Nat) : Except (ValueError α) Kind :=
  match all[n]? with
  | some kind => .ok kind
  | none => .error (.unknownKind (toString n))

def ofName? (name : String) : Option Kind :=
  if name = "scalar" then some .scalar
  else if name = "grid" then some .grid
  else if name = "spline" then some .spline
  else if name = "vlist" ∨ name = "vectorlist" ∨ name = "vector_list" then some .samples
  else none

def byte? (s : List Char) : Option Nat :=
  let digits := if s.head? = some '+' then s.tail else s
  if digits.isEmpty || !digits.all Char.isDigit then none
  else
    let n := digits.foldl (fun n c => 10 * n + (c.toNat - '0'.toNat)) 0
    if n < 256 then some n else none

def ofTag (tag : String) : Except (ValueError α) Kind :=
  let body := Text.trim tag.toList
  match byte? body with
  | some n => numbered n
  | none =>
    match ofName? (String.ofList (Text.lowerAscii body)) with
    | some kind => .ok kind
    | none => .error (.unknownKind (String.ofList body))

end Synoptic.Kind
