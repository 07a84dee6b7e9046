import Synoptic.Binary64

namespace Synoptic.Decimal

inductive Literal
  | nan
  | infinite (negative : Bool)
  | decimal (negative : Bool) (coefficient : Nat) (exponent : Int)
  deriving DecidableEq

def naturalOf (digits : List Char) : Nat :=
  digits.foldl (fun n c => 10 * n + (c.toNat - '0'.toNat)) 0

def splitSign : List Char → Bool × List Char
  | '-' :: r => (true, r)
  | '+' :: r => (false, r)
  | r => (false, r)

def exponent? (text : List Char) : Option Int :=
  let (negative, digits) := splitSign text
  if digits.isEmpty || !digits.all Char.isDigit then none
  else some (if negative then -(naturalOf digits : Int) else naturalOf digits)

def unsigned? (negative : Bool) (text : List Char) : Option Literal :=
  let whole := text.takeWhile Char.isDigit
  let rest := text.dropWhile Char.isDigit
  let (fraction, rest) :=
    match rest with
    | '.' :: r => (r.takeWhile Char.isDigit, r.dropWhile Char.isDigit)
    | r => ([], r)
  if whole.isEmpty && fraction.isEmpty then none
  else
    let coefficient := naturalOf (whole ++ fraction)
    match rest with
    | [] => some (.decimal negative coefficient (-(fraction.length : Int)))
    | c :: r =>
      if c == 'e' || c == 'E' then
        (exponent? r).map fun e => .decimal negative coefficient (e - fraction.length)
      else none

def Literal.ofChars? (text : List Char) : Option Literal :=
  let (negative, body) := splitSign text
  let name := body.map Char.toLower
  if name == ['i', 'n', 'f'] || name == ['i', 'n', 'f', 'i', 'n', 'i', 't', 'y'] then
    some (.infinite negative)
  else if name == ['n', 'a', 'n'] then some .nan
  else unsigned? negative body

/-- Past these bounds on its leading digit's place a number is infinite or zero. -/
def nearest (negative : Bool) (coefficient : Nat) (exponent : Int) : Float :=
  let lead : Int := exponent + (Nat.toDigits 10 coefficient).length
  if coefficient == 0 || lead < -330 then Binary64.ofRatio negative 0 1
  else if 310 < lead then Binary64.infinity negative
  else if 0 ≤ exponent then Binary64.ofRatio negative (coefficient * Nat.pow 10 exponent.toNat) 1
  else Binary64.ofRatio negative coefficient (Nat.pow 10 (-exponent).toNat)

def Literal.toFloat : Literal → Float
  | .nan => Binary64.undefined
  | .infinite negative => Binary64.infinity negative
  | .decimal negative coefficient exponent => nearest negative coefficient exponent

def ofChars? (text : List Char) : Option Float := (Literal.ofChars? text).map Literal.toFloat

end Synoptic.Decimal
