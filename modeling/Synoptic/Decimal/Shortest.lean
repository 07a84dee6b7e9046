import Synoptic.Binary64

namespace Synoptic.Decimal

open Binary64

structure Digits where
  coefficient : Nat
  exponent : Int
  deriving DecidableEq

def power (k : Int) : Nat × Nat :=
  if 0 ≤ k then (Nat.pow 10 k.toNat, 1) else (1, Nat.pow 10 (-k).toNat)

def log10Ratio (num den : Nat) : Int :=
  let guess := (log2Ratio num den * 30103).fdiv 100000
  let reaches (p : Int) : Bool := let (g, h) := power p; g * den ≤ num * h
  if reaches (guess + 1) then guess + 1 else if reaches guess then guess else guess - 1

/-- Numbers that round to `mantissa · 2 ^ exponent`, in quarters of its last place: the lower half
gap is narrower where the exponent changes, and the ends belong to it when the mantissa is even. -/
structure Basin where
  low : Nat
  mid : Nat
  high : Nat
  closed : Bool

def basin (mantissa : Nat) (exponent : Int) : Basin where
  low := 4 * mantissa - if mantissa == Nat.pow 2 52 && leastExponent < exponent then 1 else 2
  mid := 4 * mantissa
  high := 4 * mantissa + 2
  closed := mantissa % 2 == 0

def Basin.contains (b : Basin) (unitNum unitDen num den : Nat) : Bool :=
  let x := num * unitDen
  let low := b.low * unitNum * den
  let high := b.high * unitNum * den
  if b.closed then low ≤ x && x ≤ high else low < x && x < high

def gridDigits? (b : Basin) (unitNum unitDen : Nat) (k : Int) : Option Digits :=
  let (g, h) := power k
  let num := b.mid * unitNum * h
  let den := unitDen * g
  let c := num / den
  let below := b.contains unitNum unitDen (c * g) h
  let above := b.contains unitNum unitDen ((c + 1) * g) h
  let up := den ≤ 2 * (num % den)
  if above && (up || !below) then some ⟨c + 1, k⟩
  else if below then some ⟨c, k⟩
  else none

/-- Fewest digits that round to a positive `mantissa · 2 ^ exponent`; seventeen always do. The search
starts one place above the leading digit, where a power of ten may be the nearest. -/
def shortest (mantissa : Nat) (exponent : Int) : Digits :=
  let b := basin mantissa exponent
  let e := exponent - 2
  let unitNum := if 0 ≤ e then Nat.pow 2 e.toNat else 1
  let unitDen := if 0 ≤ e then 1 else Nat.pow 2 (-e).toNat
  let p := log10Ratio (b.mid * unitNum) unitDen
  let found := (List.range 18).findSome? fun (n : Nat) => gridDigits? b unitNum unitDen (p + 1 - n)
  found.getD ⟨mantissa, exponent⟩

def Digits.positional (d : Digits) : String :=
  let digits := Nat.toDigits 10 d.coefficient
  if 0 ≤ d.exponent then String.ofList (digits ++ List.replicate d.exponent.toNat '0')
  else
    let places := (-d.exponent).toNat
    let padded := List.replicate (places + 1 - digits.length) '0' ++ digits
    let whole := padded.length - places
    String.ofList (padded.take whole ++ '.' :: padded.drop whole)

def text (x : Float) : String :=
  match parts x with
  | .nan => "NaN"
  | .infinite negative => if negative then "-inf" else "inf"
  | .finite negative mantissa exponent =>
    let sign := if negative then "-" else ""
    if mantissa == 0 then sign ++ "0" else sign ++ (shortest mantissa exponent).positional

end Synoptic.Decimal
