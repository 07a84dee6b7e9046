import Synoptic.Decimal.Shortest

namespace Synoptic.Decimal

open Binary64

def trimZeros (digits : List Char) : List Char :=
  (digits.reverse.dropWhile (· == '0')).reverse

def mantissaText : List Char → String
  | [] => "0"
  | lead :: others =>
    match trimZeros others with
    | [] => String.ofList [lead]
    | kept => String.ofList (lead :: '.' :: kept)

def significant (count num den : Nat) : Nat × Int :=
  let p := log10Ratio num den
  let (g, h) := power (p + 1 - count)
  let c := divNearest (num * h) (den * g)
  if c == Nat.pow 10 count then (Nat.pow 10 (count - 1), p + 1) else (c, p)

def magnitude (mantissa : Nat) (exponent : Int) : Nat × Nat :=
  if 0 ≤ exponent then (mantissa * Nat.pow 2 exponent.toNat, 1)
  else (mantissa, Nat.pow 2 (-exponent).toNat)

def scientific (count : Nat) (mantissa : Nat) (exponent : Int) : String :=
  let (num, den) := magnitude mantissa exponent
  let (c, p) := significant count num den
  mantissaText (Nat.toDigits 10 c) ++ "e" ++ toString p

def fixed (places : Nat) (mantissa : Nat) (exponent : Int) : String :=
  let (num, den) := magnitude mantissa exponent
  let c := divNearest (num * Nat.pow 10 places) den
  let padded := (Digits.mk c 0).positional.toList
  let digits := List.replicate (places + 1 - padded.length) '0' ++ padded
  let whole := digits.length - places
  match trimZeros (digits.drop whole) with
  | [] => String.ofList (digits.take whole)
  | kept => String.ofList (digits.take whole ++ '.' :: kept)

end Synoptic.Decimal
