import Synoptic.Number
import Synoptic.Decimal.Literal
import Synoptic.Decimal.Shortest

namespace Synoptic

instance : Number Float where
  add := Float.add
  sub := Float.sub
  mul := Float.mul
  div := Float.div
  neg := Float.neg
  lt x y := x < y
  le x y := x ≤ y
  beq := Float.beq
  natCast := Float.ofNat
  decLT x y := inferInstanceAs (Decidable (x < y))
  decLE x y := inferInstanceAs (Decidable (x ≤ y))
  ofScientific := Float.ofScientific
  pi := 3.141592653589793
  abs := Float.abs
  sqrt := Float.sqrt
  exp := Float.exp
  log := Float.log
  log10 := Float.log10
  sin := Float.sin
  cos := Float.cos
  tan := Float.tan
  asin := Float.asin
  acos := Float.acos
  atan := Float.atan
  sinh := Float.sinh
  cosh := Float.cosh
  tanh := Float.tanh
  pow := Float.pow
  hypot := Binary64.hypot
  atan2 := Float.atan2
  rem := Binary64.rem
  floor := Binary64.floor
  toIndex x := x.toUInt64.toNat
  round := Binary64.round
  totalLE x y := Binary64.orderKey x ≤ Binary64.orderKey y
  absent := Binary64.undefined
  text := Decimal.text
  ofChars? := Decimal.ofChars?

end Synoptic
