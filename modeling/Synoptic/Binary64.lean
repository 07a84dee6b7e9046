namespace Synoptic.Binary64

inductive Parts
  | nan
  | infinite (negative : Bool)
  | finite (negative : Bool) (mantissa : Nat) (exponent : Int)
  deriving DecidableEq

def leastExponent : Int := -1074

def parts (x : Float) : Parts :=
  let bits := x.toBits.toNat
  let negative := bits / Nat.pow 2 63 == 1
  let exponent : Nat := bits / Nat.pow 2 52 % Nat.pow 2 11
  let fraction := bits % Nat.pow 2 52
  if exponent == 2047 then
    if fraction == 0 then .infinite negative else .nan
  else if exponent == 0 then .finite negative fraction leastExponent
  else .finite negative (Nat.pow 2 52 + fraction) ((exponent : Int) - 1 + leastExponent)

def isFinite (x : Float) : Bool :=
  match parts x with
  | .finite .. => true
  | _ => false

def withSign (negative : Bool) (magnitude : Nat) : Float :=
  Float.ofBits (UInt64.ofNat (if negative then Nat.pow 2 63 + magnitude else magnitude))

def infinity (negative : Bool) : Float := withSign negative (2047 * Nat.pow 2 52)

def undefined : Float := 0 / 0

def divNearest (num den : Nat) : Nat :=
  let q := num / den
  let r := num % den
  if 2 * r < den then q else if den < 2 * r then q + 1 else q + q % 2

def scaled (num den : Nat) (e : Int) : Nat × Nat :=
  if 0 ≤ e then (num, den * Nat.pow 2 e.toNat) else (num * Nat.pow 2 (-e).toNat, den)

def log2Ratio (num den : Nat) : Int :=
  let k : Int := (num.log2 : Int) - den.log2
  let (a, b) := scaled num den k
  if b ≤ a then k else k - 1

/-- The number nearest to `± num / den`, a tie going to the even mantissa. The magnitude's bits are
the mantissa added to the exponent's field, so a mantissa that rounds up to the next power of two
carries into the exponent, and past the largest exponent it is the infinity. -/
def ofRatio (negative : Bool) (num den : Nat) : Float :=
  if num == 0 then withSign negative 0
  else
    let e := max leastExponent (log2Ratio num den - 52)
    let (a, b) := scaled num den e
    let magnitude := (e - leastExponent).toNat * Nat.pow 2 52 + divNearest a b
    if 2047 * Nat.pow 2 52 ≤ magnitude then infinity negative else withSign negative magnitude

def ofScaled (negative : Bool) (mantissa : Nat) (exponent : Int) : Float :=
  if 0 ≤ exponent then ofRatio negative (mantissa * Nat.pow 2 exponent.toNat) 1
  else ofRatio negative mantissa (Nat.pow 2 (-exponent).toNat)

def rem (x y : Float) : Float :=
  match parts x, parts y with
  | .finite negative m p, .finite _ n q =>
    if n == 0 then undefined
    else
      let e := min p q
      ofScaled negative (m * Nat.pow 2 (p - e).toNat % (n * Nat.pow 2 (q - e).toNat)) e
  | .finite .., .infinite _ => x
  | _, _ => undefined

def wholeFrom : Float := 9007199254740992

def floor (x : Float) : Float :=
  if x == 0 then x
  else if 0 < x && x < wholeFrom then x.toUInt64.toFloat
  else if -wholeFrom < x && x < 0 then
    let t := -(-x).toUInt64.toFloat
    if t == x then x else t - 1
  else x

/-- Nearest 64-bit integer, a half going away from zero; beyond the range its nearer end. -/
def round (x : Float) : Int :=
  let magnitude (y : Float) : Nat :=
    let t := y.toUInt64
    if y < wholeFrom && 0.5 ≤ y - t.toFloat then t.toNat + 1 else t.toNat
  if 0 < x then min (magnitude x) (Nat.pow 2 63 - 1)
  else if x < 0 then -min (magnitude (-x)) (Nat.pow 2 63)
  else 0

def hypot (x y : Float) : Float :=
  let a := x.abs
  let b := y.abs
  if a == infinity false || b == infinity false then infinity false
  else
    let hi := if a < b then b else a
    let lo := if a < b then a else b
    if hi > 1e150 then
      let s := ofScaled false 1 600
      let u := hi / s
      let v := lo / s
      s * (u * u + v * v).sqrt
    else if lo < 1e-150 && hi < 1e-130 then
      let s := ofScaled false 1 600
      let u := hi * s
      let v := lo * s
      (u * u + v * v).sqrt / s
    else (hi * hi + lo * lo).sqrt

/-- Position in the total order: by sign and magnitude, a negative zero before the positive one. -/
def orderKey (x : Float) : Int :=
  let bits := x.toBits.toNat
  if Nat.pow 2 63 ≤ bits then Nat.pow 2 63 - 1 - (bits : Int) else bits

end Synoptic.Binary64
