import Synoptic.Operator.Place

namespace Synoptic

structure SolarPosition (α : Type) where
  gamma : α
  declination : α
  equationOfTime : α
  minutes : α

namespace SolarPosition

variable {α : Type} [Number α]

open Number

def ofTime (t : Timestamp) : SolarPosition α :=
  let minutes : α := (t.hour : α) * 60 + (t.minute : α) + (t.second : α) / 60
  let days : α := (daysInYear t.date.year : α)
  let gamma := 2 * pi / days * ((t.date.dayOfYear : α) + (minutes / 60 - 12) / 24)
  let s1 := sin gamma
  let c1 := cos gamma
  let s2 := sin (2 * gamma)
  let c2 := cos (2 * gamma)
  let s3 := sin (3 * gamma)
  let c3 := cos (3 * gamma)
  { gamma
    declination :=
      0.006918 - 0.399912 * c1 + 0.070257 * s1 - 0.006758 * c2 + 0.000907 * s2 - 0.002697 * c3 +
        0.00148 * s3
    equationOfTime :=
      229.18 * (0.000075 + 0.001868 * c1 - 0.032077 * s1 - 0.014615 * c2 - 0.040849 * s2)
    minutes }

def zenith (sun : SolarPosition α) (lat lon : α) : α :=
  let trueSolar := sun.minutes + sun.equationOfTime + 4 * lon
  let hourAngle := toRadians (trueSolar / 4 - 180)
  let phi := toRadians lat
  let c := sin phi * sin sun.declination + cos phi * cos sun.declination * cos hourAngle
  toDegrees (acos (clamp c (-1) 1))

def distance (sun : SolarPosition α) : α :=
  let g := sun.gamma
  let inverseSquare :=
    1.000110 + 0.034221 * cos g + 0.001280 * sin g + 0.000719 * cos (2 * g) +
      0.000077 * sin (2 * g)
  1 / sqrt inverseSquare

end SolarPosition

variable {α : Type} [Number α]

/-- Zenith angle at a position. Local time accounts for the longitude already. -/
def sunAngle (ctx : Context α) (p : Point α) : α :=
  let (lat, lon) := ctx.projection.latLon p
  (SolarPosition.ofTime ctx.time).zenith lat (if ctx.localTime then 0 else lon)

def sunDistance (ctx : Context α) (_ : Point α) : α := (SolarPosition.ofTime ctx.time).distance

def solarOperators : List (Operator α) :=
  [⟨"sunang", "sunang() -> Value", "Solar zenith angle (degrees) at the valid time", [],
      .field (runPlace "sunang" sunAngle)⟩,
    ⟨"sundist", "sundist() -> Value", "Earth-Sun distance (AU) at the valid time", [],
      .field (runPlace "sundist" sunDistance)⟩]

end Synoptic
