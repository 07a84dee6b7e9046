import Synoptic.Error
import Synoptic.Projection
import Synoptic.Level
import Synoptic.Time.Timestamp

namespace Synoptic

structure Context (α : Type) where
  projection : Projection α
  /-- Positions of pointwise evaluation; without them whole fields are computed. -/
  points : Option (Array (Point α))
  level : Option (Level α)
  upper : Option (Level α)
  lower : Option (Level α)
  time : Timestamp
  localTime : Bool
  /-- Metres that derivatives are taken over. -/
  displayDistance : α
  seriesMin : Nat
  seriesMax : Nat
  /-- Minutes from the valid time at which a series is sampled. -/
  offsets : List α

namespace Context

variable {α : Type} [Number α]

def standard (projection : Projection α) (time : Timestamp) : Context α where
  projection
  points := none
  level := none
  upper := none
  lower := none
  time
  localTime := false
  displayDistance := 1
  seriesMin := 2
  seriesMax := 5
  offsets := [-60, 0]

/-- Sets the level; a layer sets the levels above and below as well. -/
def withLevel (ctx : Context α) (level : Level α) : Context α :=
  match level.kind with
  | .layer .. => { ctx with level := some level, upper := level.upper?, lower := level.lower? }
  | _ => { ctx with level := some level }

@[simp] theorem withLevel_projection (ctx : Context α) (level : Level α) :
    (ctx.withLevel level).projection = ctx.projection := by
  rw [withLevel]
  split <;> rfl

@[simp] theorem withLevel_seriesMin (ctx : Context α) (level : Level α) :
    (ctx.withLevel level).seriesMin = ctx.seriesMin := by
  rw [withLevel]
  split <;> rfl

def withPoints (ctx : Context α) (points : Array (Point α)) : Context α :=
  { ctx with points := some points }

def withoutPoints (ctx : Context α) : Context α := { ctx with points := none }

def isPointwise (ctx : Context α) : Bool := ctx.points.isSome

def defaultGrid (ctx : Context α) : Except (ValueError α) (GridSpec α) :=
  match ctx.projection.grid with
  | some g => if g.Valid then .ok g else .error (.defaultGrid g.nx g.ny g.cell)
  | none => .error (.defaultGrid 0 0 0)

theorem defaultGrid_eq_ok {ctx : Context α} {grid : GridSpec α} :
    ctx.defaultGrid = .ok grid ↔ ctx.projection.grid = some grid ∧ grid.Valid := by
  rw [defaultGrid]
  cases ctx.projection.grid with
  | none => simp
  | some g =>
    by_cases h : g.Valid
    · simp only [if_pos h, Except.ok.injEq, Option.some.injEq]
      exact ⟨fun heq => ⟨heq, heq ▸ h⟩, And.left⟩
    · simp only [if_neg h, reduceCtorEq, Option.some.injEq, false_iff, not_and]
      exact fun heq hvalid => h (heq ▸ hvalid)

theorem valid_of_defaultGrid {ctx : Context α} {grid : GridSpec α}
    (h : ctx.defaultGrid = .ok grid) : grid.Valid := (defaultGrid_eq_ok.mp h).2

def evalPoints (ctx : Context α) : Except (ValueError α) (Array (Point α)) :=
  match ctx.points with
  | some points => .ok points
  | none => .error .noPoints

/-- Display distances in a map unit. -/
def unitFactor (ctx : Context α) : α := ctx.displayDistance / ctx.projection.frame.units

/-- The same context some minutes later, to the nearest second. Out of the calendar no time is later,
and the context keeps its own. -/
def shifted (ctx : Context α) (minutes : α) : Context α :=
  { ctx with time := ctx.time.shift (Number.round (minutes * 60)) }

end Context

end Synoptic
