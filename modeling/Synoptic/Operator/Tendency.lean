import Synoptic.Operator
import Synoptic.Spline.Series

namespace Synoptic

variable {α : Type} [Number α]

def repeated? : List α → Option α
  | a :: b :: rest => if a == b then some a else repeated? (b :: rest)
  | _ => none

def onGrid (ctx : Context α) : Value α → Except (ValueError α) (Value α)
  | .spline s => .grid <$> splineToGrid s ctx
  | .grid g => .grid <$> normalizeGrid g ctx
  | v => .ok v

def tendency (times : List α) (members : List (Value α)) (ctx : Context α) :
    Except (ValueError α) (Value α) := do
  let length := members.length
  if length < ctx.seriesMin ∨ ctx.seriesMax < length then
    .error (.seriesLength length ctx.seriesMin ctx.seriesMax)
  else if times.length ≠ length then .error (.shape "ddt" (.seriesTimes times.length length))
  else
    let kinds := members.map (·.kind)
    let first := kinds.headD .scalar
    match kinds.find? (· ≠ first) with
    | some other => .error (.mixedSeries first other)
    | none =>
      let sorted := (times.zip members).mergeSort fun a b => Number.totalLE a.1 b.1
      let sortedTimes := sorted.map (·.1)
      match repeated? sortedTimes with
      | some time => .error (.repeatedTime time)
      | none =>
        let values ← sorted.mapM fun (_, member) => onGrid ctx member
        let aligned ← align "ddt" values ctx
        .ok (aligned.apply fun xs => Series.slopeAt sortedTimes xs 0 / 60)

def tendencyOperators : List (Operator α) :=
  [⟨"ddt", "ddt(f) -> Value", "Time derivative (per second) at the valid time", [true],
      .series tendency⟩]

end Synoptic
