import Synoptic.Number
import Synoptic.Kind
import Synoptic.Text.Quoted

namespace Synoptic

inductive Misfit (α : Type)
  | gridData (count nx ny : Nat)
  | sampleCount (points values : Nat)
  | unfittable (nx ny : Nat) (cell : α)
  | spline (columns rows : Nat) (cell : α)
  | surface (columns rows : Nat)
  | seriesTimes (times members : Nat)
  deriving DecidableEq

inductive LevelRole
  | current | upper | lower
  deriving DecidableEq

inductive ValueError (α : Type)
  | unknownKind (tag : String)
  | conversion (source target : Kind)
  | defaultGrid (nx ny : Nat) (cell : α)
  | shape (op : String) (misfit : Misfit α)
  | points (op : String)
  | incompatible (op : String) (left right : Kind)
  | divideByZero (op : String)
  | seriesLength (length least most : Nat)
  | mixedSeries (first other : Kind)
  | repeatedTime (time : α)
  | notPressure (role : LevelRole) (level : Option String)
  | outOfDomain (op : String) (value : α)
  | noPoints
  | arity (op : String) (expected got : Nat)
  deriving DecidableEq

variable {α : Type} [Number α]

def Misfit.message : Misfit α → String
  | .gridData count nx ny => s!"{count} values for a {nx}x{ny} grid"
  | .sampleCount points values => s!"{points} points but {values} values"
  | .unfittable nx ny cell =>
    s!"cannot fit a {nx}x{ny} grid with cell size {Number.text cell}"
  | .spline columns rows cell =>
    s!"spline of {columns}x{rows} coefficients with cell size {Number.text cell}"
  | .surface columns rows => s!"spline of {columns}x{rows} coefficients"
  | .seriesTimes times members => s!"{times} sample times for {members} members"

def LevelRole.name : LevelRole → String
  | .current => "current"
  | .upper => "upper"
  | .lower => "lower"

def levelText : Option String → String
  | none => "None"
  | some name => "Some(" ++ Text.quoted name ++ ")"

def ValueError.message : ValueError α → String
  | .unknownKind tag => s!"unknown value kind: {tag}"
  | .conversion source target => s!"cannot convert {source.name} to {target.name}"
  | .defaultGrid nx ny cell =>
    s!"default evaluation grid is not usable (nx={nx}, ny={ny}, cell_size={Number.text cell})"
  | .shape op misfit => s!"shape mismatch in {op}: {misfit.message}"
  | .points op => s!"{op}: vector lists are defined over different points"
  | .incompatible op left right => s!"{op}: cannot combine {left.name} with {right.name}"
  | .divideByZero op => s!"{op}: division by zero"
  | .seriesLength length least most =>
    s!"time series has {length} members, expected {least}..={most}"
  | .mixedSeries first other => s!"time series mixes {first.name} and {other.name} members"
  | .repeatedTime time => s!"time series has more than one member at t={Number.text time}"
  | .notPressure role level =>
    s!"{role.name} level {levelText level} is not a constant-pressure level"
  | .outOfDomain op value => s!"{op}: argument {Number.text value} is outside the valid domain"
  | .noPoints => "pointwise evaluation requested without evaluation points"
  | .arity op expected got => s!"{op} expects {expected} arguments, got {got}"

end Synoptic
