import Synoptic.Spline

namespace Synoptic

inductive FieldKind
  | continuous | vector | discrete | wind | line | scattered | lchain
  deriving DecidableEq

def FieldKind.all : List FieldKind :=
  [.continuous, .vector, .discrete, .wind, .line, .scattered, .lchain]

def FieldKind.name : FieldKind → String
  | .continuous => "continuous"
  | .vector => "vector"
  | .discrete => "discrete"
  | .wind => "wind"
  | .line => "line"
  | .scattered => "scattered"
  | .lchain => "lchain"

def FieldKind.ofName? (name : String) : Option FieldKind := all.find? (·.name == name)

inductive FeatureSet
  | areas | curves | plots | spots | lchains
  deriving DecidableEq

def FeatureSet.all : List FeatureSet := [.areas, .curves, .plots, .spots, .lchains]

def FeatureSet.name : FeatureSet → String
  | .areas => "areas"
  | .curves => "curves"
  | .plots => "plots"
  | .spots => "spots"
  | .lchains => "lchains"

inductive Category
  | surface
  | features (set : FeatureSet)
  deriving DecidableEq

def Category.all : List Category := .surface :: FeatureSet.all.map .features

def Category.name : Category → String
  | .surface => "surface"
  | .features set => set.name

structure Feature (α : Type) where
  label : String
  points : List (Point α)
  value : Option α
  deriving BEq, DecidableEq

inductive Field (α : Type)
  | surface (components : List (Spline α))
  | features (set : FeatureSet) (items : List (Feature α))
  deriving DecidableEq

namespace Field

variable {α : Type}

def category : Field α → Category
  | .surface _ => .surface
  | .features set _ => .features set

def single? : Field α → Option (Spline α)
  | .surface [s] => some s
  | _ => none

def isVector : Field α → Bool
  | .surface [_, _] => true
  | _ => false

def grid? [Number α] : Field α → Option (GridSpec α)
  | .surface (s :: _) => some s.nodes
  | _ => none

/-- A projection with the grid of the field, if it has one. -/
def stamp [Number α] (f : Field α) (p : Projection α) : Projection α :=
  match f.grid? with
  | some grid => p.withGrid grid
  | none => p

end Field

end Synoptic
