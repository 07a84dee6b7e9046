import Synoptic.Operator.Arithmetic
import Synoptic.Operator.Derivative
import Synoptic.Operator.Elementary
import Synoptic.Operator.Place
import Synoptic.Operator.Pressure
import Synoptic.Operator.Range
import Synoptic.Operator.Solar
import Synoptic.Operator.Tendency
import Synoptic.Operator.Vapour

namespace Synoptic.Catalogue

variable {α : Type} [Number α]

def operators : List (Operator α) :=
  arithmeticOperators ++ rangeOperators ++ derivativeOperators ++ tendencyOperators ++
    placeOperators ++ pressureOperators ++ elementaryOperators ++ solarOperators ++
    vapourOperators

def find? (name : String) : Option (Operator α) :=
  operators.find? fun o => Text.sameAscii o.name name

end Synoptic.Catalogue
