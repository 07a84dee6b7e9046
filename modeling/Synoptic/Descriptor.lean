import Synoptic.Field
import Synoptic.Time.Timestamp
import Synoptic.Text.Case

namespace Synoptic

structure Descriptor (α : Type) where
  source : String
  subsource : String := ""
  runTime : Option Timestamp := none
  validTime : Option Timestamp := none
  element : String
  level : String
  kind : FieldKind
  projection : Option (Projection α) := none
  deriving BEq, DecidableEq

namespace Descriptor

variable {α : Type}

def component (d : Descriptor α) (element : String) (kind : FieldKind) : Descriptor α :=
  { d with element, kind }

def SameField (a b : Descriptor α) : Prop :=
  a.source = b.source ∧ a.subsource = b.subsource ∧ a.runTime = b.runTime
    ∧ a.validTime = b.validTime ∧ a.element = b.element ∧ a.level = b.level ∧ a.kind = b.kind

instance (a b : Descriptor α) : Decidable (SameField a b) := by unfold SameField; infer_instance

def normalized (d : Descriptor α) : Descriptor α :=
  { d with
    source := Text.fold d.source
    subsource := Text.fold d.subsource
    element := Text.fold d.element
    level := Text.fold d.level }

/-- The same field up to blanks and case in names. -/
def Matches (a b : Descriptor α) : Prop := SameField a.normalized b.normalized

instance (a b : Descriptor α) : Decidable (Matches a b) := by unfold Matches; infer_instance

def display (d : Descriptor α) : String :=
  let subsource := if d.subsource.isEmpty then "" else ":" ++ d.subsource
  let valid := match d.validTime with
    | some t => " valid " ++ t.display
    | none => ""
  s!"{d.source}{subsource} {d.element} {d.level} ({d.kind.name}){valid}"

end Descriptor

end Synoptic
