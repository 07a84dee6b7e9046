import Synoptic.Operator

namespace Synoptic

variable {α : Type} [Number α]

def pressureOf (role : LevelRole) (level : Option (Level α)) : Except (ValueError α) (Value α) :=
  match level with
  | some { kind := .pressure pa, .. } => .ok (.scalar pa)
  | _ => .error (.notPressure role (level.map (·.name)))

/-- The level in a role: a bound set in the context goes before that of the layer. -/
def Context.levelFor (ctx : Context α) : LevelRole → Option (Level α)
  | .current => ctx.level
  | .upper => ctx.upper <|> ctx.level.bind (·.upper?)
  | .lower => ctx.lower <|> ctx.level.bind (·.lower?)

def runPressure (name : String) (role : LevelRole) (args : List (Value α)) (ctx : Context α) :
    Except (ValueError α) (Value α) :=
  match args with
  | [] => pressureOf role (ctx.levelFor role)
  | _ => .error (.arity name 0 args.length)

def pressureOperators : List (Operator α) :=
  [⟨"lvlprs", "lvlprs() -> Scalar", "Pressure (Pa) of the current level", [],
      .field (runPressure "lvlprs" .current)⟩,
    ⟨"uprprs", "uprprs() -> Scalar", "Pressure (Pa) of the upper level of the current layer", [],
      .field (runPressure "uprprs" .upper)⟩,
    ⟨"lwrprs", "lwrprs() -> Scalar", "Pressure (Pa) of the lower level of the current layer", [],
      .field (runPressure "lwrprs" .lower)⟩]

end Synoptic
