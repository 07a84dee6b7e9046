import Synoptic.Operator

namespace Synoptic

variable {α : Type} [Number α]

def runPlace (name : String) (f : Context α → Point α → α) (args : List (Value α))
    (ctx : Context α) : Except (ValueError α) (Value α) :=
  match args with
  | [] => sample ctx (f ctx)
  | _ => .error (.arity name 0 args.length)

def placeOperators : List (Operator α) :=
  [⟨"lat", "lat() -> Value", "Latitude (degrees) of each evaluation position", [],
      .field (runPlace "lat" fun ctx p => (ctx.projection.latLon p).1)⟩,
    ⟨"lon", "lon() -> Value", "Longitude (degrees) of each evaluation position", [],
      .field (runPlace "lon" fun ctx p => (ctx.projection.latLon p).2)⟩]

end Synoptic
