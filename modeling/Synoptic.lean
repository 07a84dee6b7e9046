import Synoptic.Binary64.Scalar
import Synoptic.Components.Serial
import Synoptic.Decimal.Rounded
import Synoptic.Document.Json
import Synoptic.Expr.Serial
import Synoptic.Kind.Tag
import Synoptic.Workbench
import Synoptic.Proofs.Catalogue
import Synoptic.Proofs.Outcome
import Synoptic.Proofs.Typing.Alignment
import Synoptic.Proofs.Typing.Evaluation
import Synoptic.Proofs.Coherence
import Synoptic.Proofs.Meaning
import Synoptic.Proofs.History
import Synoptic.Proofs.Reals
import Synoptic.Proofs.Spline.Linear
import Synoptic.Proofs.Sampling.Agreement
import Synoptic.Proofs.Sampling.Arithmetic
import Synoptic.Proofs.Sampling.Operators
import Synoptic.Proofs.Sampling.Evaluation
import Synoptic.Proofs.Spline.Calculus
import Synoptic.Proofs.Gradient
import Synoptic.Proofs.Spline.Partials
import Synoptic.Proofs.Spline.Bilinear
import Synoptic.Proofs.Sampling.Coefficients
import Synoptic.Proofs.Spline.Interpolation
import Synoptic.Proofs.Cache.Replacement
import Synoptic.Proofs.Cache.Registry
import Synoptic.Proofs.Commutation
import Synoptic.Proofs.Conversion
import Synoptic.Proofs.Addition
import Synoptic.Proofs.Series.Curve
import Synoptic.Proofs.Series.Slope
import Synoptic.Proofs.Series.Defined
import Synoptic.Proofs.Bounds.Access
import Synoptic.Proofs.Bounds.Elimination
import Synoptic.Proofs.Bounds.Fitting
import Synoptic.Proofs.Bounds.Sampling
import Synoptic.Proofs.Bounds.Alignment
import Synoptic.Proofs.Bounds.Series
import Synoptic.Proofs.Bounds.Operators
import Synoptic.Proofs.Bounds.Tendency
import Synoptic.Proofs.Bounds.Catalogue
import Synoptic.Proofs.Bounds.Database
import Synoptic.Proofs.Bounds.Evaluation
import Synoptic.Proofs.Bounds.Binary64
import Synoptic.Proofs.Queries.Failure
import Synoptic.Proofs.Demand
import Synoptic.Proofs.Refusal.Operators
import Synoptic.Proofs.Refusal.Evaluation
import Synoptic.Proofs.Cache.Stamp
import Synoptic.Proofs.Queries.Entry
import Synoptic.Proofs.Queries.Pair
import Synoptic.Proofs.Queries.Vector
import Synoptic.Proofs.Projection.Turns
import Synoptic.Proofs.Projection.Angle
import Synoptic.Proofs.Rotation
import Synoptic.Proofs.Projection.Inversion
import Synoptic.Proofs.Footprint
import Synoptic.Proofs.Repetition
import Synoptic.Proofs.Filing.Stamp
import Synoptic.Proofs.Filing.Path
import Synoptic.Proofs.Filing.Separation
import Synoptic.Proofs.Projection.Equality
import Synoptic.Proofs.Queries.Keeping
import Synoptic.Proofs.Queries.Consistency
import Synoptic.Proofs.Binary64.Comparison
import Synoptic.Proofs.Binary64.Order
import Synoptic.Proofs.Configuration
import Synoptic.Proofs.Series.Order
import Synoptic.Proofs.Alignment.Family
import Synoptic.Proofs.Alignment.Order
import Synoptic.Proofs.Alignment.Nodes
import Synoptic.Proofs.Queries.Fetching
import Synoptic.Proofs.Serial.Timestamp
import Synoptic.Proofs.Serial.Document
import Synoptic.Proofs.Serial.Projection
import Synoptic.Proofs.Serial.Expression
import Synoptic.Proofs.Time.Calendar
import Synoptic.Proofs.Time.Shift
import Synoptic.Proofs.Text.Fold
import Synoptic.Proofs.Keyed
import Synoptic.Proofs.Filing.Retrieval
import Synoptic.Proofs.Workbench
import Synoptic.Proofs.Cache.Slots
import Synoptic.Proofs.Cache.Extension
import Synoptic.Proofs.Queries.Tidiness
import Synoptic.Proofs.Standing
import Synoptic.Proofs.Expansion
import Synoptic.Proofs.Alignment.Operands
import Synoptic.Proofs.Alignment.Stability
import Synoptic.Proofs.Division
import Synoptic.Proofs.Range
import Synoptic.Proofs.Declaration
import Synoptic.Proofs.Filing.Matching
import Synoptic.Proofs.Curvature
import Synoptic.Proofs.Binary64.Defined
import Synoptic.Proofs.Sampling.Listing
import Synoptic.Proofs.Projection.North
import Synoptic.Proofs.Spline.Uniform
import Synoptic.Proofs.Binary64.Product
import Synoptic.Proofs.Text.Padding
import Synoptic.Proofs.Decimal.Hyphen
import Synoptic.Proofs.Level.Pressure
import Synoptic.Proofs.Level.Layer
