import Mathlib.Logic.Basic
import Mathlib.Tactic.SplitIfs
import Synoptic.Configuration
import Synoptic.Proofs.Binary64.Comparison
import Synoptic.Proofs.Outcome

namespace Synoptic.Configuration

variable {α : Type} [Number α]

theorem validate_eq_ok {c : Configuration α} :
    c.validate = .ok () ↔ c.apiVersion = standardVersion ∧ c.kind = standardKind ∧ c.grid.Valid ∧
      ¬ c.frame.units ≤ 0 ∧ 2 ≤ c.seriesMin ∧ c.seriesMin ≤ c.seriesMax := by
  rw [validate]
  split_ifs with hversion hkind hgrid hunits hlimits
  · exact iff_of_false nofun fun h => hversion h.1
  · exact iff_of_false nofun fun h => hkind h.2.1
  · exact iff_of_false nofun fun h => h.2.2.2.1 hunits
  · refine iff_of_false nofun fun h => ?_
    omega
  · have hseries : 2 ≤ c.seriesMin ∧ c.seriesMin ≤ c.seriesMax := by omega
    exact iff_of_true rfl ⟨not_not.mp hversion, not_not.mp hkind, hgrid, hunits, hseries⟩
  · exact iff_of_false nofun fun h => hgrid h.2.2.1

theorem validate_of_ofText {read : String → Option (Configuration α)} {text : String}
    {c : Configuration α} (h : ofText read text = .ok c) : c.validate = .ok () := by
  rw [ofText] at h
  split at h
  · rename_i c' _
    cases hc : c'.validate with
    | ok u =>
      rw [hc] at h
      cases h
      exact hc
    | error e =>
      rw [hc] at h
      cases h
  · cases h

/-- The level above or below that a context is to have: the one that is named, else the bound of the
current level if that is a layer. -/
def outerLevel (named level : Option String) (bound : α → α → α) : Option (Level α) :=
  match named, level.map Level.read with
  | some name, _ => some (.read name)
  | none, some ⟨_, .layer upper lower⟩ => some (.ofPressure (bound upper lower))
  | none, _ => none

theorem context_projection (c : Configuration α) : c.context.projection = c.mapProjection := by
  rw [context]
  cases c.level with
  | none => rfl
  | some name =>
    dsimp only
    rw [Context.withLevel_projection]
    rfl

theorem context_seriesMin (c : Configuration α) : c.context.seriesMin = c.seriesMin := by
  rw [context]
  cases c.level with
  | none => rfl
  | some name =>
    dsimp only
    rw [Context.withLevel_seriesMin]

theorem context_seriesMax (c : Configuration α) : c.context.seriesMax = c.seriesMax := by
  rw [context]
  cases c.level with
  | none => rfl
  | some name =>
    dsimp only
    rw [Context.withLevel]
    split <;> rfl

theorem context_upper (c : Configuration α) :
    c.context.upper = outerLevel c.upperLevel c.level fun upper _ => upper := by
  simp only [context, outerLevel.eq_def]
  cases c.upperLevel with
  | some name => rfl
  | none =>
    cases c.level with
    | none => rfl
    | some name =>
      simp only [Option.map_some, Context.withLevel]
      cases Level.read (α := α) name with
      | mk name kind => cases kind <;> rfl

theorem context_lower (c : Configuration α) :
    c.context.lower = outerLevel c.lowerLevel c.level fun _ lower => lower := by
  simp only [context, outerLevel.eq_def]
  cases c.lowerLevel with
  | some name => rfl
  | none =>
    cases c.level with
    | none => rfl
    | some name =>
      simp only [Option.map_some, Context.withLevel]
      cases Level.read (α := α) name with
      | mk name kind => cases kind <;> rfl

structure Settled (c : Configuration α) : Prop where
  grid : ∃ grid, c.context.defaultGrid = .ok grid ∧ 2 ≤ grid.nx ∧ 2 ≤ grid.ny ∧ 0 < grid.cell
  least : 2 ≤ c.context.seriesMin
  most : c.context.seriesMin ≤ c.context.seriesMax
  upper : c.context.upper = outerLevel c.upperLevel c.level fun upper _ => upper
  lower : c.context.lower = outerLevel c.lowerLevel c.level fun _ lower => lower

structure Usable (c : Configuration α) : Prop extends Settled c where
  units : 0 < c.context.projection.frame.units

theorem settled_of_validate {c : Configuration α} (h : c.validate = .ok ()) : c.Settled := by
  obtain ⟨_, _, hgrid, _, hleast, hmost⟩ := validate_eq_ok.mp h
  constructor
  · refine ⟨c.grid, Context.defaultGrid_eq_ok.mpr ⟨?_, hgrid⟩, hgrid⟩
    rw [context_projection]
    rfl
  · rw [context_seriesMin]
    exact hleast
  · rw [context_seriesMin, context_seriesMax]
    exact hmost
  · exact c.context_upper
  · exact c.context_lower

/-- Whatever an accepted text says and whoever reads it, its context has a default grid, limits of a
series and the levels that are named or bound its layer. Its map units are above zero, unless they
are undefined. -/
theorem usable_iff_of_ofText {read : String → Option (Configuration Float)} {text : String}
    {c : Configuration Float} (h : ofText read text = .ok c) :
    c.Settled ∧ (c.Usable ↔ c.frame.units.isNaN = false) := by
  have hvalid := validate_of_ofText h
  have hsettled := settled_of_validate hvalid
  have hunits : 0 < c.frame.units ↔ c.frame.units.isNaN = false :=
    Binary64.lt_iff_of_not_le (by decide +kernel) (validate_eq_ok.mp hvalid).2.2.2.1
  have hframe : c.context.projection.frame = c.frame := by
    rw [context_projection]
    rfl
  refine ⟨hsettled, fun husable => hunits.mp (hframe ▸ husable.units), fun hnumber => ?_⟩
  exact ⟨hsettled, hframe ▸ hunits.mpr hnumber⟩

def latLonText (units : String) (more : List String) : String :=
  "\n".intercalate
    (["projection:", "  type: lat_lon", "grid:", "  nx: 2", "  ny: 3", "  cell_size: 0.5", "map:",
      "  olat: 0", "  olon: 0", "  lref: 0", "  xorg: 0", "  yorg: 0", "  xlen: 0", "  ylen: 0",
      "  units: " ++ units, "validTime: 2026-03-01T12:00:00"] ++ more)

theorem usable_iff_of_ofText_layer :
    ∃ c : Configuration Float,
      ofText readYaml? (latLonText "2.5" ["level: 1000-500", "lowerLevel: 700"]) = .ok c ∧
        c.Usable ∧
        c.context.upper = some (.ofPressure 50000) ∧ c.context.lower = some (.read "700") := by
  have hread : (ofText readYaml?
      (latLonText "2.5" ["level: 1000-500", "lowerLevel: 700"])).toOption.any
      (fun c : Configuration Float => !c.frame.units.isNaN &&
        (c.context.upper = some (.ofPressure 50000) ∧ c.context.lower = some (.read "700"))) =
        true := by decide +kernel
  obtain ⟨c, hc, hread⟩ := exists_ok_of_any hread
  obtain ⟨hnumber, hlevels⟩ := Bool.and_eq_true_iff.mp hread
  exact ⟨c, hc, (usable_iff_of_ofText hc).2.mpr (Bool.not_eq_true' _ ▸ hnumber),
    of_decide_eq_true hlevels⟩

/-- Undefined units are accepted. -/
theorem not_usable_of_ofText :
    ∃ c : Configuration Float,
      ofText readYaml? (latLonText ".nan" []) = .ok c ∧ ¬ c.Usable := by
  have hread : (ofText readYaml? (latLonText ".nan" [])).toOption.any
      (fun c : Configuration Float => !decide (0 < c.context.projection.frame.units)) = true := by
    decide +kernel
  obtain ⟨c, hc, hunits⟩ := exists_ok_of_any hread
  refine ⟨c, hc, fun husable => ?_⟩
  rw [decide_eq_true husable.units] at hunits
  cases hunits

end Synoptic.Configuration
