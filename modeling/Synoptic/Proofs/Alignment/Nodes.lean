import Synoptic.Proofs.Addition
import Synoptic.Proofs.Alignment.Order

namespace Synoptic

variable {α : Type} [Number α]

/-- What a value has at a node by itself: a surface is sampled, and the grid is brought onto the
default one if it is to be resampled. -/
def nodeValue (op : String) (ctx : Context α) (resample : Bool) (ix iy : Nat) :
    Value α → Except (ValueError α) α
  | .scalar x => .ok x
  | .grid g => (·.get ix iy) <$> bring ctx resample g
  | .spline s => do
    let g ← splineToGrid s ctx
    (·.get ix iy) <$> bring ctx resample g
  | .samples _ => .error (.points op)

theorem BroughtFrom.nodeValue_eq {ctx : Context α} {resample : Bool} {v : Value α}
    {grid : Option (Grid α)} (h : BroughtFrom ctx resample v grid) {nx : Nat}
    (hnx : ∀ g, grid = some g → g.nx = nx) (op : String) (ix iy : Nat) :
    nodeValue op ctx resample ix iy v = .ok ((gridOperand v grid).elem (iy * nx + ix)) := by
  cases h with
  | number x => rfl
  | grid h =>
    rw [nodeValue, h, ← hnx _ rfl]
    rfl
  | surface hs h =>
    rw [nodeValue, hs, ok_bind, h, ← hnx _ rfl]
    rfl

/-- The grids of some values, once surfaces are sampled, do not all share one shape. -/
def Differ {n : Nat} (op : String) (ctx : Context α) (values : Fin n → Value α) : Prop :=
  ∃ i j, i ≠ j ∧ ∃ g g', gridOf op ctx (values i) = .ok (some g) ∧
    gridOf op ctx (values j) = .ok (some g') ∧ (g.spec == g'.spec) = false

section Fields

variable [PartialEquivBEq α] {n : Nat} {op : String} {ctx : Context α} {values : Fin n → Value α}
  {sampled grids : Fin n → Option (Grid α)} (hs : ∀ i, gridOf op ctx (values i) = .ok (sampled i))

include hs

theorem differing_iff : differing (List.ofFn sampled) = true ↔ Differ op ctx values := by
  rw [← Bool.not_eq_false, differing_eq_false_iff, Differ]
  simp only [hs, Except.ok.injEq, not_forall, Bool.not_eq_true, exists_prop]

variable (hb : ∀ i, bring? ctx (differing (List.ofFn sampled)) (sampled i) = .ok (grids i))
  {i : Fin n} {first : Grid α} (hfirst : grids i = some first)

include hb hfirst

theorem shape_of_differ (h : Differ op ctx values) :
    ∃ spec, ctx.defaultGrid = .ok spec ∧ Same first.spec spec := by
  obtain ⟨g, _, hbring⟩ := bring?_eq_some (hfirst ▸ hb i)
  rw [(differing_iff hs).mpr h] at hbring
  obtain ⟨spec, hspec, hsame, _⟩ := normalizeGrid_spec hbring
  exact ⟨spec, hspec, hsame⟩

theorem shape_of_not_differ (h : ¬ Differ op ctx values) (j : Fin n) (own : Grid α)
    (hown : gridOf op ctx (values j) = .ok (some own)) : Same first.spec own.spec := by
  have hleft : grids j = some own := by
    have hj := hb j
    rw [eq_false_of_ne_true (mt (differing_iff hs).mp h)] at hj
    rw [hs] at hown
    rw [Except.ok.inj hown] at hj
    exact (Except.ok.inj hj).symm
  exact same_spec hb hfirst hleft

end Fields

/-- What is computed from grids and surfaces is a grid, and at each of its nodes it is computed from
what the operands have there by themselves. -/
theorem apply_nodes {n : Nat} (op : String) (values : Fin n → Value Float) (ctx : Context Float)
    (hf : ∃ i, (values i).isField = true) {a : Aligned Float}
    (h : align op (List.ofFn values) ctx = .ok a) :
    ∃ resample : Bool, (resample = true ↔ Differ op ctx values) ∧ ∀ f, ∃ g, a.apply f = .grid g ∧
      g.WellFormed ∧
      (Differ op ctx values → ∃ spec, ctx.defaultGrid = .ok spec ∧ Same g.spec spec) ∧
      (¬ Differ op ctx values → ∀ i own, gridOf op ctx (values i) = .ok (some own) →
        Same g.spec own.spec) ∧
      ∀ ix < g.nx, ∀ iy < g.ny, ∃ entries : Fin n → Float,
        (∀ i, nodeValue op ctx resample ix iy (values i) = .ok (entries i)) ∧
          g.get ix iy = f (List.ofFn entries) := by
  have hsamples : ∀ i, (values i).isSamples = false := by
    by_contra hs
    obtain ⟨_, _, halign⟩ := align_mixed op values ctx hf (by simpa using hs)
    rw [halign] at h
    cases h
  rw [align_fields op values ctx hf hsamples] at h
  obtain ⟨sampled, grids, hs, hb, first, rest, hfirst, rfl⟩ := alignGrids_eq_ok_iff.mp h
  obtain ⟨i, hi⟩ := exists_first hfirst
  have hdefault := shape_of_differ hs hb hi
  have hown := shape_of_not_differ hs hb hi
  refine ⟨differing (List.ofFn sampled), differing_iff hs, fun f => ⟨_, Aligned.apply_grid _ _ f,
    Grid.wellFormed_ofFn _ _, hdefault, hown, ?_⟩⟩
  intro ix hix iy hiy
  refine ⟨fun i => (gridOperand (values i) (grids i)).elem (iy * first.nx + ix), ?_, ?_⟩
  · intro j
    have hfrom := broughtFrom (hs j) (hb j)
    exact hfrom.nodeValue_eq (fun g hg => (same_spec hb hg hi).shape.1) op ix iy
  · rw [Grid.get_ofFn _ _ hix hiy, List.map_ofFn]
    rfl

namespace Mixed

def context : Context Float := .standard ⟨.latLon, .standard, some ⟨2, 2, 10⟩⟩ .epoch

def values : Fin 3 → Value Float
  | 0 => .spline (.fitted ⟨2, 2, 10, #[1, 2, 3, 4]⟩ .origin 0 context.projection)
  | 1 => .grid ⟨3, 2, 5, #[0, 1, 2, 3, 4, 5]⟩
  | 2 => .grid ⟨2, 2, 10, #[10, 20, 30, 40]⟩

end Mixed

open Mixed in
theorem apply_nodes_mixed :
    (∃ i, (values i).isField = true) ∧ Differ "PLUS" context values ∧
      ∃ a, align "PLUS" (List.ofFn values) context = .ok a ∧
        ∃ g spec, a.apply List.sum = .grid g ∧ context.defaultGrid = .ok spec ∧
          Same g.spec spec ∧
          ∀ ix < g.nx, ∀ iy < g.ny, ∃ entries : Fin 3 → Float,
            (∀ i, nodeValue "PLUS" context true ix iy (values i) = .ok (entries i)) ∧
              g.get ix iy = (List.ofFn entries).sum := by
  have hfield : ∃ i, (values i).isField = true := ⟨0, rfl⟩
  have hdiffer : Differ "PLUS" context values :=
    ⟨1, 2, by decide, _, _, rfl, rfl, by decide +kernel⟩
  obtain ⟨a, ha⟩ : ∃ a, align "PLUS" (List.ofFn values) context = .ok a :=
    exists_ok_of_isOk (by decide +kernel)
  obtain ⟨resample, hresample, hnodes⟩ := apply_nodes "PLUS" values context hfield ha
  cases hresample.mpr hdiffer
  obtain ⟨g, hg, _, hdefault, _, hentries⟩ := hnodes List.sum
  obtain ⟨spec, hspec, hsame⟩ := hdefault hdiffer
  exact ⟨hfield, hdiffer, a, ha, g, spec, hg, hspec, hsame, hentries⟩

end Synoptic
