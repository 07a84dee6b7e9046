import Synoptic.Proofs.Commutation
import Synoptic.Proofs.Conversion

/-!
Sums of numbers and grids in exact arithmetic. A sum has a shape, which is that of its grids if they
agree and that of the default grid if they do not, and at each of its nodes it adds up what the
summands have there. Both go over to sums of sums, so addition is associative whatever the shapes are.
-/

namespace Synoptic

theorem read_map_range {α : Type} [Number α] {n i : Nat} (h : i < n) (f : Nat → α) :
    Number.read ((Array.range n).map f) i = f i := by
  simp [Number.read, h]

theorem Grid.ofFn_congr {α : Type} [Number α] {spec : GridSpec α} {f f' : Nat → Nat → α}
    (h : ∀ ix < spec.nx, ∀ iy < spec.ny, f ix iy = f' ix iy) : ofFn spec f = ofFn spec f' := by
  refine eq_ofFn (wellFormed_ofFn spec f) rfl fun ix hix iy hiy => ?_
  rw [get_ofFn spec f hix hiy, h ix hix iy hiy]

theorem Aligned.apply_grid {α : Type} [Number α] (spec : GridSpec α) (operands : List (Operand α))
    (f : List α → α) :
    apply ⟨.grid spec, operands⟩ f =
      .grid (.ofFn spec fun ix iy => f (operands.map (·.elem (iy * spec.nx + ix)))) := by
  refine congrArg Value.grid (Grid.eq_ofFn (α := α) ?_ rfl ?_)
  · simp [Grid.WellFormed, Layout.size]
  · intro ix hix iy hiy
    exact read_map_range (Grid.index_lt hix hiy) _

/-! ### Shapes -/

/-- The shape of a sum of two summands; a number has none. Grids of differing shapes are brought onto
the default grid, so there must be one and they must both be fit to be resampled. -/
inductive Context.Joins (ctx : Context ℝ) :
    Option (GridSpec ℝ) → Option (GridSpec ℝ) → Option (GridSpec ℝ) → Prop
  | left (s : Option (GridSpec ℝ)) : Joins ctx none s s
  | right (s : Option (GridSpec ℝ)) : Joins ctx s none s
  | same (s : GridSpec ℝ) : Joins ctx (some s) (some s) (some s)
  | differing {s t grid : GridSpec ℝ} (hne : s ≠ t) (hgrid : ctx.defaultGrid = .ok grid)
    (hs : s.Valid) (ht : t.Valid) : Joins ctx (some s) (some t) (some grid)

namespace Context.Joins

variable {ctx : Context ℝ} {a b c s t : Option (GridSpec ℝ)}

theorem left_iff : ctx.Joins none b s ↔ s = b := by
  constructor
  · intro h
    cases h <;> rfl
  · rintro rfl
    exact .left s

theorem right_iff : ctx.Joins a none s ↔ s = a := by
  constructor
  · intro h
    cases h <;> rfl
  · rintro rfl
    exact .right s

theorem grids_iff {s t u : GridSpec ℝ} :
    ctx.Joins (some s) (some t) (some u) ↔
      s = t ∧ s = u ∨ s ≠ t ∧ ctx.defaultGrid = .ok u ∧ s.Valid ∧ t.Valid := by
  constructor
  · intro h
    cases h with
    | same => exact .inl ⟨rfl, rfl⟩
    | differing hne hgrid hs ht => exact .inr ⟨hne, hgrid, hs, ht⟩
  · rintro (⟨rfl, rfl⟩ | ⟨hne, hgrid, hs, ht⟩)
    · exact .same s
    · exact .differing hne hgrid hs ht

theorem exists_grid {s t : GridSpec ℝ} {u : Option (GridSpec ℝ)}
    (h : ctx.Joins (some s) (some t) u) : ∃ grid, u = some grid := by
  cases h with
  | same => exact ⟨_, rfl⟩
  | differing => exact ⟨_, rfl⟩

theorem shape_eq {s t : GridSpec ℝ} (h : ctx.Joins a b (some s)) (h' : ctx.Joins (some s) c (some t))
    (hne : s ≠ t) : s.Valid ∧ (a = none ∨ a = some s) ∧ (b = none ∨ b = some s) := by
  cases h' with
  | right => exact absurd rfl hne
  | same => exact absurd rfl hne
  | differing _ hgrid hs _ =>
    refine ⟨hs, ?_⟩
    cases h with
    | left => exact ⟨.inl rfl, .inr rfl⟩
    | right => exact ⟨.inr rfl, .inl rfl⟩
    | same => exact ⟨.inr rfl, .inr rfl⟩
    | differing _ hgrid' => exact absurd (Except.ok.inj (hgrid'.symm.trans hgrid)) hne

theorem symm (h : ctx.Joins a b s) : ctx.Joins b a s := by
  cases h with
  | left => exact .right _
  | right => exact .left _
  | same => exact .same _
  | differing hne hgrid hs ht => exact .differing hne.symm hgrid ht hs

theorem default {s grid : GridSpec ℝ} (hgrid : ctx.defaultGrid = .ok grid) (hs : s.Valid) :
    ctx.Joins (some s) (some grid) (some grid) := by
  by_cases h : s = grid
  · subst h
    exact .same s
  · exact .differing h hgrid hs (Context.valid_of_defaultGrid hgrid)

theorem assoc (h : ctx.Joins a b s) (h' : ctx.Joins s c t) :
    ∃ u, ctx.Joins b c u ∧ ctx.Joins a u t := by
  cases h with
  | left => exact ⟨t, h', .left t⟩
  | right => exact ⟨c, .left c, h'⟩
  | same s =>
    cases h' with
    | right => exact ⟨some s, .right _, .same s⟩
    | same => exact ⟨some s, .same s, .same s⟩
    | @differing _ c grid hne hgrid hs hc =>
      exact ⟨some grid, .differing hne hgrid hs hc, default hgrid hs⟩
  | @differing a b grid hne hgrid ha hb =>
    cases h' with
    | right => exact ⟨some b, .right _, .differing hne hgrid ha hb⟩
    | same => exact ⟨some grid, default hgrid hb, default hgrid ha⟩
    | @differing _ c _ hne' hgrid' _ hc =>
      cases hgrid.symm.trans hgrid'
      by_cases h : b = c
      · subst h
        exact ⟨some b, .same b, .differing hne hgrid ha hb⟩
      · exact ⟨some grid, .differing h hgrid hb hc, default hgrid ha⟩

end Context.Joins

/-! ### Values of a shape -/

noncomputable def Grid.onto (g : Grid ℝ) (projection : Projection ℝ) (spec : GridSpec ℝ) : Grid ℝ :=
  if g.spec = spec then g else g.resampled projection spec

theorem Grid.spec_onto (g : Grid ℝ) (projection : Projection ℝ) (spec : GridSpec ℝ) :
    (g.onto projection spec).spec = spec := by
  rw [onto]
  split
  · assumption
  · rfl

theorem Grid.onto_self (g : Grid ℝ) (projection : Projection ℝ) : g.onto projection g.spec = g :=
  if_pos rfl

theorem Grid.get_onto_of_ne {g : Grid ℝ} {spec : GridSpec ℝ} (h : g.spec ≠ spec)
    (projection : Projection ℝ) {ix iy : Nat} (hix : ix < spec.nx) (hiy : iy < spec.ny) :
    (g.onto projection spec).get ix iy =
      (Spline.through g projection).valueAt (spec.node ix iy) := by
  rw [onto, if_neg h, resampled, get_ofFn _ _ hix hiy]

/-- The nodes of a shape. A number is as a grid of one node. -/
def Node {α : Type} : Option (GridSpec α) → Nat → Nat → Prop
  | none, ix, iy => ix = 0 ∧ iy = 0
  | some spec, ix, iy => ix < spec.nx ∧ iy < spec.ny

namespace Value

def Summand {α : Type} : Value α → Prop
  | .scalar _ => True
  | .grid g => g.WellFormed
  | _ => False

def shape {α : Type} : Value α → Option (GridSpec α)
  | .grid g => some g.spec
  | _ => none

def ofShape {α : Type} [Number α] : Option (GridSpec α) → (Nat → Nat → α) → Value α
  | none, f => .scalar (f 0 0)
  | some spec, f => .grid (.ofFn spec f)

noncomputable def onShape (projection : Projection ℝ) :
    Option (GridSpec ℝ) → Value ℝ → Nat → Nat → ℝ
  | some spec, .grid g => (g.onto projection spec).get
  | _, .scalar x => fun _ _ => x
  | _, _ => fun _ _ => 0

noncomputable def sumOn (projection : Projection ℝ) (s : Option (GridSpec ℝ)) (a b : Value ℝ) :
    Value ℝ :=
  ofShape s fun ix iy => a.onShape projection s ix iy + b.onShape projection s ix iy

variable {α : Type} [Number α]

theorem ofShape_congr {s : Option (GridSpec α)} {f f' : Nat → Nat → α}
    (h : ∀ ix iy, Node s ix iy → f ix iy = f' ix iy) : ofShape s f = ofShape s f' := by
  cases s with
  | none => exact congrArg scalar (h 0 0 ⟨rfl, rfl⟩)
  | some spec =>
    exact congrArg grid (Grid.ofFn_congr fun ix hix iy hiy => h ix iy ⟨hix, hiy⟩)

theorem onShape_ofShape_self (projection : Projection ℝ) {s : Option (GridSpec ℝ)}
    {f : Nat → Nat → ℝ} {ix iy : Nat} (h : Node s ix iy) :
    (ofShape s f).onShape projection s ix iy = f ix iy := by
  cases s with
  | none =>
    obtain ⟨rfl, rfl⟩ := h
    rfl
  | some spec =>
    have hself := Grid.onto_self (.ofFn spec f) projection
    exact (congrFun (congrFun (congrArg Grid.get hself) ix) iy).trans (Grid.get_ofFn spec f h.1 h.2)

end Value

/-! ### Sums of two -/

section Sum

variable {ctx : Context ℝ} {g h : Grid ℝ} {a b c v : Value ℝ} {s t : Option (GridSpec ℝ)}

theorem normalizeGrid_ok_iff (hg : g.WellFormed) {g' : Grid ℝ} :
    normalizeGrid g ctx = .ok g' ↔
      ∃ grid, ctx.defaultGrid = .ok grid ∧ g.spec.Valid ∧ g' = g.onto ctx.projection grid := by
  constructor
  · intro hnormal
    have hgrid := spec_of_normalizeGrid hnormal
    have hvalid := Context.valid_of_defaultGrid hgrid
    refine ⟨_, hgrid, ?_⟩
    by_cases hspec : g.spec = g'.spec
    · rw [normalizeGrid_default hgrid hspec] at hnormal
      cases hnormal
      exact ⟨hvalid, (Grid.onto_self g ctx.projection).symm⟩
    · have hfittable : Spline.Fittable g := by
        by_contra hnot
        rw [normalizeGrid, onDefaultGrid_eq hgrid, ok_bind, if_neg (by simpa using hspec),
          gridToSpline, hgrid, ok_bind, Spline.fit, if_neg hnot] at hnormal
        cases hnormal
      obtain ⟨hx, hy, hcell, _⟩ := Spline.fittable_iff.mp hfittable
      rw [normalizeGrid_eq hgrid hfittable] at hnormal
      refine ⟨GridSpec.valid_iff.mpr ⟨hx, hy, hcell⟩, ?_⟩
      rw [Grid.onto, if_neg hspec]
      exact (Except.ok.inj hnormal).symm
  · rintro ⟨grid, hgrid, hvalid, rfl⟩
    rw [Grid.onto]
    split
    · rename_i hspec
      exact normalizeGrid_default hgrid hspec
    · exact normalizeGrid_eq hgrid (Spline.fittable_of_valid hvalid hg)

theorem normalizeGrid?_ok_iff (hg : g.WellFormed) {g' : Option (Grid ℝ)} :
    normalizeGrid? ctx (some g) = .ok g' ↔
      ∃ grid, ctx.defaultGrid = .ok grid ∧ g.spec.Valid ∧
        g' = some (g.onto ctx.projection grid) := by
  rw [normalizeGrid?]
  constructor
  · intro h
    cases hnormal : normalizeGrid g ctx with
    | error e =>
      rw [hnormal] at h
      cases h
    | ok g₁ =>
      rw [hnormal] at h
      cases h
      obtain ⟨grid, hgrid, hvalid, rfl⟩ := (normalizeGrid_ok_iff hg).mp hnormal
      exact ⟨grid, hgrid, hvalid, rfl⟩
  · rintro ⟨grid, hgrid, hvalid, rfl⟩
    rw [(normalizeGrid_ok_iff hg).mpr ⟨grid, hgrid, hvalid, rfl⟩]
    rfl

theorem commonShape_grids_iff (hg : g.WellFormed) (hh : h.WellFormed)
    {grids : List (Option (Grid ℝ))} :
    commonShape ctx [some g, some h] = .ok grids ↔
      ∃ spec, ctx.Joins (some g.spec) (some h.spec) (some spec) ∧
        grids = [some (g.onto ctx.projection spec), some (h.onto ctx.projection spec)] := by
  rw [commonShape]
  by_cases hspec : g.spec = h.spec
  · rw [if_pos ((uniform_pair g h).mpr hspec)]
    constructor
    · intro hok
      cases hok
      refine ⟨h.spec, hspec ▸ .same _, ?_⟩
      rw [Grid.onto_self, ← hspec, Grid.onto_self]
    · rintro ⟨spec, hjoins, rfl⟩
      obtain ⟨_, rfl⟩ | ⟨hne, _⟩ := Context.Joins.grids_iff.mp hjoins
      · rw [Grid.onto_self, hspec, Grid.onto_self]
      · exact absurd hspec hne
  · rw [if_neg fun huniform => hspec ((uniform_pair g h).mp huniform)]
    constructor
    · intro hok
      obtain ⟨g', h', hg', hh', rfl, _⟩ := mapM_swap hok
      obtain ⟨grid, hgrid, hgvalid, rfl⟩ := (normalizeGrid?_ok_iff hg).mp hg'
      obtain ⟨grid', hgrid', hhvalid, rfl⟩ := (normalizeGrid?_ok_iff hh).mp hh'
      cases hgrid.symm.trans hgrid'
      exact ⟨grid, .differing hspec hgrid hgvalid hhvalid, rfl⟩
    · rintro ⟨spec, hjoins, rfl⟩
      obtain ⟨heq, _⟩ | ⟨_, hgrid, hgvalid, hhvalid⟩ := Context.Joins.grids_iff.mp hjoins
      · exact absurd heq hspec
      · have hg' := (normalizeGrid?_ok_iff hg).mpr ⟨spec, hgrid, hgvalid, rfl⟩
        have hh' := (normalizeGrid?_ok_iff hh).mpr ⟨spec, hgrid, hhvalid, rfl⟩
        simp only [List.mapM_cons, List.mapM_nil, hg', hh', ok_bind]
        rfl

namespace BinaryOp

open Value

theorem combine_scalars (x y : ℝ) :
    plus.combine (.scalar x) (.scalar y) ctx = .ok (.scalar (x + y)) :=
  congrArg (Except.ok ∘ Value.scalar) (read_map_range Nat.one_pos _)

theorem combine_scalar_grid (x : ℝ) (g : Grid ℝ) :
    plus.combine (.scalar x) (.grid g) ctx =
      .ok (sumOn ctx.projection (some g.spec) (.scalar x) (.grid g)) := by
  have hsum : plus.combine (.scalar x) (.grid g) ctx =
      .ok (Aligned.apply ⟨.grid g.spec, [.const x, .data g.data]⟩ fun xs =>
        plus.eval (xs.getD 0 Number.absent) (xs.getD 1 Number.absent)) := rfl
  rw [hsum, Aligned.apply_grid, sumOn, ofShape, onShape, onShape, Grid.onto_self]
  rfl

theorem combine_grid_scalar (g : Grid ℝ) (y : ℝ) :
    plus.combine (.grid g) (.scalar y) ctx =
      .ok (sumOn ctx.projection (some g.spec) (.grid g) (.scalar y)) := by
  have hsum : plus.combine (.grid g) (.scalar y) ctx =
      .ok (Aligned.apply ⟨.grid g.spec, [.data g.data, .const y]⟩ fun xs =>
        plus.eval (xs.getD 0 Number.absent) (xs.getD 1 Number.absent)) := rfl
  rw [hsum, Aligned.apply_grid, sumOn, ofShape, onShape, onShape, Grid.onto_self]
  rfl

theorem combine_grids_of_commonShape {g' h' : Grid ℝ} (hspec : g'.spec = h'.spec)
    (hshape : commonShape ctx [some g, some h] = .ok [some g', some h']) :
    plus.combine (.grid g) (.grid h) ctx =
      .ok (.grid (.ofFn h'.spec fun ix iy => g'.get ix iy + h'.get ix iy)) := by
  have halign : align plus.name [.grid g, .grid h] ctx =
      .ok ⟨.grid g'.spec, [.data g'.data, .data h'.data]⟩ := by
    change (commonShape ctx [some g, some h] >>= fun grids => _) = _
    rw [hshape]
    rfl
  have happly : plus.combine (.grid g) (.grid h) ctx =
      .ok (Aligned.apply ⟨.grid g'.spec, [.data g'.data, .data h'.data]⟩ fun xs =>
        plus.eval (xs.getD 0 Number.absent) (xs.getD 1 Number.absent)) := by
    change (align plus.name [.grid g, .grid h] ctx >>= fun aligned => _) = _
    rw [halign]
    rfl
  obtain ⟨hnx, _, _⟩ := GridSpec.mk.inj hspec
  rw [happly, Aligned.apply_grid, hspec]
  congr 4
  funext ix iy
  simp only [List.map, Operand.elem, Grid.get, hnx, Grid.spec]
  rfl

theorem combine_grids_iff (hg : g.WellFormed) (hh : h.WellFormed) :
    plus.combine (.grid g) (.grid h) ctx = .ok v ↔
      ∃ spec, ctx.Joins (some g.spec) (some h.spec) (some spec) ∧
        v = sumOn ctx.projection (some spec) (.grid g) (.grid h) := by
  constructor
  · intro hok
    obtain ⟨_, haligned, _⟩ := ok_of_bind hok
    obtain ⟨_, hmap, haligned⟩ := ok_of_bind haligned
    cases hmap
    obtain ⟨grids, hshape, _⟩ := ok_of_bind haligned
    obtain ⟨spec, hjoins, rfl⟩ := (commonShape_grids_iff hg hh).mp hshape
    rw [combine_grids_of_commonShape (by rw [Grid.spec_onto, Grid.spec_onto]) hshape] at hok
    cases hok
    refine ⟨spec, hjoins, ?_⟩
    rw [Grid.spec_onto]
    rfl
  · rintro ⟨spec, hjoins, rfl⟩
    have hshape := (commonShape_grids_iff hg hh).mpr ⟨spec, hjoins, rfl⟩
    rw [combine_grids_of_commonShape (by rw [Grid.spec_onto, Grid.spec_onto]) hshape,
      Grid.spec_onto]
    rfl

theorem combine_plus_iff (ha : a.Summand) (hb : b.Summand) :
    plus.combine a b ctx = .ok v ↔
      ∃ s, ctx.Joins a.shape b.shape s ∧ v = sumOn ctx.projection s a b := by
  match a, b, ha, hb with
  | .scalar x, .scalar y, _, _ =>
    rw [combine_scalars, Except.ok.injEq, eq_comm]
    simp [shape, Context.Joins.left_iff, sumOn, ofShape, onShape]
  | .scalar x, .grid g, _, _ =>
    rw [combine_scalar_grid, Except.ok.injEq, eq_comm]
    simp [shape, Context.Joins.left_iff]
  | .grid g, .scalar y, _, _ =>
    rw [combine_grid_scalar, Except.ok.injEq, eq_comm]
    simp [shape, Context.Joins.right_iff]
  | .grid g, .grid h, hg, hh =>
    rw [combine_grids_iff hg hh]
    constructor
    · rintro ⟨spec, hjoins, rfl⟩
      exact ⟨_, hjoins, rfl⟩
    · rintro ⟨s, hjoins, rfl⟩
      obtain ⟨spec, rfl⟩ := hjoins.exists_grid
      exact ⟨spec, hjoins, rfl⟩

end BinaryOp

/-! ### Sums of three -/

theorem Spline.valueAt_through_add {spec : GridSpec ℝ} (hvalid : spec.Valid) (f f' : Nat → Nat → ℝ)
    (projection : Projection ℝ) (p : Point ℝ) :
    (through (.ofFn spec fun ix iy => f ix iy + f' ix iy) projection).valueAt p =
      (through (.ofFn spec f) projection).valueAt p +
        (through (.ofFn spec f') projection).valueAt p := by
  obtain ⟨hx, hy, hcell⟩ := GridSpec.valid_iff.mp hvalid
  have hsum : ∀ ix < spec.nx, ∀ iy < spec.ny,
      (Grid.ofFn spec fun ix iy => f ix iy + f' ix iy).get ix iy =
        1 * (Grid.ofFn spec f).get ix iy + 1 * (Grid.ofFn spec f').get ix iy := by
    intro ix hix iy hiy
    rw [Grid.get_ofFn _ _ hix hiy, Grid.get_ofFn _ _ hix hiy, Grid.get_ofFn _ _ hix hiy, one_mul,
      one_mul]
  refine (valueAt_fitted_linear (g := .ofFn spec f) (h := .ofFn spec f')
    (k := .ofFn spec fun ix iy => f ix iy + f' ix iy) hx hy hcell rfl rfl hsum p).trans ?_
  rw [one_mul, one_mul]
  rfl

namespace Value

theorem onShape_ofShape_of_ne {s t : GridSpec ℝ} {f : Nat → Nat → ℝ} (h : s ≠ t)
    (projection : Projection ℝ) {ix iy : Nat} (hix : ix < t.nx) (hiy : iy < t.ny) :
    (ofShape (some s) f).onShape projection (some t) ix iy =
      (Spline.through (.ofFn s f) projection).valueAt (t.node ix iy) :=
  Grid.get_onto_of_ne (g := .ofFn s f) h projection hix hiy

theorem valueAt_onShape {spec grid : GridSpec ℝ} (ha : a.Summand) (hvalid : spec.Valid)
    (hne : spec ≠ grid) (hshape : a.shape = none ∨ a.shape = some spec) {ix iy : Nat}
    (hix : ix < grid.nx) (hiy : iy < grid.ny) :
    (Spline.through (.ofFn spec (a.onShape ctx.projection (some spec))) ctx.projection).valueAt
        (grid.node ix iy) = a.onShape ctx.projection (some grid) ix iy := by
  obtain ⟨hx, hy, hcell⟩ := GridSpec.valid_iff.mp hvalid
  match a, ha, hshape with
  | .scalar x, _, _ =>
    exact Spline.valueAt_fitted_const hx hy hcell
      (fun ix hix iy hiy => Grid.get_ofFn spec _ hix hiy) _
  | .grid g, hg, .inr hshape =>
    cases Option.some.inj hshape
    have hself : Grid.ofFn g.spec (g.onto ctx.projection g.spec).get = g := by
      rw [Grid.onto_self]
      exact (Grid.eq_ofFn hg rfl fun _ _ _ _ => rfl).symm
    exact (congrArg (fun g => (Spline.through g ctx.projection).valueAt _) hself).trans
      (Grid.get_onto_of_ne hne ctx.projection hix hiy).symm

theorem onShape_sumOn {u : Option (GridSpec ℝ)} (ha : a.Summand) (hb : b.Summand)
    (hs : ctx.Joins a.shape b.shape s) (ht : ctx.Joins s u t) {ix iy : Nat} (h : Node t ix iy) :
    (sumOn ctx.projection s a b).onShape ctx.projection t ix iy =
      a.onShape ctx.projection t ix iy + b.onShape ctx.projection t ix iy := by
  by_cases heq : s = t
  · subst heq
    exact onShape_ofShape_self ctx.projection h
  match s, t, heq, hs, ht, h with
  | none, some _, _, hs, _, _ =>
    match a, b, ha, hb, hs with
    | .scalar x, .scalar y, _, _, _ => rfl
  | some spec, some spec', heq, hs, ht, ⟨hix, hiy⟩ =>
    have hne : spec ≠ spec' := fun h => heq (congrArg some h)
    obtain ⟨hvalid, hashape, hbshape⟩ := hs.shape_eq ht hne
    rw [← valueAt_onShape ha hvalid hne hashape hix hiy,
      ← valueAt_onShape hb hvalid hne hbshape hix hiy, sumOn,
      onShape_ofShape_of_ne hne ctx.projection hix hiy]
    exact Spline.valueAt_through_add hvalid _ _ ctx.projection _

theorem summand_sumOn (projection : Projection ℝ) (s : Option (GridSpec ℝ)) (a b : Value ℝ) :
    (sumOn projection s a b).Summand := by
  cases s with
  | none => trivial
  | some spec => exact Grid.wellFormed_ofFn spec _

theorem shape_sumOn (projection : Projection ℝ) (s : Option (GridSpec ℝ)) (a b : Value ℝ) :
    (sumOn projection s a b).shape = s := by
  cases s <;> rfl

theorem sumOn_left {u : Option (GridSpec ℝ)} (ha : a.Summand) (hb : b.Summand)
    (hs : ctx.Joins a.shape b.shape s) (ht : ctx.Joins s u t) :
    sumOn ctx.projection t (sumOn ctx.projection s a b) c =
      ofShape t fun ix iy => a.onShape ctx.projection t ix iy +
        b.onShape ctx.projection t ix iy + c.onShape ctx.projection t ix iy :=
  ofShape_congr fun _ _ h => by rw [onShape_sumOn ha hb hs ht h]

theorem sumOn_right {u : Option (GridSpec ℝ)} (hb : b.Summand) (hc : c.Summand)
    (hs : ctx.Joins b.shape c.shape s) (ht : ctx.Joins u s t) :
    sumOn ctx.projection t a (sumOn ctx.projection s b c) =
      ofShape t fun ix iy => a.onShape ctx.projection t ix iy +
        (b.onShape ctx.projection t ix iy + c.onShape ctx.projection t ix iy) :=
  ofShape_congr fun _ _ h => by rw [onShape_sumOn hb hc hs ht.symm h]

end Value

namespace BinaryOp

open Value

theorem combine_left_iff (ha : a.Summand) (hb : b.Summand) (hc : c.Summand) :
    (do
      let ab ← plus.combine a b ctx
      plus.combine ab c ctx) = .ok v ↔
      ∃ s t, ctx.Joins a.shape b.shape s ∧ ctx.Joins s c.shape t ∧
        v = ofShape t fun ix iy => a.onShape ctx.projection t ix iy +
          b.onShape ctx.projection t ix iy + c.onShape ctx.projection t ix iy := by
  constructor
  · intro h
    obtain ⟨ab, hab, h⟩ := ok_of_bind h
    obtain ⟨s, hs, rfl⟩ := (combine_plus_iff ha hb).mp hab
    obtain ⟨t, ht, rfl⟩ := (combine_plus_iff (summand_sumOn ..) hc).mp h
    rw [shape_sumOn] at ht
    exact ⟨s, t, hs, ht, sumOn_left ha hb hs ht⟩
  · rintro ⟨s, t, hs, ht, rfl⟩
    rw [(combine_plus_iff ha hb).mpr ⟨s, hs, rfl⟩, ok_bind,
      combine_plus_iff (summand_sumOn ..) hc, shape_sumOn]
    exact ⟨t, ht, (sumOn_left ha hb hs ht).symm⟩

theorem combine_right_iff (ha : a.Summand) (hb : b.Summand) (hc : c.Summand) :
    (do
      let bc ← plus.combine b c ctx
      plus.combine a bc ctx) = .ok v ↔
      ∃ u t, ctx.Joins b.shape c.shape u ∧ ctx.Joins a.shape u t ∧
        v = ofShape t fun ix iy => a.onShape ctx.projection t ix iy +
          (b.onShape ctx.projection t ix iy + c.onShape ctx.projection t ix iy) := by
  constructor
  · intro h
    obtain ⟨bc, hbc, h⟩ := ok_of_bind h
    obtain ⟨u, hu, rfl⟩ := (combine_plus_iff hb hc).mp hbc
    obtain ⟨t, ht, rfl⟩ := (combine_plus_iff ha (summand_sumOn ..)).mp h
    rw [shape_sumOn] at ht
    exact ⟨u, t, hu, ht, sumOn_right hb hc hu ht⟩
  · rintro ⟨u, t, hu, ht, rfl⟩
    rw [(combine_plus_iff hb hc).mpr ⟨u, hu, rfl⟩, ok_bind,
      combine_plus_iff ha (summand_sumOn ..), shape_sumOn]
    exact ⟨t, ht, (sumOn_right hb hc hu ht).symm⟩

/-- Addition is associative whatever the shapes of the summands are: one grouping succeeds if the
other does, with the same value. -/
theorem combine_assoc (ha : a.Summand) (hb : b.Summand) (hc : c.Summand) :
    (do
      let ab ← plus.combine a b ctx
      plus.combine ab c ctx) = .ok v ↔
    (do
      let bc ← plus.combine b c ctx
      plus.combine a bc ctx) = .ok v := by
  rw [combine_left_iff ha hb hc, combine_right_iff ha hb hc]
  simp only [add_assoc]
  constructor
  · rintro ⟨s, t, hs, ht, rfl⟩
    obtain ⟨u, hu, ht⟩ := hs.assoc ht
    exact ⟨u, t, hu, ht, rfl⟩
  · rintro ⟨u, t, hu, ht, rfl⟩
    obtain ⟨s, hs, ht⟩ := hu.symm.assoc ht.symm
    exact ⟨s, t, hs.symm, ht.symm, rfl⟩

theorem combine_assoc_coarse :
    ∃ v : Value ℝ,
      (do
        let ab ← plus.combine (.grid Spline.Doubling.grid) (.scalar 5) Coarse.context
        plus.combine ab (.grid Coarse.slope) Coarse.context) = .ok v ∧
      (do
        let bc ← plus.combine (.scalar 5) (.grid Coarse.slope) Coarse.context
        plus.combine (.grid Spline.Doubling.grid) bc Coarse.context) = .ok v := by
  have ha : Summand (.grid Spline.Doubling.grid) :=
    (Spline.fittable_iff.mp Coarse.fittable_doubling).2.2.2
  have hc : Summand (.grid Coarse.slope) := Grid.wellFormed_ofFn ..
  have hvalid : Spline.Doubling.grid.spec.Valid := by
    obtain ⟨hx, hy, hcell, _⟩ := Spline.fittable_iff.mp Coarse.fittable_doubling
    exact GridSpec.valid_iff.mpr ⟨hx, hy, hcell⟩
  have hleft := (combine_left_iff (b := .scalar 5) ha trivial hc).mpr
    ⟨_, _, .right _, .default Coarse.defaultGrid hvalid, rfl⟩
  exact ⟨_, hleft, (combine_assoc (b := .scalar 5) ha trivial hc).mp hleft⟩

end BinaryOp

end Sum

end Synoptic
