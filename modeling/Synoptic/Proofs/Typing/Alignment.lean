import Synoptic.Binary64.Scalar
import Synoptic.Proofs.Outcome

/-!
The forms of values in a context. With points set, a value is a number or samples at just these
points; without points it is a number, a surface or a grid of the default dimensions. Values of these
forms align, and no error that they lead to is one of kinds or points that do not go together.
-/

namespace Synoptic

variable {α : Type}

def ValueError.Clash : ValueError α → Prop
  | .incompatible .. | .points _ | .conversion .. | .noPoints => True
  | _ => False

def DatabaseError.Clash : DatabaseError α → Prop
  | .value e => e.Clash
  | _ => False

def EvalError.Clash : EvalError α → Prop
  | .value e => e.Clash
  | .database e => e.Clash
  | _ => False

variable [Number α]

/-- A position whose coordinates are numbers: an undefined number is not equal to itself. -/
def Point.Defined (p : Point α) : Prop := (p.x == p.x) = true ∧ (p.y == p.y) = true

theorem Binary64.beq_self (x : Float) : (x == x) = !x.isNaN := by
  change (x.toModel.unpack.compare x.toModel.unpack == some .eq) = !x.toModel.unpack.isNaN
  cases x.toModel.unpack with
  | notANumber => rfl
  | infinity s => cases s <;> rfl
  | zero s => rfl
  | finite s m e h =>
    have hcompare : (compare e e).then (compare m m) = .eq := by simp
    cases s with
    | positive =>
      change (some ((compare e e).then (compare m m)) == some .eq) = true
      rw [hcompare]
      rfl
    | negative =>
      change (some ((compare e e).then (compare m m)).swap == some .eq) = true
      rw [hcompare]
      rfl

theorem Point.defined_iff (p : Point Float) :
    p.Defined ↔ p.x.isNaN = false ∧ p.y.isNaN = false := by
  have hx : (p.x == p.x) = !p.x.isNaN := Binary64.beq_self p.x
  have hy : (p.y == p.y) = !p.y.isNaN := Binary64.beq_self p.y
  simp only [Point.Defined]
  rw [hx, hy]
  simp

def Context.Defined (ctx : Context α) : Prop := ∀ ps, ctx.points = some ps → ∀ p ∈ ps, p.Defined

def ValueError.Allowed (ctx : Context α) (e : ValueError α) : Prop := ctx.Defined → ¬ e.Clash

/-- The forms of values in a context: with points a number or samples at just these points, without
points a number, a surface or a grid of the default dimensions. -/
def Value.Fits (ctx : Context α) : Value α → Prop
  | .scalar _ => True
  | .grid g => ctx.points = none ∧ ctx.defaultGrid = .ok g.spec ∧ g.data.size = g.nx * g.ny
  | .spline _ => ctx.points = none
  | .samples s => ctx.points = some s.points ∧ s.values.size = s.points.size

def Layout.Fits (ctx : Context α) : Layout α → Prop
  | .scalar => True
  | .grid spec => ctx.points = none ∧ ctx.defaultGrid = .ok spec
  | .points ps => ctx.points = some ps

namespace Aligned

theorem apply_fits {ctx : Context α} {a : Aligned α} (h : a.layout.Fits ctx) (f : List α → α) :
    (a.apply f).Fits ctx := by
  obtain ⟨layout, operands⟩ := a
  cases layout with
  | scalar => trivial
  | grid spec => exact ⟨h.1, h.2, by simp [Layout.size]⟩
  | points ps => exact ⟨h, by simp [Layout.size]⟩

end Aligned

def OnDefault (ctx : Context α) (g : Grid α) : Prop :=
  ctx.defaultGrid = .ok g.spec ∧ g.data.size = g.nx * g.ny

theorem defaultGrid_yields (ctx : Context α) :
    Yields ctx.defaultGrid (fun spec => ctx.defaultGrid = .ok spec) fun e => ¬ e.Clash := by
  rw [Context.defaultGrid]
  split
  · split
    · exact rfl
    · exact id
  · exact id

theorem Spline.ensureUsable_yields (op : String) (s : Spline α) :
    Yields (s.ensureUsable op) (fun _ => s.Usable) fun e => ¬ e.Clash := by
  rw [ensureUsable]
  split
  · assumption
  · exact id

theorem Spline.fit_yields (g : Grid α) (origin : Point α) (projection : Projection α) :
    Yields (Spline.fit g origin projection) (fun _ => True) fun e => ¬ e.Clash := by
  rw [Spline.fit]
  split
  · trivial
  · exact id

theorem splineToGrid_yields (s : Spline α) (ctx : Context α) :
    Yields (splineToGrid s ctx) (OnDefault ctx) fun e => ¬ e.Clash := by
  rw [splineToGrid]
  apply Yields.bind (defaultGrid_yields ctx)
  intro spec hspec
  apply Yields.bind (s.ensureUsable_yields _)
  intro _ _
  exact ⟨hspec, size_tabulate ..⟩

theorem gridToSpline_yields (g : Grid α) (ctx : Context α) :
    Yields (gridToSpline g ctx) (fun _ => True) fun e => ¬ e.Clash := by
  rw [gridToSpline]
  apply Yields.bind (defaultGrid_yields ctx)
  intro _ _
  exact Spline.fit_yields g .origin ctx.projection

theorem normalizeGrid_yields {g : Grid α} {ctx : Context α} (hg : OnDefault ctx g) :
    Yields (normalizeGrid g ctx) (OnDefault ctx) fun e => ¬ e.Clash := by
  have hb : Yields (onDefaultGrid g ctx) (fun _ => True) fun e => ¬ e.Clash := by
    apply Yields.bind (defaultGrid_yields ctx)
    intro _ _
    trivial
  apply Yields.bind hb
  intro b _
  split
  · exact hg
  · apply Yields.bind (gridToSpline_yields g ctx)
    intro s _
    exact splineToGrid_yields s ctx

theorem gridOf_yields {op : String} {ctx : Context α} {v : Value α} (hc : ctx.points = none)
    (hv : v.Fits ctx) :
    Yields (gridOf op ctx v)
      (fun g => (v.isField = true → g.isSome = true) ∧ ∀ g', g = some g' → OnDefault ctx g')
      fun e => ¬ e.Clash := by
  cases v with
  | scalar x => exact ⟨by simp [Value.isField], by simp⟩
  | grid g => exact ⟨fun _ => rfl, by rintro _ ⟨⟩; exact hv.2⟩
  | spline s =>
    apply Yields.map
    apply (splineToGrid_yields s ctx).mono _ fun _ => id
    intro g hg
    exact ⟨fun _ => rfl, by rintro _ ⟨⟩; exact hg⟩
  | samples s =>
    have h := hv.1
    rw [hc] at h
    cases h

theorem normalizeGrid?_yields {ctx : Context α} {g : Option (Grid α)}
    (h : ∀ g', g = some g' → OnDefault ctx g') :
    Yields (normalizeGrid? ctx g)
      (fun g₁ => (g.isSome = true → g₁.isSome = true) ∧ ∀ g', g₁ = some g' → OnDefault ctx g')
      fun e => ¬ e.Clash := by
  cases g with
  | none => exact ⟨id, h⟩
  | some g =>
    have hg := h g rfl
    apply Yields.map
    apply (normalizeGrid_yields hg).mono _ fun _ => id
    intro g' hg'
    exact ⟨fun _ => rfl, by rintro _ ⟨⟩; exact hg'⟩

def SomeOnDefault (ctx : Context α) (grids : List (Option (Grid α))) : Prop :=
  (∃ g ∈ grids, g.isSome = true) ∧ ∀ g ∈ grids, ∀ g', g = some g' → OnDefault ctx g'

theorem mapM_someOnDefault {ι : Type} {ctx : Context α} {l : List ι} {p : ι → Prop}
    {f : ι → Except (ValueError α) (Option (Grid α))} {Q : ValueError α → Prop}
    (h : ∀ i ∈ l, Yields (f i)
      (fun g => (p i → g.isSome = true) ∧ ∀ g', g = some g' → OnDefault ctx g') Q)
    (hp : ∃ i ∈ l, p i) : Yields (l.mapM f) (SomeOnDefault ctx) Q := by
  apply (Yields.mapM h).mono _ fun _ => id
  intro grids hgrids
  constructor
  · obtain ⟨i, hi, hpi⟩ := hp
    obtain ⟨g, hg, h'⟩ := exists_right_of_forall₂ hgrids hi
    exact ⟨g, hg, h'.1 hpi⟩
  · intro g hg
    obtain ⟨i, _, h'⟩ := exists_left_of_forall₂ hgrids hg
    exact h'.2

theorem commonShape_yields {ctx : Context α} {grids : List (Option (Grid α))}
    (h : SomeOnDefault ctx grids) :
    Yields (commonShape ctx grids) (SomeOnDefault ctx) fun e => ¬ e.Clash := by
  rw [commonShape]
  split
  · exact h
  · exact mapM_someOnDefault (fun g hg => normalizeGrid?_yields (h.2 g hg)) h.1

theorem alignGrids_yields {op : String} {ctx : Context α} {values : List (Value α)}
    (hc : ctx.points = none) (hv : ∀ v ∈ values, v.Fits ctx) (hf : ∃ v ∈ values, v.isField = true) :
    Yields (alignGrids op values ctx) (·.layout.Fits ctx) fun e => ¬ e.Clash := by
  apply Yields.bind (mapM_someOnDefault (fun v hm => gridOf_yields hc (hv v hm)) hf)
  intro grids hgrids
  apply Yields.bind (commonShape_yields hgrids)
  intro grids hgrids
  split
  · rename_i hnil
    obtain ⟨g, hg, hs⟩ := hgrids.1
    obtain ⟨g', rfl⟩ := Option.isSome_iff_exists.mp hs
    have : g' ∈ grids.filterMap id := List.mem_filterMap.mpr ⟨some g', hg, rfl⟩
    rw [hnil] at this
    cases this
  · rename_i first rest hcons
    have hm : first ∈ grids.filterMap id := hcons ▸ List.mem_cons_self
    obtain ⟨g, hg, rfl⟩ := List.mem_filterMap.mp hm
    exact ⟨hc, (hgrids.2 _ hg first rfl).1⟩

theorem Point.Defined.beq_self {p : Point α} (h : p.Defined) : (p == p) = true := by
  cases p
  simp only [Point.Defined] at h
  change (_ && _) = true
  rw [h.1, h.2]
  rfl

theorem Samples.samePoints_of_eq {s t : Samples α} (h : s.points = t.points)
    (hd : ∀ p ∈ s.points, p.Defined) : s.samePoints t = true := by
  rw [Samples.samePoints]
  rw [← h]
  apply Array.isEqv_iff_rel.mpr
  exact ⟨rfl, fun i hi => (hd _ (Array.getElem_mem hi)).beq_self⟩

theorem pointOperand_yields {op : String} {ctx : Context α} {first : Samples α} {v : Value α}
    (hc : ctx.points = some first.points) (hv : v.Fits ctx) :
    Yields (pointOperand op first v) (fun _ => True) (·.Allowed ctx) := by
  cases v with
  | scalar x => trivial
  | grid g =>
    have h := hv.1
    rw [hc] at h
    cases h
  | spline s =>
    rw [Value.Fits, hc] at hv
    cases hv
  | samples s =>
    simp only [pointOperand]
    split
    · trivial
    · rename_i hne
      intro hd
      have h : s.points = first.points := Option.some.inj (hv.1.symm.trans hc)
      exact absurd (Samples.samePoints_of_eq h (h ▸ hd _ hc)) hne

theorem Value.Fits.points_of_isField {ctx : Context α} {v : Value α} (hv : v.Fits ctx)
    (h : v.isField = true) : ctx.points = none := by
  cases v with
  | scalar x => cases h
  | grid g => exact hv.1
  | spline s => exact hv
  | samples s => cases h

theorem Value.Fits.points_of_isSamples {ctx : Context α} {v : Value α} (hv : v.Fits ctx)
    (h : v.isSamples = true) : ctx.points ≠ none := by
  cases v with
  | scalar x => cases h
  | grid g => cases h
  | spline s => cases h
  | samples s => rw [hv.1]; exact Option.some_ne_none _

theorem align_yields {op : String} {ctx : Context α} {values : List (Value α)}
    (hv : ∀ v ∈ values, v.Fits ctx) :
    Yields (align op values ctx) (·.layout.Fits ctx) (·.Allowed ctx) := by
  rw [align]
  split
  · rename_i field samples hf hs
    have hnone := (hv _ (List.mem_of_find?_eq_some hf)).points_of_isField (List.find?_some hf)
    exact absurd hnone
      ((hv _ (List.mem_of_find?_eq_some hs)).points_of_isSamples (List.find?_some hs))
  · rename_i first _ hs
    have hc : ctx.points = some first.points := (hv _ (List.mem_of_find?_eq_some hs)).1
    apply Yields.bind (Yields.mapM fun v hm => pointOperand_yields hc (hv v hm))
    intro operands _
    exact hc
  · rename_i field hf _
    have hm := List.mem_of_find?_eq_some hf
    have hfield := List.find?_some hf
    have hnone := (hv _ hm).points_of_isField hfield
    exact (alignGrids_yields hnone hv ⟨_, hm, hfield⟩).mono (fun _ => id) fun _ h _ => h
  · trivial

end Synoptic
