import Mathlib.Data.List.FinRange
import Synoptic.Proofs.Typing.Alignment
import Synoptic.Proofs.Binary64.Comparison

namespace Synoptic

instance partialEquivBEq_float : PartialEquivBEq Float where
  symm {x y} h := (Binary64.beq_comm y x).trans h
  trans := Binary64.beq_trans

/-- Equal, or the very same: what is undefined is not equal to itself. -/
def Same {β : Type} [BEq β] (b c : β) : Prop := b = c ∨ (b == c) = true

namespace Same

variable {β : Type} [BEq β] [PartialEquivBEq β] {b c d : β}

omit [PartialEquivBEq β] in
theorem refl (b : β) : Same b b := .inl rfl

theorem symm (h : Same b c) : Same c b := h.imp Eq.symm BEq.symm

theorem trans (h : Same b c) (h' : Same c d) : Same b d := by
  rcases h with rfl | h
  · exact h'
  · rcases h' with rfl | h'
    · exact .inr h
    · exact .inr (BEq.trans h h')

end Same

section Specs

variable {α : Type} [BEq α]

theorem GridSpec.beq_parts {s t : GridSpec α} :
    (s == t) = true ↔ s.nx = t.nx ∧ s.ny = t.ny ∧ (s.cell == t.cell) = true := by
  obtain ⟨nx, ny, cell⟩ := s
  obtain ⟨nx', ny', cell'⟩ := t
  change (nx == nx' && (ny == ny' && cell == cell')) = true ↔ _
  simp

theorem Point.beq_parts {p q : Point α} :
    (p == q) = true ↔ (p.x == q.x) = true ∧ (p.y == q.y) = true := by
  cases p
  cases q
  change (_ && _) = true ↔ _
  rw [Bool.and_eq_true]

instance [PartialEquivBEq α] : PartialEquivBEq (GridSpec α) where
  symm h := by
    rw [GridSpec.beq_parts] at h ⊢
    exact ⟨h.1.symm, h.2.1.symm, BEq.symm h.2.2⟩
  trans h h' := by
    rw [GridSpec.beq_parts] at h h' ⊢
    exact ⟨h.1.trans h'.1, h.2.1.trans h'.2.1, BEq.trans h.2.2 h'.2.2⟩

instance [PartialEquivBEq α] : PartialEquivBEq (Point α) where
  symm h := by
    rw [Point.beq_parts] at h ⊢
    exact ⟨BEq.symm h.1, BEq.symm h.2⟩
  trans h h' := by
    rw [Point.beq_parts] at h h' ⊢
    exact ⟨BEq.trans h.1 h'.1, BEq.trans h.2 h'.2⟩

theorem beq_array_iff {β : Type} [BEq β] {xs ys : Array β} :
    (xs == ys) = true ↔ xs.size = ys.size ∧
      ∀ i (hi : i < xs.size) (hi' : i < ys.size), (xs[i] == ys[i]) = true := by
  apply Array.isEqv_iff_rel.trans
  constructor
  · rintro ⟨hsize, h⟩
    exact ⟨hsize, fun i hi _ => h i hi⟩
  · rintro ⟨hsize, h⟩
    exact ⟨hsize, fun i hi => h i hi (hsize ▸ hi)⟩

instance partialEquivBEq_array {β : Type} [BEq β] [PartialEquivBEq β] :
    PartialEquivBEq (Array β) where
  symm h := by
    rw [beq_array_iff] at h ⊢
    exact ⟨h.1.symm, fun i hi hi' => BEq.symm (h.2 i hi' hi)⟩
  trans h h' := by
    rw [beq_array_iff] at h h' ⊢
    exact ⟨h.1.trans h'.1, fun i hi hi' => BEq.trans (h.2 i hi (h.1 ▸ hi)) (h'.2 i (h.1 ▸ hi) hi')⟩

end Specs

theorem mapM_ofFn {ε β γ : Type} {f : β → Except ε γ} :
    ∀ {n : Nat} {v : Fin n → β} {ys : List γ},
      (List.ofFn v).mapM f = .ok ys ↔ ∃ w : Fin n → γ, ys = List.ofFn w ∧ ∀ i, f (v i) = .ok (w i)
  | 0, v, ys => by
    rw [List.ofFn_zero, List.mapM_nil]
    constructor
    · intro h
      cases h
      exact ⟨Fin.elim0, rfl, fun i => i.elim0⟩
    · rintro ⟨w, rfl, _⟩
      rfl
  | n + 1, v, ys => by
    rw [List.ofFn_succ, List.mapM_cons]
    constructor
    · intro h
      obtain ⟨y, hy, h⟩ := ok_of_bind h
      obtain ⟨ys, hys, h⟩ := ok_of_bind h
      obtain ⟨w, rfl, hw⟩ := mapM_ofFn.mp hys
      cases h
      exact ⟨Fin.cons y w, by simp, Fin.cases hy hw⟩
    · rintro ⟨w, rfl, hw⟩
      rw [hw 0, ok_bind, mapM_ofFn.mpr ⟨_, rfl, fun i => hw i.succ⟩]
      simp

theorem perm_ofFn_comp {β : Type} {n : Nat} (σ : Equiv.Perm (Fin n)) (v : Fin n → β) :
    (List.ofFn (v ∘ σ)).Perm (List.ofFn v) := σ.ofFn_comp_perm v

theorem zipWith_ofFn {β γ δ : Type} (f : β → γ → δ) :
    ∀ {n : Nat} (v : Fin n → β) (w : Fin n → γ),
      List.zipWith f (List.ofFn v) (List.ofFn w) = List.ofFn fun i => f (v i) (w i)
  | 0, _, _ => by simp
  | n + 1, v, w => by simp [zipWith_ofFn f (n := n)]

theorem mem_filterMap_ofFn {β : Type} {n : Nat} {v : Fin n → Option β} {b : β} :
    b ∈ (List.ofFn v).filterMap id ↔ ∃ i, v i = some b := by
  simp

variable {α : Type} [Number α]

theorem uniform_iff [PartialEquivBEq α] {grids : List (Grid α)} :
    uniform grids = true ↔ grids.Pairwise fun g g' => (g.spec == g'.spec) = true := by
  cases grids with
  | nil => simp [uniform]
  | cons first rest =>
    rw [uniform, List.all_eq_true, List.pairwise_cons]
    constructor
    · intro h
      refine ⟨fun g hg => BEq.symm (h g hg), List.pairwise_iff_forall_sublist.mpr ?_⟩
      intro g g' hsub
      have hg := h g (hsub.subset List.mem_cons_self)
      have hg' := h g' (hsub.subset (List.mem_cons_of_mem g List.mem_cons_self))
      exact BEq.trans hg (BEq.symm hg')
    · exact fun h g hg => BEq.symm (h.1 g hg)

theorem uniform_perm [PartialEquivBEq α] {grids grids' : List (Grid α)} (h : grids.Perm grids') :
    uniform grids = uniform grids' := by
  rw [Bool.eq_iff_iff, uniform_iff, uniform_iff]
  exact h.pairwise_iff BEq.symm

def bring (ctx : Context α) (resample : Bool) (g : Grid α) : Except (ValueError α) (Grid α) :=
  if resample then normalizeGrid g ctx else .ok g

def bring? (ctx : Context α) (resample : Bool) :
    Option (Grid α) → Except (ValueError α) (Option (Grid α))
  | none => .ok none
  | some g => some <$> bring ctx resample g

def differing (grids : List (Option (Grid α))) : Bool := !uniform (grids.filterMap id)

theorem commonShape_eq (ctx : Context α) (grids : List (Option (Grid α))) :
    commonShape ctx grids = grids.mapM (bring? ctx (differing grids)) := by
  rw [commonShape, differing]
  cases uniform (grids.filterMap id) with
  | true =>
    rw [if_pos rfl, mapM_of_mem (g := id), List.map_id]
    intro g _
    cases g <;> rfl
  | false =>
    apply congrArg grids.mapM
    funext g
    cases g <;> rfl

theorem alignGrids_eq_ok_iff {op : String} {ctx : Context α} {n : Nat} {values : Fin n → Value α}
    {a : Aligned α} :
    alignGrids op (List.ofFn values) ctx = .ok a ↔
      ∃ sampled grids : Fin n → Option (Grid α),
        (∀ i, gridOf op ctx (values i) = .ok (sampled i)) ∧
        (∀ i, bring? ctx (differing (List.ofFn sampled)) (sampled i) = .ok (grids i)) ∧
        ∃ first rest, (List.ofFn grids).filterMap id = first :: rest ∧
          a = ⟨.grid first.spec, List.ofFn fun i => gridOperand (values i) (grids i)⟩ := by
  constructor
  · intro h
    obtain ⟨_, hmap, h⟩ := ok_of_bind h
    obtain ⟨sampled, rfl, hsampled⟩ := mapM_ofFn.mp hmap
    obtain ⟨_, hcommon, h⟩ := ok_of_bind h
    rw [commonShape_eq] at hcommon
    obtain ⟨grids, rfl, hgrids⟩ := mapM_ofFn.mp hcommon
    split at h
    · cases h
    · rename_i first rest hfirst
      cases h
      exact ⟨sampled, grids, hsampled, hgrids, first, rest, hfirst, by rw [zipWith_ofFn]⟩
  · rintro ⟨sampled, grids, hsampled, hgrids, first, rest, hfirst, rfl⟩
    rw [alignGrids, mapM_ofFn.mpr ⟨sampled, rfl, hsampled⟩, ok_bind, commonShape_eq,
      mapM_ofFn.mpr ⟨grids, rfl, hgrids⟩, ok_bind, hfirst, zipWith_ofFn]

theorem Same.shape {s t : GridSpec α} (h : Same s t) : s.nx = t.nx ∧ s.ny = t.ny := by
  rcases h with rfl | h
  · exact ⟨rfl, rfl⟩
  · rw [GridSpec.beq_parts] at h
    exact ⟨h.1, h.2.1⟩

theorem differing_eq_false_iff [PartialEquivBEq α] {n : Nat} {grids : Fin n → Option (Grid α)} :
    differing (List.ofFn grids) = false ↔ ∀ i j, i ≠ j → ∀ g g', grids i = some g →
      grids j = some g' → (g.spec == g'.spec) = true := by
  rw [differing, Bool.not_eq_false', uniform_iff, List.pairwise_filterMap, List.pairwise_ofFn]
  constructor
  · intro h i j hij g g' hg hg'
    rcases lt_or_gt_of_ne hij with hlt | hgt
    · exact h hlt g hg g' hg'
    · exact BEq.symm (h hgt g' hg' g hg)
  · intro h i j hij g hg g' hg'
    exact h i j hij.ne g g' hg hg'

theorem differing_comp [PartialEquivBEq α] {n : Nat} (grids : Fin n → Option (Grid α))
    (σ : Equiv.Perm (Fin n)) : differing (List.ofFn (grids ∘ σ)) = differing (List.ofFn grids) :=
  congrArg not (uniform_perm ((perm_ofFn_comp σ grids).filterMap id))

theorem normalizeGrid_spec {ctx : Context α} {g g' : Grid α} (h : normalizeGrid g ctx = .ok g') :
    ∃ spec, ctx.defaultGrid = .ok spec ∧ Same g'.spec spec ∧
      (g' = g ∨ g'.data.size = g'.nx * g'.ny) := by
  rw [normalizeGrid] at h
  obtain ⟨already, hon, h⟩ := ok_of_bind h
  obtain ⟨spec, hspec, hon⟩ := ok_of_bind hon
  refine ⟨spec, hspec, ?_⟩
  cases already with
  | true =>
    cases h
    refine ⟨.inr (GridSpec.beq_parts.mpr ?_), .inl rfl⟩
    simpa [Grid.spec, and_assoc] using Except.ok.inj hon
  | false =>
    obtain ⟨s, _, h⟩ := ok_of_bind h
    have hdefault := splineToGrid_yields s ctx
    rw [h] at hdefault
    obtain ⟨hspec', hsize⟩ := hdefault
    rw [hspec] at hspec'
    cases hspec'
    exact ⟨.refl _, .inr hsize⟩

theorem eq_or_whole_of_bring {ctx : Context α} {resample : Bool} {g g' : Grid α}
    (h : bring ctx resample g = .ok g') : g' = g ∨ g'.data.size = g'.nx * g'.ny := by
  cases resample with
  | true =>
    obtain ⟨_, _, _, hwhole⟩ := normalizeGrid_spec h
    exact hwhole
  | false => exact .inl (Except.ok.inj h).symm

theorem bring?_eq_some {ctx : Context α} {resample : Bool} {sampled : Option (Grid α)} {g : Grid α}
    (h : bring? ctx resample sampled = .ok (some g)) :
    ∃ g₀, sampled = some g₀ ∧ bring ctx resample g₀ = .ok g := by
  cases sampled with
  | none => cases h
  | some g₀ =>
    obtain ⟨_, hbring, hg⟩ := ok_of_map h
    cases hg
    exact ⟨g₀, rfl, hbring⟩

theorem same_spec [PartialEquivBEq α] {n : Nat} {ctx : Context α}
    {sampled grids : Fin n → Option (Grid α)}
    (h : ∀ i, bring? ctx (differing (List.ofFn sampled)) (sampled i) = .ok (grids i)) {i j : Fin n}
    {g g' : Grid α} (hg : grids i = some g) (hg' : grids j = some g') : Same g.spec g'.spec := by
  obtain ⟨g₀, hsampled, hbring⟩ := bring?_eq_some (hg ▸ h i)
  obtain ⟨g₀', hsampled', hbring'⟩ := bring?_eq_some (hg' ▸ h j)
  cases hd : differing (List.ofFn sampled) with
  | true =>
    rw [hd] at hbring hbring'
    obtain ⟨spec, hspec, hsame, _⟩ := normalizeGrid_spec hbring
    obtain ⟨spec', hspec', hsame', _⟩ := normalizeGrid_spec hbring'
    rw [hspec] at hspec'
    cases hspec'
    exact hsame.trans hsame'.symm
  | false =>
    rw [hd] at hbring hbring'
    cases hbring
    cases hbring'
    by_cases hij : i = j
    · subst hij
      rw [hsampled] at hsampled'
      cases hsampled'
      exact .refl _
    · exact .inr (differing_eq_false_iff.mp hd i j hij _ _ hsampled hsampled')

def Value.Whole : Value α → Prop
  | .grid g => g.data.size = g.nx * g.ny
  | .samples s => s.values.size = s.points.size
  | _ => True

omit [Number α] in
theorem exists_first {n : Nat} {grids : Fin n → Option (Grid α)} {first : Grid α} {rest}
    (h : (List.ofFn grids).filterMap id = first :: rest) : ∃ i, grids i = some first :=
  mem_filterMap_ofFn.mp (h ▸ List.mem_cons_self)

/-- Where the grid of a value comes from: a surface is sampled at the default nodes, and what it is
sampled to or the grid itself is brought onto the default one if it is to be resampled. -/
inductive BroughtFrom (ctx : Context α) (resample : Bool) : Value α → Option (Grid α) → Prop
  | number (x : α) : BroughtFrom ctx resample (.scalar x) none
  | grid {g g' : Grid α} (h : bring ctx resample g = .ok g') :
    BroughtFrom ctx resample (.grid g) (some g')
  | surface {s : Spline α} {g g' : Grid α} (hs : splineToGrid s ctx = .ok g)
    (h : bring ctx resample g = .ok g') : BroughtFrom ctx resample (.spline s) (some g')

theorem broughtFrom {op : String} {ctx : Context α} {resample : Bool} {v : Value α}
    {sampled grid : Option (Grid α)} (hs : gridOf op ctx v = .ok sampled)
    (hb : bring? ctx resample sampled = .ok grid) : BroughtFrom ctx resample v grid := by
  cases v with
  | scalar x =>
    cases hs
    cases hb
    exact .number x
  | samples s => cases hs
  | grid g =>
    cases hs
    obtain ⟨g', hbring, rfl⟩ := ok_of_map hb
    exact .grid hbring
  | spline s =>
    obtain ⟨g, hsample, rfl⟩ := ok_of_map hs
    obtain ⟨g', hbring, rfl⟩ := ok_of_map hb
    exact .surface hsample hbring

theorem whole_of_splineToGrid {s : Spline α} {ctx : Context α} {g : Grid α}
    (h : splineToGrid s ctx = .ok g) : g.data.size = g.nx * g.ny := by
  have hdefault := splineToGrid_yields s ctx
  rw [h] at hdefault
  exact hdefault.2

namespace BroughtFrom

variable {ctx : Context α} {resample : Bool} {v : Value α} {grid : Option (Grid α)}

theorem number_or_field (h : BroughtFrom ctx resample v grid) :
    (∃ x, v = .scalar x ∧ grid = none) ∨
      v.isField = true ∧ ∃ g, grid = some g ∧ (v.Whole → g.data.size = g.nx * g.ny) := by
  cases h with
  | number x => exact .inl ⟨x, rfl, rfl⟩
  | grid h =>
    refine .inr ⟨rfl, _, rfl, fun hwhole => ?_⟩
    rcases eq_or_whole_of_bring h with rfl | hfull
    · exact hwhole
    · exact hfull
  | surface hs h =>
    refine .inr ⟨rfl, _, rfl, fun _ => ?_⟩
    rcases eq_or_whole_of_bring h with rfl | hfull
    · exact whole_of_splineToGrid hs
    · exact hfull

end BroughtFrom

end Synoptic
