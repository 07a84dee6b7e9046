import Mathlib.Analysis.Calculus.ContDiff.Deriv
import Mathlib.Analysis.Calculus.ContDiff.Operations
import Mathlib.Analysis.InnerProductSpace.Basic
import Synoptic.Proofs.Series.Defined
import Synoptic.Proofs.Spline.Calculus

namespace Synoptic.Series

open Set

def CubicOn (S : ℝ → ℝ) (A : Set ℝ) : Prop :=
  ∃ a b c d, ∀ t ∈ A, S t = a * t ^ 3 + b * t ^ 2 + c * t + d

/-- A natural cubic spline through values at given times. Its outermost pieces continue past the
first and the last time. -/
structure NaturalSpline (times values : List ℝ) (S : ℝ → ℝ) : Prop where
  smooth : ContDiff ℝ 2 S
  interpolates : times.map S = values
  pieces : ∀ before s t after, times = before ++ s :: t :: after →
    CubicOn S {x | (before = [] ∨ s ≤ x) ∧ (after = [] ∨ x ≤ t)}
  first : ∀ t ∈ times.head?, deriv (deriv S) t = 0
  last : ∀ t ∈ times.getLast?, deriv (deriv S) t = 0

section Curve

theorem cubicOn_pieceValue (p q : Knot ℝ) (A : Set ℝ) : CubicOn (pieceValue p q) A := by
  have hcubic : ∀ α β γ δ P Q : ℝ, CubicOn
      (fun t => α * (Q - t) ^ 3 + β * (t - P) ^ 3 + γ * (Q - t) + δ * (t - P)) A :=
    fun α β γ δ P Q => ⟨β - α, 3 * α * Q - 3 * β * P, 3 * β * P ^ 2 - 3 * α * Q ^ 2 - γ + δ,
      α * Q ^ 3 - β * P ^ 3 + γ * Q - δ * P, fun t _ => by ring⟩
  exact hcubic ..

theorem CubicOn.congr {S T : ℝ → ℝ} {A : Set ℝ} (h : CubicOn T A) (heq : ∀ t ∈ A, S t = T t) :
    CubicOn S A := by
  obtain ⟨a, b, c, d, h⟩ := h
  exact ⟨a, b, c, d, fun t ht => (heq t ht).trans (h t ht)⟩

variable {ks : List (Knot ℝ)}

theorem hasDerivAt_curve (h : Ordered ks) (hmeets : Meets pieceSlope ks) (t : ℝ) :
    HasDerivAt (glued pieceValue · ks) (glued pieceSlope t ks) t :=
  hasDerivAt_glued (fun _ _ hpq => hasDerivAt_pieceValue hpq) h (meets_pieceValue h) hmeets t

theorem hasDerivAt_slope (h : Ordered ks) (hmeets : Meets pieceSlope ks) (t : ℝ) :
    HasDerivAt (glued pieceSlope · ks) (glued pieceBend t ks) t :=
  hasDerivAt_glued (fun _ _ hpq => hasDerivAt_pieceSlope hpq) h hmeets (meets_pieceBend h) t

theorem deriv_deriv_curve (h : Ordered ks) (hmeets : Meets pieceSlope ks) :
    deriv (deriv (glued pieceValue · ks)) = (glued pieceBend · ks) := by
  have hslope : deriv (glued pieceValue · ks) = (glued pieceSlope · ks) :=
    funext fun t => (hasDerivAt_curve h hmeets t).deriv
  rw [hslope]
  exact funext fun t => (hasDerivAt_slope h hmeets t).deriv

theorem bend_curve (hn : 2 ≤ ks.length) (h : Ordered ks) (hmeets : Meets pieceSlope ks)
    {k : Knot ℝ} (hk : k ∈ ks) : deriv (deriv (glued pieceValue · ks)) k.time = k.bend := by
  rw [deriv_deriv_curve h hmeets]
  exact glued_time (fun _ _ => pieceBend_left) (fun _ _ => pieceBend_right) hn h k hk

theorem contDiff_curve (h : Ordered ks) (hmeets : Meets pieceSlope ks) :
    ContDiff ℝ 2 (glued pieceValue · ks) := by
  have hslope : deriv (glued pieceValue · ks) = (glued pieceSlope · ks) :=
    funext fun t => (hasDerivAt_curve h hmeets t).deriv
  have hbend : deriv (glued pieceSlope · ks) = (glued pieceBend · ks) :=
    funext fun t => (hasDerivAt_slope h hmeets t).deriv
  rw [show (2 : WithTop ℕ∞) = 1 + 1 by norm_num, contDiff_succ_iff_deriv, hslope]
  refine ⟨fun t => (hasDerivAt_curve h hmeets t).differentiableAt, by simp, ?_⟩
  rw [contDiff_one_iff_deriv, hbend]
  exact ⟨fun t => (hasDerivAt_slope h hmeets t).differentiableAt,
    continuous_glued continuous_pieceBend h (meets_pieceBend h)⟩

theorem naturalSpline_curve (hn : 2 ≤ ks.length) (h : Ordered ks) (hmeets : Meets pieceSlope ks)
    (hfirst : ∀ k ∈ ks.head?, k.bend = 0) (hlast : ∀ k ∈ ks.getLast?, k.bend = 0) :
    NaturalSpline (ks.map (·.time)) (ks.map (·.value)) (glued pieceValue · ks) where
  smooth := contDiff_curve h hmeets
  interpolates := by
    rw [List.map_map]
    refine List.map_congr_left fun k hk => ?_
    exact glued_time (fun _ _ => pieceValue_left) (fun _ _ => pieceValue_right) hn h k hk
  pieces before s t after heq := by
    obtain ⟨_, _, rfl, rfl, hrest⟩ := List.map_eq_append_iff.mp heq
    obtain ⟨k, _, rfl, rfl, hafter⟩ := List.map_eq_cons_iff.mp hrest
    obtain ⟨k', _, rfl, rfl, rfl⟩ := List.map_eq_cons_iff.mp hafter
    refine (cubicOn_pieceValue k k' _).congr fun x hx => ?_
    obtain ⟨hbefore, hafter⟩ := hx
    rw [List.map_eq_nil_iff] at hbefore hafter
    exact glued_append h (meets_pieceValue h) hbefore hafter
  first t ht := by
    rw [List.head?_map] at ht
    obtain ⟨k, hk, rfl⟩ := Option.map_eq_some_iff.mp ht
    rw [bend_curve hn h hmeets (List.mem_of_head? hk), hfirst k hk]
  last t ht := by
    rw [List.getLast?_map] at ht
    obtain ⟨k, hk, rfl⟩ := Option.map_eq_some_iff.mp ht
    rw [bend_curve hn h hmeets (List.mem_of_getLast? hk), hlast k hk]

end Curve

section Unique

variable {S : ℝ → ℝ} {times values : List ℝ}

theorem eqOn_deriv {f g : ℝ → ℝ} {a b : ℝ} (hab : a < b) (hf : Continuous (deriv f))
    (hg : Continuous (deriv g)) (h : EqOn f g (Icc a b)) : EqOn (deriv f) (deriv g) (Icc a b) := by
  have hinside : EqOn (deriv f) (deriv g) (Ioo a b) := (h.mono Ioo_subset_Icc_self).deriv isOpen_Ioo
  rw [← closure_Ioo hab.ne]
  exact hinside.closure hf hg

noncomputable def knotAt (S : ℝ → ℝ) (t : ℝ) : Knot ℝ := ⟨t, S t, deriv (deriv S) t⟩

theorem CubicOn.eq_piece {A : Set ℝ} {s t : ℝ} (hcubic : CubicOn S A) (hS : ContDiff ℝ 2 S)
    (hst : s < t) (hsub : Icc s t ⊆ A) :
    (∀ x ∈ A, S x = pieceValue (knotAt S s) (knotAt S t) x) ∧
      ∀ x ∈ Icc s t, deriv S x = pieceSlope (knotAt S s) (knotAt S t) x := by
  obtain ⟨a, b, c, d, h⟩ := hcubic
  have hslope : deriv (fun x => a * x ^ 3 + b * x ^ 2 + c * x + d) =
      fun x => 0 * x ^ 3 + 3 * a * x ^ 2 + 2 * b * x + c :=
    funext fun x => ((Spline.hasDerivAt_cubic a b c d x).congr_deriv (by ring)).deriv
  have hbend : deriv (fun x => 0 * x ^ 3 + 3 * a * x ^ 2 + 2 * b * x + c) =
      fun x => 6 * a * x + 2 * b :=
    funext fun x => ((Spline.hasDerivAt_cubic 0 (3 * a) (2 * b) c x).congr_deriv (by ring)).deriv
  have hS' : ContDiff ℝ 1 (deriv S) := ContDiff.deriv' hS
  have hvalues : EqOn S (fun x => a * x ^ 3 + b * x ^ 2 + c * x + d) (Icc s t) :=
    fun x hx => h x (hsub hx)
  have hslopes := eqOn_deriv hst hS'.continuous (by rw [hslope]; fun_prop) hvalues
  rw [hslope] at hslopes
  have hbends := eqOn_deriv hst hS'.continuous_deriv_one (by rw [hbend]; fun_prop) hslopes
  rw [hbend] at hbends
  have hleft := left_mem_Icc.mpr hst.le
  have hright := right_mem_Icc.mpr hst.le
  have hne : t - s ≠ 0 := (sub_pos.mpr hst).ne'
  constructor
  · intro x hx
    rw [h x hx, pieceValue, knotAt, knotAt, hvalues hleft, hvalues hright, hbends hleft,
      hbends hright]
    field_simp
    ring
  · intro x hx
    rw [hslopes hx, pieceSlope_eq, knotAt, knotAt, hvalues hleft, hvalues hright, hbends hleft,
      hbends hright]
    field_simp
    ring

theorem exists_piece (x : ℝ) : ∀ {times : List ℝ}, 2 ≤ times.length → ∃ before s t after,
    times = before ++ s :: t :: after ∧ (before = [] ∨ s ≤ x) ∧ (after = [] ∨ x ≤ t)
  | [s, t], _ => ⟨[], s, t, [], rfl, .inl rfl, .inl rfl⟩
  | s :: t :: u :: rest, _ => by
    by_cases hx : x ≤ t
    · exact ⟨[], s, t, u :: rest, rfl, .inl rfl, .inr hx⟩
    · obtain ⟨before, s', t', after, heq, hbefore, hafter⟩ :=
        exists_piece x (show 2 ≤ (t :: u :: rest).length by simp)
      refine ⟨s :: before, s', t', after, by rw [heq, List.cons_append], .inr ?_, hafter⟩
      cases before with
      | nil =>
        cases heq
        exact (not_le.mp hx).le
      | cons b before => exact hbefore.resolve_left (List.cons_ne_nil _ _)

theorem exists_ends (hn : 2 ≤ times.length) :
    ∃ first inner last, times = first :: inner ++ [last] := by
  match times, hn with
  | first :: next :: rest, _ =>
    have hne : next :: rest ≠ [] := List.cons_ne_nil next rest
    refine ⟨first, (next :: rest).dropLast, (next :: rest).getLast hne, ?_⟩
    rw [List.cons_append, List.dropLast_append_getLast]

theorem lt_of_split (htimes : times.Pairwise (· < ·)) {before after : List ℝ} {s t : ℝ}
    (heq : times = before ++ s :: t :: after) : s < t := by
  subst heq
  exact List.rel_of_pairwise_cons (List.pairwise_append.mp htimes).2.1 List.mem_cons_self

theorem ordered_map_knotAt (S : ℝ → ℝ) (htimes : times.Pairwise (· < ·)) :
    Ordered (times.map (knotAt S)) :=
  (List.isChain_map (knotAt S)).mpr htimes.isChain

namespace NaturalSpline

variable (h : NaturalSpline times values S) (htimes : times.Pairwise (· < ·))

include h htimes

theorem eq_piece {before after : List ℝ} {s t : ℝ} (heq : times = before ++ s :: t :: after) :
    (∀ x, before = [] ∨ s ≤ x → after = [] ∨ x ≤ t →
      S x = pieceValue (knotAt S s) (knotAt S t) x) ∧
    ∀ x ∈ Icc s t, deriv S x = pieceSlope (knotAt S s) (knotAt S t) x := by
  have hst := lt_of_split htimes heq
  obtain ⟨hvalue, hslope⟩ := (h.pieces before s t after heq).eq_piece h.smooth hst
    fun x hx => ⟨.inr hx.1, .inr hx.2⟩
  exact ⟨fun x hbefore hafter => hvalue x ⟨hbefore, hafter⟩, hslope⟩

theorem meets : ∀ {before after : List ℝ}, times = before ++ after →
    Meets pieceSlope (after.map (knotAt S))
  | _, [], _ => trivial
  | _, [_], _ => trivial
  | _, [_, _], _ => trivial
  | before, s :: t :: u :: rest, heq => by
    have heq' : times = (before ++ [s]) ++ t :: u :: rest := by rw [heq, List.append_assoc]; rfl
    have hleft := (h.eq_piece htimes heq).2 t (right_mem_Icc.mpr (lt_of_split htimes heq).le)
    have hright := (h.eq_piece htimes heq').2 t (left_mem_Icc.mpr (lt_of_split htimes heq').le)
    exact ⟨hleft.symm.trans hright, meets heq'⟩

theorem eq_glued (hn : 2 ≤ times.length) (x : ℝ) :
    S x = glued pieceValue x (times.map (knotAt S)) := by
  obtain ⟨before, s, t, after, heq, hbefore, hafter⟩ := exists_piece x hn
  rw [(h.eq_piece htimes heq).1 x hbefore hafter]
  have hordered := ordered_map_knotAt S htimes
  rw [heq, List.map_append, List.map_cons, List.map_cons] at hordered ⊢
  rw [glued_append hordered (meets_pieceValue hordered)]
  · rwa [List.map_eq_nil_iff]
  · rwa [List.map_eq_nil_iff]

theorem knots_eq (hn : 2 ≤ times.length) : knots (times.zip values) = times.map (knotAt S) := by
  obtain ⟨first, inner, last, rfl⟩ := exists_ends hn
  have hsamples : (first :: inner ++ [last]).zip values =
      (first :: inner ++ [last]).map fun t => (t, S t) := by
    rw [← h.interpolates, List.map_prod_left_eq_zip]
  have hascending : Ascending ((first :: inner ++ [last]).map fun t => (t, S t)) :=
    (List.isChain_map _).mpr htimes.isChain
  have hbends : (first :: inner ++ [last]).map (deriv (deriv S)) =
      0 :: inner.map (deriv (deriv S)) ++ [0] := by
    have hfirst := h.first first (by simp)
    have hlast := h.last last List.getLast?_concat
    simp [hfirst, hlast]
  have hmap : (first :: inner ++ [last]).map (knotAt S) =
      withBends ((first :: inner ++ [last]).map fun t => (t, S t))
        (0 :: inner.map (deriv (deriv S)) ++ [0]) := by
    rw [← hbends, withBends, List.zipWith_map, List.zipWith_self]
    rfl
  have hmeets := h.meets htimes (List.nil_append _).symm
  rw [hmap, meets_pieceSlope_iff hascending (by simp)] at hmeets
  have hsolved := (solve_iff fun p hp => (pivots_pos (dominant_equations hascending) p hp).ne').mp
    hmeets
  rw [Series.knots_eq, hsamples, hmap, hsolved]

end NaturalSpline

end Unique

section Samples

variable {times values : List ℝ}

theorem ascending_zip (hlength : values.length = times.length) (htimes : times.Pairwise (· < ·)) :
    Ascending (times.zip values) := by
  have hfst : ((times.zip values).map Prod.fst).IsChain (· < ·) := by
    rw [List.map_fst_zip hlength.ge]
    exact htimes.isChain
  exact (List.isChain_map _).mp hfst

theorem meets_knots {samples : List (ℝ × ℝ)} (hn : 2 ≤ samples.length) (h : Ascending samples) :
    Meets pieceSlope (knots samples) := by
  have hpivots := fun p hp => (pivots_pos (dominant_equations h) p hp).ne'
  rw [knots_eq, meets_pieceSlope_iff h (by simpa using length_bends hn)]
  exact (solve_iff hpivots).mpr rfl

theorem naturalSpline_knots (hn : 2 ≤ times.length) (hlength : values.length = times.length)
    (htimes : times.Pairwise (· < ·)) :
    NaturalSpline times values (glued pieceValue · (knots (times.zip values))) := by
  have hascending := ascending_zip hlength htimes
  have hsamples : 2 ≤ (times.zip values).length := by simpa [hlength] using hn
  have hcount := length_bends hsamples
  have hbends : (knots (times.zip values)).map (·.bend) =
      0 :: solve (equations (times.zip values)) ++ [0] := by
    rw [knots_eq, map_bend_withBends hcount]
  have hfirst : ∀ k ∈ (knots (times.zip values)).head?, k.bend = 0 := by
    intro k hk
    have hhead := congrArg List.head? hbends
    rw [List.head?_map, hk] at hhead
    exact Option.some.inj hhead
  have hlast : ∀ k ∈ (knots (times.zip values)).getLast?, k.bend = 0 := by
    intro k hk
    have hend := congrArg List.getLast? hbends
    rw [List.getLast?_map, hk, List.getLast?_concat] at hend
    exact Option.some.inj hend
  have hspline := naturalSpline_curve (by rwa [length_knots hsamples]) (ordered_knots hascending)
    (meets_knots hsamples hascending) hfirst hlast
  rw [knots_eq] at hspline ⊢
  rwa [map_time_withBends hcount, map_value_withBends hcount, List.map_fst_zip hlength.ge,
    List.map_snd_zip hlength.le] at hspline

theorem NaturalSpline.hasDerivAt {S : ℝ → ℝ} (h : NaturalSpline times values S)
    (hn : 2 ≤ times.length) (htimes : times.Pairwise (· < ·)) (t : ℝ) :
    HasDerivAt S (slopeAt times values t) t := by
  rw [slopeAt, slopeOn_eq, h.knots_eq htimes hn]
  have hmeets := h.meets htimes (List.nil_append _).symm
  apply (hasDerivAt_curve (ordered_map_knotAt S htimes) hmeets t).congr_of_eventuallyEq
  exact .of_forall (h.eq_glued htimes hn)

theorem NaturalSpline.unique {S T : ℝ → ℝ} (hS : NaturalSpline times values S)
    (hT : NaturalSpline times values T) (hn : 2 ≤ times.length) (htimes : times.Pairwise (· < ·)) :
    S = T := by
  funext x
  rw [hS.eq_glued htimes hn, hT.eq_glued htimes hn, ← hS.knots_eq htimes hn,
    ← hT.knots_eq htimes hn]

theorem naturalSpline_affine (times : List ℝ) (a b : ℝ) :
    NaturalSpline times (times.map fun t => a * t + b) fun t => a * t + b := by
  have hslope : deriv (fun t => a * t + b) = fun _ => a :=
    funext fun t => (((hasDerivAt_id' t).const_mul a).add_const b).deriv.trans (mul_one a)
  have hbend : ∀ t, deriv (deriv fun t => a * t + b) t = 0 := by
    intro t
    rw [hslope, deriv_const]
  exact {
    smooth := by fun_prop
    interpolates := rfl
    pieces := fun _ _ _ _ _ => ⟨0, 0, a, b, fun t _ => by ring⟩
    first := fun t _ => hbend t
    last := fun t _ => hbend t }

/-- The slope of a series of two samples or more in the order of their times. It divides by positive
numbers only, and it is that of the one natural cubic spline through the samples; for samples of a
line it is the slope of the line. -/
theorem slopeAt_natural (hn : 2 ≤ times.length) (hlength : values.length = times.length)
    (htimes : times.Pairwise (· < ·)) :
    (times.IsChain (fun s t => 0 < t - s) ∧ (∀ p ∈ pivots (equations (times.zip values)), 0 < p) ∧
      ∀ t, slopeAt (times.map some) (values.map some) (some t) = some (slopeAt times values t)) ∧
    (∃! S, NaturalSpline times values S) ∧
    (∀ S, NaturalSpline times values S → ∀ t, HasDerivAt S (slopeAt times values t) t) ∧
    ∀ a b, values = times.map (fun t => a * t + b) → ∀ t, slopeAt times values t = a := by
  have hascending := ascending_zip hlength htimes
  refine ⟨⟨htimes.isChain.imp fun _ _ => sub_pos.mpr, pivots_pos (dominant_equations hascending),
    slopeAt_defined (by simpa [hlength] using hn) hascending⟩,
    ⟨_, naturalSpline_knots hn hlength htimes, fun T hT => ?_⟩, ?_, ?_⟩
  · exact hT.unique (naturalSpline_knots hn hlength htimes) hn htimes
  · exact fun S hS t => hS.hasDerivAt hn htimes t
  · rintro a b rfl t
    have hline := (naturalSpline_affine times a b).hasDerivAt hn htimes t
    have hslope := ((hasDerivAt_id' t).const_mul a).add_const b
    rw [mul_one] at hslope
    exact hline.unique hslope

end Samples

theorem slopeAt_peak : slopeAt [0, 1, 3] [0, 1, 0] (1 : ℝ) = 1 / 2 := by
  norm_num [slopeAt, slopeOn_eq, knots_eq, withBends, equations, solve, sweep, glued, pieceSlope_eq]

theorem slopeAt_natural_peak :
    2 ≤ [(0 : ℝ), 1, 3].length ∧ [(0 : ℝ), 1, 0].length = [(0 : ℝ), 1, 3].length ∧
      [(0 : ℝ), 1, 3].Pairwise (· < ·) ∧
      (∃! S, NaturalSpline [0, 1, 3] [0, 1, 0] S) ∧
      ∀ S, NaturalSpline [0, 1, 3] [0, 1, 0] S → HasDerivAt S (1 / 2) 1 := by
  have htimes : [(0 : ℝ), 1, 3].Pairwise (· < ·) := by norm_num
  have hlength : [(0 : ℝ), 1, 0].length = [(0 : ℝ), 1, 3].length := rfl
  obtain ⟨_, hunique, hslope, _⟩ := slopeAt_natural (by simp) hlength htimes
  exact ⟨by simp, hlength, htimes, hunique, fun S hS => slopeAt_peak ▸ hslope S hS 1⟩

end Synoptic.Series
