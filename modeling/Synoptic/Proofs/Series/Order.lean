import Mathlib.Data.List.Pairwise
import Synoptic.Operator.Tendency
import Synoptic.Proofs.Binary64.Order
import Synoptic.Proofs.Typing.Alignment

namespace Synoptic

open Binary64

def Distinct (times : List Float) : Prop := times.Pairwise fun x y => (x == y) = false

namespace Distinct

theorem perm {times times' : List Float} (h : times.Perm times') :
    Distinct times ↔ Distinct times' :=
  h.pairwise_iff fun hxy => (beq_comm _ _).trans hxy

theorem beq_getElem {times : List Float} (h : Distinct times) {i j : Nat} (hi : i < times.length)
    (hj : j < times.length) (hij : i ≠ j) : (times[i] == times[j]) = false := by
  rw [Distinct, List.pairwise_iff_getElem] at h
  rcases Nat.lt_or_gt_of_ne hij with hlt | hgt
  · exact h i j hi hj hlt
  · exact (beq_comm _ _).trans (h j i hj hi hgt)

end Distinct

theorem repeated?_eq_none_iff {times : List Float}
    (h : times.Pairwise fun x y => orderKey x ≤ orderKey y) :
    repeated? times = none ↔ Distinct times := by
  -- In the order of the keys, times are distinct when neighbours are.
  induction times with
  | nil => simp [repeated?, Distinct]
  | cons x times ih =>
    cases times with
    | nil => simp [repeated?, Distinct]
    | cons y rest =>
      have hrest := ih h.tail
      rw [Distinct] at hrest ⊢
      rw [repeated?, List.pairwise_cons]
      split
      case isTrue hxy => simp [hxy]
      case isFalse hxy =>
        rw [hrest, iff_and_self]
        intro _ z hz
        apply eq_false_of_ne_true
        obtain rfl | hz := List.mem_cons.mp hz
        · exact hxy
        · -- A time equal to `x` further on would leave `y` between two equal ones.
          intro hxz
          have hkey := List.rel_of_pairwise_cons h List.mem_cons_self
          have hkey' := List.rel_of_pairwise_cons h.tail hz
          rcases eq_of_between hxz hkey hkey' with rfl | rfl
          · exact hxy (beq_trans hxz (beq_comm y z ▸ hxz))
          · exact hxy hxz

def byTime {β : Type} (series : List (Float × β)) : List (Float × β) :=
  series.mergeSort fun a b => Number.totalLE a.1 b.1

section Sorting

variable {β : Type} {series series' : List (Float × β)}

theorem pairwise_byTime (series : List (Float × β)) :
    (byTime series).Pairwise fun a b => orderKey a.1 ≤ orderKey b.1 := by
  apply (List.pairwise_mergeSort _ _ _).imp
  · intro a b h
    exact of_decide_eq_true h
  · intro a b c hab hbc
    exact decide_eq_true (Int.le_trans (of_decide_eq_true hab) (of_decide_eq_true hbc))
  · intro a b
    rw [Bool.or_eq_true]
    exact (Int.le_total (orderKey a.1) (orderKey b.1)).imp decide_eq_true decide_eq_true

theorem byTime_perm (series : List (Float × β)) : (byTime series).Perm series :=
  List.mergeSort_perm _ _

theorem repeated?_byTime :
    repeated? ((byTime series).map Prod.fst) = none ↔ Distinct (series.map Prod.fst) := by
  rw [repeated?_eq_none_iff (List.pairwise_map.mpr (pairwise_byTime series))]
  exact Distinct.perm ((byTime_perm series).map Prod.fst)

theorem byTime_eq_of_perm (hperm : series.Perm series') (hnum : ∀ m ∈ series, m.1.isNaN = false)
    (hdistinct : Distinct (series.map Prod.fst)) : byTime series = byTime series' := by
  have hsorted : (byTime series).Perm (byTime series') :=
    (byTime_perm series).trans (hperm.trans (byTime_perm series').symm)
  apply List.Perm.eq_of_pairwise _ (pairwise_byTime series) (pairwise_byTime series') hsorted
  intro a b ha hb hab hba
  have hkey : a.1 = b.1 := orderKey_injective (Int.le_antisymm hab hba)
  replace ha := (byTime_perm series).mem_iff.mp ha
  replace hb := (byTime_perm series).mem_iff.mp (hsorted.mem_iff.mpr hb)
  have : Std.Symm fun a b : Float × β => (a.1 == b.1) = false :=
    ⟨fun _ _ h => (beq_comm _ _).trans h⟩
  by_contra hne
  have h := (List.pairwise_map.mp hdistinct).forall ha hb hne
  rw [← hkey, beq_self, hnum a ha] at h
  cases h

end Sorting

def OfOneKind (members : List (Value Float)) : Prop :=
  ∀ v ∈ members, ∀ w ∈ members, v.kind = w.kind

theorem OfOneKind.perm {members members' : List (Value Float)} (h : members.Perm members') :
    OfOneKind members ↔ OfOneKind members' := by
  simp only [OfOneKind, h.mem_iff]

theorem find?_kind_eq_none_iff {members : List (Value Float)} :
    (members.map (·.kind)).find? (· ≠ (members.map (·.kind)).headD .scalar) = none ↔
      OfOneKind members := by
  cases members with
  | nil => simp [OfOneKind]
  | cons v members =>
    simp only [List.map_cons, List.headD_cons, List.find?_eq_none, OfOneKind, decide_eq_true_iff,
      not_not]
    constructor
    · intro h w hw w' hw'
      exact (h _ (List.mem_map_of_mem hw)).trans (h _ (List.mem_map_of_mem hw')).symm
    · intro h k hk
      obtain ⟨w, hw, rfl⟩ := List.mem_map.mp (List.map_cons ▸ hk)
      exact h w hw v List.mem_cons_self

def slopes (sorted : List (Float × Value Float)) (ctx : Context Float) :
    Except (ValueError Float) (Value Float) := do
  let values ← sorted.mapM fun m => onGrid ctx m.2
  let aligned ← align "ddt" values ctx
  .ok (aligned.apply fun xs => Series.slopeAt (sorted.map Prod.fst) xs 0 / 60)

theorem tendency_eq_ok_iff {series : List (Float × Value Float)} {ctx : Context Float}
    {v : Value Float} :
    tendency (series.map Prod.fst) (series.map Prod.snd) ctx = .ok v ↔
      ¬ (series.length < ctx.seriesMin ∨ ctx.seriesMax < series.length) ∧
        OfOneKind (series.map Prod.snd) ∧ Distinct (series.map Prod.fst) ∧
          slopes (byTime series) ctx = .ok v := by
  have hzip : (series.map Prod.fst).zip (series.map Prod.snd) = series := by
    rw [List.zip_map']
    exact List.map_id series
  rw [← repeated?_byTime, ← find?_kind_eq_none_iff, tendency, hzip]
  simp only [List.length_map, ne_eq, not_true_eq_false, if_false]
  split
  case isTrue h => simp [h]
  case isFalse h =>
    split
    · rename_i hk
      rw [hk]
      simp
    · rename_i hk
      rw [hk]
      split
      · rename_i hr
        simp [byTime, hr]
      · rename_i hr
        simp [byTime, hr, h, slopes]

/-- The change with time does not depend on the order of the members, and there is none where two
times are equal. -/
theorem tendency_order (ctx : Context Float) (series : List (Float × Value Float)) :
    (∀ series', series.Perm series' → (∀ m ∈ series, m.1.isNaN = false) → ∀ v,
      tendency (series'.map Prod.fst) (series'.map Prod.snd) ctx = .ok v ↔
        tendency (series.map Prod.fst) (series.map Prod.snd) ctx = .ok v) ∧
      ∀ i j (hi : i < series.length) (hj : j < series.length), i ≠ j →
        (series[i].1 == series[j].1) = true →
          ∃ e, tendency (series.map Prod.fst) (series.map Prod.snd) ctx = .error e := by
  constructor
  · intro series' hperm hnum v
    rw [tendency_eq_ok_iff, tendency_eq_ok_iff, ← hperm.length_eq,
      ← OfOneKind.perm (hperm.map Prod.snd), ← Distinct.perm (hperm.map Prod.fst)]
    apply and_congr_right'
    apply and_congr_right'
    apply and_congr_right
    intro hdistinct
    rw [byTime_eq_of_perm hperm hnum hdistinct]
  · intro i j hi hj hij hbeq
    cases h : tendency (series.map Prod.fst) (series.map Prod.snd) ctx with
    | error e => exact ⟨e, rfl⟩
    | ok v =>
      have hdistinct := (tendency_eq_ok_iff.mp h).2.2.1
      have hne := hdistinct.beq_getElem (by simpa using hi) (by simpa using hj) hij
      rw [List.getElem_map, List.getElem_map, hbeq] at hne
      cases hne

namespace Reordered

def context : Context Float := .standard ⟨.mercator 0, .standard, none⟩ .epoch

def rising : List (Float × Value Float) := [(-120, .scalar 1), (-60, .scalar 3), (0, .scalar 5)]

def repeating : List (Float × Value Float) := [(0, .scalar 5), (-60, .scalar 3), (-0.0, .scalar 1)]

theorem tendency_rising :
    ∃ v, tendency (rising.map Prod.fst) (rising.map Prod.snd) context = .ok v := by
  have hsorted : byTime rising = rising := List.mergeSort_of_pairwise (by decide +kernel)
  obtain ⟨v, hv, _⟩ := exists_ok_of_any (r := slopes rising context) (p := fun _ => true)
    (by decide +kernel)
  refine ⟨v, tendency_eq_ok_iff.mpr ⟨by decide, ?_, ?_, ?_⟩⟩
  · simp [OfOneKind, rising, Value.kind]
  · rw [Distinct]
    decide +kernel
  · rw [hsorted]
    exact hv

end Reordered

open Reordered in
theorem tendency_order_rising :
    (∃ v, tendency [0, -60, -120] [.scalar 5, .scalar 3, .scalar 1] context = .ok v ∧
      tendency [-120, -60, 0] [.scalar 1, .scalar 3, .scalar 5] context = .ok v) ∧
    ∃ e, tendency [0, -60, -0.0] [.scalar 5, .scalar 3, .scalar 1] context = .error e := by
  constructor
  · obtain ⟨v, hv⟩ := tendency_rising
    exact ⟨v, ((tendency_order context rising).1 rising.reverse (List.reverse_perm rising).symm
      (by decide +kernel) v).mpr hv, hv⟩
  · exact (tendency_order context repeating).2 0 2 (by decide) (by decide) (by decide)
      (by decide +kernel)

end Synoptic
