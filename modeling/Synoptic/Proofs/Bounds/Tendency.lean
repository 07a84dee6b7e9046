import Synoptic.Proofs.Bounds.Operators

namespace Synoptic

variable {ε α : Type} [Number α]

namespace Checked

def placesByTime (times : List α) : Checked ε (List Nat) := do
  let keyed ← (List.range times.length).mapM fun i => do return (← read times i, i)
  return (keyed.mergeSort fun a b => Number.totalLE a.1 b.1).map (·.2)

def onGrid (ctx : Context α) : Value α → Checked (ValueError α) (Value α)
  | .spline s => .grid <$> splineToGrid s ctx
  | .grid g => .grid <$> normalizeGrid g ctx
  | v => .ok v

def tendency (times : List α) (members : List (Value α)) (ctx : Context α) :
    Checked (ValueError α) (Value α) := do
  let length := members.length
  if length < ctx.seriesMin ∨ ctx.seriesMax < length then
    .error (.error (.seriesLength length ctx.seriesMin ctx.seriesMax))
  else if times.length ≠ length then
    .error (.error (.shape "ddt" (.seriesTimes times.length length)))
  else
    let first := (← read members 0).kind
    match (members.map (·.kind)).find? (· ≠ first) with
    | some other => .error (.error (.mixedSeries first other))
    | none =>
      let places ← placesByTime times
      let sortedTimes ← places.mapM (read times)
      match repeated? sortedTimes with
      | some time => .error (.error (.repeatedTime time))
      | none =>
        let values ← places.mapM fun i => do onGrid ctx (← read members i)
        let aligned ← align "ddt" values ctx
        apply aligned fun xs => do
          return (← slopeAt sortedTimes.toArray xs.toArray 0) / 60

theorem exists_placesByTime {β : Type} (times : List α) (M : Nat → β) : ∃ places,
    (placesByTime times : Checked ε (List Nat)) = .ok places ∧ (∀ i ∈ places, i < times.length) ∧
      places.map (fun i => (times.getD i Number.absent, M i)) =
        ((List.range times.length).map fun i => (times.getD i Number.absent, M i)).mergeSort
          fun a b => Number.totalLE a.1 b.1 := by
  let keyed := (List.range times.length).map fun i => (times.getD i Number.absent, i)
  have hread : (List.range times.length).mapM (fun i => do return (← read times i, i)) =
      (.ok keyed : Checked ε (List (α × Nat))) := by
    apply mapM_of_mem
    intro i hi
    rw [read_list (List.mem_range.mp hi) Number.absent]
    rfl
  have hkeyed : ∀ a ∈ keyed, a.1 = times.getD a.2 Number.absent ∧ a.2 < times.length := by
    intro a ha
    obtain ⟨i, hi, rfl⟩ := List.mem_map.mp ha
    exact ⟨rfl, List.mem_range.mp hi⟩
  refine ⟨(keyed.mergeSort fun a b => Number.totalLE a.1 b.1).map (·.2), ?_, ?_, ?_⟩
  · rw [placesByTime, hread]
    rfl
  · intro i hi
    obtain ⟨a, ha, rfl⟩ := List.mem_map.mp hi
    exact (hkeyed a (List.mem_mergeSort.mp ha)).2
  · rw [List.map_map, List.map_mergeSort (s := fun a b => Number.totalLE a.1 b.1)]
    · rw [List.map_map]
      rfl
    · intro a ha b hb
      rw [(hkeyed a ha).1, (hkeyed b hb).1]
      rfl

end Checked

section Tendency

variable {ι : Type} {N : Nat} {ctx : Context α}

theorem onGrid_within (N : Nat) (ctx : Context α) (v : Value α) :
    Yields (onGrid ctx v) (·.Within N) fun _ => True := by
  cases v with
  | scalar x => trivial
  | samples s => trivial
  | grid g => exact Yields.map ((Yields.trivial _).mono (fun _ _ => trivial) fun _ => id)
  | spline s => exact Yields.map ((Yields.trivial _).mono (fun _ _ => trivial) fun _ => id)

theorem onGrid_proper {v : Value α} (hv : v.Proper N ctx) :
    Yields (onGrid ctx v) (·.Proper N ctx) fun _ => True :=
  (onGrid_yields hv.1).proper (onGrid_within N ctx v)

theorem onGrids_proper {l : List ι} {f : ι → Value α} (h : ∀ i ∈ l, (f i).Proper N ctx) :
    Yields (l.mapM fun i => onGrid ctx (f i))
      (fun values => (∀ v ∈ values, v.Proper N ctx) ∧ values.length = l.length) fun _ => True := by
  apply ((Yields.mapM fun i hi => onGrid_proper (h i hi)).and (Yields.length_mapM ..)).mono _
    fun _ => id
  rintro values ⟨hvalues, hlength⟩
  refine ⟨fun v hv => ?_, hlength⟩
  obtain ⟨_, _, hproper⟩ := exists_left_of_forall₂ hvalues hv
  exact hproper

theorem tendency_within (N : Nat) (times : List α) (members : List (Value α)) (ctx : Context α) :
    Yields (tendency times members ctx) (·.Within N) fun _ => True := by
  rw [tendency]
  dsimp only
  split
  · trivial
  split
  · trivial
  split
  · trivial
  split
  · trivial
  apply Yields.bind (Yields.trivial _)
  intro values _
  apply Yields.bind (Yields.trivial _)
  intro aligned _
  exact aligned.apply_within N _

end Tendency

namespace Checked

section Bounded

variable {N : Nat} (hN : Number.Counts α N) {ctx : Context α} (hctx : ctx.Within N)

include hN hctx

theorem onGrid_eq {v : Value α} (hv : v.Proper N ctx) :
    onGrid ctx v = inRange (Synoptic.onGrid ctx v) := by
  cases v with
  | scalar x => rfl
  | samples s => rfl
  | grid g =>
    exact inRange_map (normalizeGrid_eq hN (defaultGrid_within hctx.projection hv.1.2.1) ctx)
  | spline s => exact inRange_map (splineToGrid_eq hN hv.2 ctx)

theorem slopes_eq {times : List α} {values : List (Value α)} (htwo : 2 ≤ times.length)
    (hlength : values.length = times.length) (hvalues : ∀ v ∈ values, v.Proper N ctx) :
    (do
      let aligned ← align "ddt" values ctx
      apply aligned fun xs => do return (← slopeAt times.toArray xs.toArray 0) / 60) =
    inRange (do
      let aligned ← Synoptic.align "ddt" values ctx
      .ok (aligned.apply fun xs => Series.slopeAt times xs 0 / 60)) := by
  apply apply_align_eq hN hctx.projection (fun v hm => (hvalues v hm).1)
    fun v hm => (hvalues v hm).2
  intro xs hxs
  rw [slopeAt_eq htwo (hxs.trans hlength)]
  rfl

variable {times : List α} {members : List (Value α)} (hm : ∀ v ∈ members, v.Proper N ctx)

include hm

omit hN hctx in
theorem getD_proper {i : Nat} (hi : i < members.length) :
    (members.getD i (.scalar 0)).Proper N ctx := by
  rw [List.getD_eq_getElem _ _ hi]
  exact hm _ (List.getElem_mem hi)

theorem placedSlopes_eq {places : List Nat} (hlt : ∀ i ∈ places, i < members.length)
    (htwo : 2 ≤ times.length) (hlength : places.length = times.length) :
    (do
      let values ← places.mapM fun i => do onGrid ctx (← read members i)
      let aligned ← align "ddt" values ctx
      apply aligned fun xs => do return (← slopeAt times.toArray xs.toArray 0) / 60) =
    inRange (do
      let values ← places.mapM fun i => Synoptic.onGrid ctx (members.getD i (.scalar 0))
      let aligned ← Synoptic.align "ddt" values ctx
      .ok (aligned.apply fun xs => Series.slopeAt times xs 0 / 60)) := by
  apply inRange_bind (P := fun values => (∀ v ∈ values, v.Proper N ctx) ∧
    values.length = places.length) (Q := fun _ => True)
  · apply inRange_mapM
    intro i hi
    rw [read_list (hlt i hi) (.scalar 0)]
    exact onGrid_eq hN hctx (getD_proper hm (hlt i hi))
  · exact onGrids_proper fun i hi => getD_proper hm (hlt i hi)
  rintro values ⟨hvalues, hcount⟩
  exact slopes_eq hN hctx htwo (hcount.trans hlength) hvalues

theorem tendency_eq :
    tendency times members ctx = inRange (Synoptic.tendency times members ctx) := by
  rw [tendency, Synoptic.tendency]
  dsimp only
  by_cases hrange : members.length < ctx.seriesMin ∨ ctx.seriesMax < members.length
  · rw [if_pos hrange, if_pos hrange]
    rfl
  by_cases htimes : times.length ≠ members.length
  · rw [if_neg hrange, if_neg hrange, if_pos htimes, if_pos htimes]
    rfl
  rw [if_neg hrange, if_neg hrange, if_neg htimes, if_neg htimes]
  have hlength : members.length = times.length := (not_not.mp htimes).symm
  have htwo : 2 ≤ times.length := by
    have := hctx.series
    omega
  have hfirst : (members.map (·.kind)).headD .scalar = (members.getD 0 (.scalar 0)).kind := by
    cases members with
    | nil => rfl
    | cons v vs => rfl
  rw [read_list (by omega) (.scalar 0), ok_bind, hfirst]
  cases (members.map (·.kind)).find? (· ≠ (members.getD 0 (.scalar 0)).kind) with
  | some other => rfl
  | none =>
    obtain ⟨places, hplaces, hlt, hsorted⟩ :=
      exists_placesByTime (ε := ValueError α) times fun i => members.getD i (.scalar 0)
    rw [← zip_eq_map_range hlength] at hsorted
    have hcount : places.length = times.length := by
      simpa [hlength] using congrArg List.length hsorted
    have hread : places.mapM (read times) =
        (.ok (places.map fun i => times.getD i Number.absent) : Checked (ValueError α) (List α)) :=
      mapM_of_mem fun i hi => read_list (hlt i hi) Number.absent
    dsimp only
    rw [hplaces, ok_bind, hread, ok_bind, ← hsorted, List.map_map]
    change (match repeated? (places.map fun i => times.getD i Number.absent) with
      | some time => _ | none => _) = inRange
        (match repeated? (places.map fun i => times.getD i Number.absent) with
          | some time => _ | none => _)
    cases repeated? (places.map fun i => times.getD i Number.absent) with
    | some time => rfl
    | none =>
      rw [List.mapM_map]
      exact placedSlopes_eq hN hctx hm (fun i hi => hlength ▸ hlt i hi)
        (by rwa [List.length_map, hcount]) (by rw [List.length_map])

end Bounded

end Checked

end Synoptic
