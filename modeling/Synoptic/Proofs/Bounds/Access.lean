import Mathlib.Logic.Function.Basic
import Synoptic.Proofs.Outcome

/-!
Checked access: elements and slices of arrays and lists by their places, where a place that is not
there stops the computation with an outcome of its own.

The checked form of a computation makes its accesses one by one. It stays in range if it comes to
what the plain form comes to, which has no such outcome.
-/

namespace Synoptic

variable {ε σ β γ : Type}

/-- Why a checked computation stops: it reached for a place that is not there, or it failed as the
plain one does. -/
inductive Stop (ε : Type)
  | outOfRange
  | error (e : ε)

abbrev Checked (ε β : Type) := Except (Stop ε) β

def inRange (r : Except ε β) : Checked ε β := r.mapError .error

theorem inRange_bind {r : Except ε β} {r' : Checked ε β} {f : β → Except ε γ}
    {f' : β → Checked ε γ} {P : β → Prop} {Q : ε → Prop} (hr : r' = inRange r) (hy : Yields r P Q)
    (hf : ∀ b, P b → f' b = inRange (f b)) : (r' >>= f') = inRange (r >>= f) := by
  rw [hr]
  cases r with
  | ok b => exact hf b hy
  | error e => rfl

theorem inRange_map {r : Except ε β} {r' : Checked ε β} {f : β → γ} (hr : r' = inRange r) :
    (f <$> r') = inRange (f <$> r) := by
  rw [hr]
  cases r with
  | ok b => rfl
  | error e => rfl

theorem inRange_mapM {ι : Type} {f : ι → Except ε β} {f' : ι → Checked ε β} :
    ∀ {l : List ι}, (∀ i ∈ l, f' i = inRange (f i)) → l.mapM f' = inRange (l.mapM f)
  | [], _ => rfl
  | i :: l, h => by
    rw [List.mapM_cons, List.mapM_cons]
    apply inRange_bind (P := fun _ => True) (Q := fun _ => True) (h i List.mem_cons_self)
    · cases f i <;> trivial
    intro b _
    apply inRange_bind (P := fun _ => True) (Q := fun _ => True)
      (inRange_mapM fun j hj => h j (List.mem_cons_of_mem i hj))
    · cases l.mapM f <;> trivial
    intro bs _
    rfl

def runInRange (x : EStateM ε σ β) : EStateM (Stop ε) σ β := fun s =>
  match x s with
  | .ok b s' => .ok b s'
  | .error e s' => .error (.error e) s'

theorem runInRange_ne_outOfRange (x : EStateM ε σ β) (s s' : σ) :
    runInRange x s ≠ .error .outOfRange s' := by
  rw [runInRange]
  cases x s with
  | ok b t => rintro ⟨⟩
  | error e t => rintro ⟨⟩

/-- From every state of `I`, a checked program stays in range and does what the plain one does,
which ends in a state of `I`, and with an answer of `P` if it does not fail. -/
structure StaysInRange (I : σ → Prop) (x' : EStateM (Stop ε) σ β) (x : EStateM ε σ β)
    (P : β → Prop) : Prop where
  eq : ∀ s, I s → x' s = runInRange x s
  ensures : Ensures I x P fun _ => True

namespace StaysInRange

variable {I : σ → Prop} {P P' : β → Prop} {R : γ → Prop}

theorem mono {x' : EStateM (Stop ε) σ β} {x : EStateM ε σ β} (h : StaysInRange I x' x P)
    (hP : ∀ b, P b → P' b) : StaysInRange I x' x P' :=
  ⟨h.eq, h.ensures.mono hP fun _ => id⟩

theorem free {x : EStateM ε σ β} {Q : ε → Prop} (h : Ensures I x P Q) :
    StaysInRange I (runInRange x) x P :=
  ⟨fun _ _ => rfl, h.mono (fun _ => id) fun _ _ => trivial⟩

theorem pure {b : β} (h : P b) : StaysInRange I (Pure.pure b) (Pure.pure b : EStateM ε σ β) P :=
  ⟨fun _ _ => rfl, Ensures.pure h⟩

theorem throw (e : ε) :
    StaysInRange I (MonadExcept.throw (Stop.error e)) (MonadExcept.throw e : EStateM ε σ β) P :=
  ⟨fun _ _ => rfl, Ensures.throw trivial⟩

theorem bind {x' : EStateM (Stop ε) σ β} {x : EStateM ε σ β} {f' : β → EStateM (Stop ε) σ γ}
    {f : β → EStateM ε σ γ} (hx : StaysInRange I x' x P)
    (hf : ∀ b, P b → StaysInRange I (f' b) (f b) R) :
    StaysInRange I (x' >>= f') (x >>= f) R := by
  refine ⟨?_, hx.ensures.bind fun b hb => (hf b hb).ensures⟩
  intro s hs
  have h := hx.ensures s hs
  change EStateM.bind x' f' s = runInRange (EStateM.bind x f) s
  rw [EStateM.bind, runInRange, EStateM.bind, hx.eq s hs, runInRange]
  cases hr : x s with
  | ok b s' =>
    rw [hr] at h
    exact (hf b h.2).eq s' h.1
  | error e s' => rfl

theorem mapM {ι : Type} {f' : ι → EStateM (Stop ε) σ β} {f : ι → EStateM ε σ β}
    {P : ι → β → Prop} :
    ∀ {l : List ι}, (∀ i ∈ l, StaysInRange I (f' i) (f i) (P i)) →
      StaysInRange I (l.mapM f') (l.mapM f) (List.Forall₂ P l)
  | [], _ => by
    rw [List.mapM_nil, List.mapM_nil]
    exact pure .nil
  | i :: l, h => by
    rw [List.mapM_cons, List.mapM_cons]
    apply bind (h i List.mem_cons_self)
    intro b hb
    apply bind (mapM fun j hj => h j (List.mem_cons_of_mem i hj))
    intro bs hbs
    exact pure (.cons hb hbs)

end StaysInRange

namespace Checked

def read {κ : Type} {valid : κ → Nat → Prop} [GetElem? κ Nat β valid] (xs : κ) (i : Nat) :
    Checked ε β :=
  match xs[i]? with
  | some x => .ok x
  | none => .error .outOfRange

def write (xs : Array β) (i : Nat) (x : β) : Checked ε (Array β) :=
  if i < xs.size then .ok (xs.setIfInBounds i x) else .error .outOfRange

def slice (xs : Array β) (start stop : Nat) : Checked ε (List β) :=
  if start ≤ stop ∧ stop ≤ xs.size then .ok (xs.extract start stop).toList
  else .error .outOfRange

def copy (xs : Array β) (start stop : Nat) (ys : Array β) : Checked ε (Array β) :=
  if start ≤ stop ∧ stop ≤ xs.size ∧ ys.size = stop - start then
    .ok (xs.extract 0 start ++ ys ++ xs.extract stop xs.size)
  else .error .outOfRange

theorem read_of_getElem? {κ : Type} {valid : κ → Nat → Prop} [GetElem? κ Nat β valid] {xs : κ}
    {i : Nat} {x : β} (h : xs[i]? = some x) : (read xs i : Checked ε β) = .ok x := by
  rw [read, h]

theorem read_array {α : Type} [Number α] {xs : Array α} {i : Nat} (h : i < xs.size) :
    (read xs i : Checked ε α) = .ok (Number.read xs i) := by
  rw [read_of_getElem? (Array.getElem?_eq_getElem h), Number.read,
    Array.getD_eq_getD_getElem?, Array.getElem?_eq_getElem h]
  rfl

theorem read_list {xs : List β} {i : Nat} (h : i < xs.length) (d : β) :
    (read xs i : Checked ε β) = .ok (xs.getD i d) := by
  rw [read_of_getElem? (List.getElem?_eq_getElem h), List.getD_eq_getElem?_getD,
    List.getElem?_eq_getElem h]
  rfl

theorem read_append (l₁ : List β) {l₂ : List β} {x : β} {i : Nat} (h : l₁.length = i) :
    (read (l₁ ++ x :: l₂).toArray i : Checked ε β) = .ok x := by
  subst h
  exact read_of_getElem? (by simp)

theorem write_append (l₁ : List β) {l₂ : List β} {x y : β} {i : Nat} (h : l₁.length = i) :
    (write (l₁ ++ x :: l₂).toArray i y : Checked ε (Array β)) = .ok (l₁ ++ y :: l₂).toArray := by
  subst h
  rw [write, if_pos (by simp)]
  simp

theorem slice_append (l₁ : List β) {l₂ l₃ : List β} {start stop : Nat} (h₁ : l₁.length = start)
    (h₂ : l₁.length + l₂.length = stop) :
    (slice (l₁ ++ l₂ ++ l₃).toArray start stop : Checked ε (List β)) = .ok l₂ := by
  subst h₁ h₂
  rw [slice, if_pos (by simp)]
  simp

theorem copy_append (l₁ l₂ : List β) {l₃ ys : List β} {start stop : Nat} (h₁ : l₁.length = start)
    (h₂ : l₁.length + l₂.length = stop) (hy : ys.length = l₂.length) :
    (copy (l₁ ++ l₂ ++ l₃).toArray start stop ys.toArray : Checked ε (Array β)) =
      .ok (l₁ ++ ys ++ l₃).toArray := by
  subst h₁ h₂
  rw [copy, if_pos (by simp [hy])]
  simp only [List.extract_toArray, List.append_toArray, List.size_toArray]
  simp [List.extract_eq_take_drop, List.take_of_length_le, ← Nat.add_assoc]

def table (k : Nat) (F : Nat → β) : Array β := Array.ofFn (n := k) fun i => F i

@[simp] theorem size_table (k : Nat) (F : Nat → β) : (table k F).size = k := by simp [table]

theorem table_congr {k : Nat} {F G : Nat → β} (h : ∀ i < k, F i = G i) : table k F = table k G := by
  simp only [table]
  congr 1
  funext i
  exact h i i.isLt

theorem replicate_eq_table (k : Nat) (x : β) : Array.replicate k x = table k fun _ => x := by
  apply Array.ext <;> simp [table]

theorem read_table {k i : Nat} {F : Nat → β} (h : i < k) :
    (read (table k F) i : Checked ε β) = .ok (F i) := by
  apply read_of_getElem?
  simp [table, h]

theorem slice_table {k start count : Nat} {F : Nat → β} (h : start + count ≤ k) :
    (slice (table k F) start (start + count) : Checked ε (List β)) =
      .ok ((List.range count).map fun i => F (start + i)) := by
  rw [slice, if_pos ⟨Nat.le_add_right .., by rwa [size_table]⟩]
  congr 1
  apply List.ext_getElem
  · simp
    omega
  · intro i hi hi'
    simp [table]

theorem slice_eq {α : Type} [Number α] {xs : Array α} {start count : Nat}
    (h : start + count ≤ xs.size) :
    (slice xs start (start + count) : Checked ε (List α)) =
      .ok ((List.range count).map fun k => Number.read xs (start + k)) := by
  have hxs : xs = table xs.size (Number.read xs) := by
    apply Array.ext
    · simp
    · intro i hi hi'
      simp [table, Number.read, Array.getD_eq_getD_getElem?]
  conv_lhs => rw [hxs]
  exact slice_table h

theorem write_table {k i : Nat} {F : Nat → β} {x : β} (h : i < k) :
    (write (table k F) i x : Checked ε (Array β)) = .ok (table k (Function.update F i x)) := by
  rw [write, if_pos (by simpa using h)]
  congr 1
  apply Array.ext
  · simp
  · intro j hj hj'
    have hjk : j < (table k F).size := by simpa using hj'
    rw [Array.getElem_setIfInBounds hjk]
    simp [table, Function.update_apply, eq_comm]

theorem table_getD (l : List β) (d : β) : table l.length (fun i => l.getD i d) = l.toArray := by
  apply Array.ext
  · simp
  · intro i hi hi'
    rw [size_table] at hi
    simp [table, List.getD_eq_getElem?_getD]

theorem zip_eq_map_range {l : List β} {l' : List γ} (h : l'.length = l.length) (d : β) (d' : γ) :
    l.zip l' = (List.range l.length).map fun i => (l.getD i d, l'.getD i d') := by
  apply List.ext_getElem
  · simp [h]
  · intro i hi hi'
    have hlt : i < l.length := by simpa using hi'
    have hlt' : i < l'.length := h ▸ hlt
    simp [List.getElem?_eq_getElem hlt, List.getElem?_eq_getElem hlt']

def upto (t : Nat) (F G : Nat → β) (i : Nat) : β := if i < t then F i else G i

theorem upto_of_lt {t i : Nat} {F G : Nat → β} (h : i < t) : upto t F G i = F i := if_pos h

theorem upto_of_le {t i : Nat} {F G : Nat → β} (h : t ≤ i) : upto t F G i = G i :=
  if_neg (Nat.not_lt.mpr h)

theorem upto_one {F G : Nat → β} (h : F 0 = G 0) : upto 1 F G = G := by
  funext i
  cases i with
  | zero => exact h
  | succ i => exact upto_of_le (Nat.le_add_left 1 i)

theorem update_upto (t : Nat) (F G : Nat → β) :
    Function.update (upto t F G) t (F t) = upto (t + 1) F G := by
  funext i
  rw [Function.update_apply, upto, upto]
  grind

theorem update_upto_succ (t : Nat) (F G : Nat → β) :
    Function.update (upto (t + 1) F G) t (G t) = upto t F G := by
  funext i
  rw [Function.update_apply, upto, upto]
  grind

theorem table_upto_self (k : Nat) (F G : Nat → β) : table k (upto k F G) = table k F :=
  table_congr fun _ hi => upto_of_lt hi

theorem table_upto_zero (k : Nat) (F G : Nat → β) : table k (upto 0 F G) = table k G :=
  table_congr fun i _ => upto_of_le (Nat.zero_le i)

theorem table_update_last (k : Nat) (F G : Nat → β) :
    table (k + 1) (Function.update F k (G k)) = table (k + 1) (upto k F G) := by
  rw [← update_upto_succ]
  apply table_congr
  intro i hi
  rw [Function.update_apply, Function.update_apply, upto_of_lt hi]

theorem foldlM_range {s : Nat → σ} {f : σ → Nat → Except ε σ} :
    ∀ n, (∀ t < n, f (s t) t = .ok (s (t + 1))) → (List.range n).foldlM f (s 0) = .ok (s n)
  | 0, _ => rfl
  | n + 1, h => by
    rw [List.range_succ, List.foldlM_append,
      foldlM_range n fun t ht => h t (Nat.lt_succ_of_lt ht), ok_bind, List.foldlM_cons,
      h n (Nat.lt_succ_self n)]
    rfl

theorem foldlM_zipIdx {s : Nat → σ} {f : σ → β × Nat → Except ε σ} :
    ∀ (l : List β) (start : Nat),
      (∀ i (h : i < l.length), f (s (start + i)) (l[i], start + i) = .ok (s (start + i + 1))) →
        (l.zipIdx start).foldlM f (s start) = .ok (s (start + l.length))
  | [], _, _ => rfl
  | x :: l, start, h => by
    have hx : f (s start) (x, start) = .ok (s (start + 1)) := h 0 (Nat.succ_pos _)
    rw [List.zipIdx_cons, List.foldlM_cons, hx, ok_bind, foldlM_zipIdx l (start + 1)]
    · rw [List.length_cons, Nat.add_right_comm, Nat.add_assoc]
    · intro i hi
      have hx := h (i + 1) (Nat.succ_lt_succ hi)
      rw [Nat.add_right_comm, Nat.add_assoc start]
      exact hx

theorem foldrM_range {s : Nat → σ} {f : Nat → σ → Except ε σ} :
    ∀ n, (∀ t < n, f t (s (t + 1)) = .ok (s t)) → (List.range n).foldrM f (s n) = .ok (s 0)
  | 0, _ => rfl
  | n + 1, h => by
    rw [List.range_succ, List.foldrM_append, List.foldrM_cons, List.foldrM_nil]
    change (f n (s (n + 1)) >>= _) = _
    rw [h n (Nat.lt_succ_self n), ok_bind, foldrM_range n fun t ht => h t (Nat.lt_succ_of_lt ht)]

end Checked

end Synoptic
