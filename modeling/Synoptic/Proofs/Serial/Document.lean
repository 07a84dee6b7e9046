import Mathlib.Data.List.Nodup
import Synoptic.Document

namespace Synoptic

variable {α : Type}

def Number.Finite [Number α] (x : α) : Prop := (x - x == 0) = true

instance [Number α] (x : α) : Decidable (Number.Finite x) := by
  unfold Number.Finite
  infer_instance

/-- The order in which the entries of a record are kept. -/
structure EntryOrder (α : Type) where
  arrange : List (Document α × Document α) → List (Document α × Document α)
  perm : ∀ entries, (arrange entries).Perm entries

def EntryOrder.byName : EntryOrder α where
  arrange entries :=
    entries.mergeSort fun a b => decide (a.1.text?.getD "" ≤ b.1.text?.getD "")
  perm entries := List.mergeSort_perm entries _

namespace Document

def onlyValue : List (Document α × Document α) → Option (Option (Document α))
  | [] => some none
  | [(_, v)] => some (some v)
  | _ => none

theorem onlyValue_perm {entries entries' : List (Document α × Document α)}
    (h : entries.Perm entries') : onlyValue entries = onlyValue entries' := by
  match entries' with
  | [] => rw [List.perm_nil.mp h]
  | [e] => rw [List.perm_singleton.mp h]
  | _ :: _ :: _ =>
    match entries with
    | [] => exact absurd h.length_eq (by simp)
    | [e] => exact absurd h.length_eq (by simp)
    | _ :: _ :: _ => rfl

theorem recordFields?_eq (names : List String) (entries : List (Document α × Document α)) :
    recordFields? names entries =
      if entries.all (·.1.isKey) then
        names.zipIdx.mapM fun (name, place) => onlyValue (entries.filter (·.1.isKeyOf name place))
      else none := rfl

theorem recordFields?_perm {entries entries' : List (Document α × Document α)}
    (h : entries.Perm entries') (names : List String) :
    recordFields? names entries = recordFields? names entries' := by
  have hvalues : ∀ name place, onlyValue (entries.filter (·.1.isKeyOf name place)) =
      onlyValue (entries'.filter (·.1.isKeyOf name place)) :=
    fun name place => onlyValue_perm (h.filter _)
  simp only [recordFields?_eq, h.all_eq, hvalues]

def entryOf (f : String × Document α) : Document α × Document α := (.text f.1, f.2)

theorem filter_name {fields : List (String × Document α)} (h : (fields.map (·.1)).Nodup)
    {f : String × Document α} (hf : f ∈ fields) : fields.filter (·.1 == f.1) = [f] := by
  induction fields with
  | nil => cases hf
  | cons g fields ih =>
    obtain ⟨hg, hfields⟩ := List.nodup_cons.mp h
    cases hf with
    | head =>
      have hrest : fields.filter (·.1 == f.1) = [] := List.filter_eq_nil_iff.mpr
        fun f' hf' hname => hg (List.mem_map.mpr ⟨f', hf', eq_of_beq hname⟩)
      rw [List.filter_cons, if_pos (beq_self_eq_true f.1), hrest]
    | tail _ hf =>
      have hname : ¬ (g.1 == f.1) = true :=
        fun hname => hg (List.mem_map.mpr ⟨f, hf, (eq_of_beq hname).symm⟩)
      rw [List.filter_cons, if_neg hname, ih hfields hf]

theorem recordFields?_entries {names : List String} {fields : List (String × Document α)}
    (hnames : names.Nodup) (hfields : fields.map (·.1) = names) :
    recordFields? names (fields.map entryOf) = some (fields.map fun f => some f.2) := by
  subst hfields
  have hvalue : ∀ f ∈ fields, ∀ place,
      onlyValue ((fields.map entryOf).filter (·.1.isKeyOf f.1 place)) = some (some f.2) := by
    intro f hf place
    have hfilter : (fields.map entryOf).filter (·.1.isKeyOf f.1 place) =
        (fields.filter (·.1 == f.1)).map entryOf := List.filter_map
    rw [hfilter, filter_name hnames hf]
    rfl
  have hread : ∀ (part : List (String × Document α)) (start : Nat), (∀ f ∈ part, f ∈ fields) →
      ((part.map (·.1)).zipIdx start).mapM (fun (name, place) =>
        onlyValue ((fields.map entryOf).filter (·.1.isKeyOf name place))) =
        some (part.map fun f => some f.2) := by
    intro part
    induction part with
    | nil => exact fun _ _ => rfl
    | cons f part ih =>
      intro start hpart
      have htail := ih (start + 1) fun g hg => hpart g (List.mem_cons_of_mem f hg)
      rw [List.map_cons, List.zipIdx_cons, List.mapM_cons, htail]
      dsimp only
      rw [hvalue f (hpart f List.mem_cons_self)]
      rfl
  have hkeys : (fields.map entryOf).all (·.1.isKey) = true := by
    simp [entryOf, isKey]
  rw [recordFields?_eq, if_pos hkeys]
  exact hread fields 0 fun _ => id

variable [Number α]

mutual

def json (order : EntryOrder α) : Document α → Document α
  | .real x => if x - x == 0 then .real x else .null
  | .list items => .list (jsonAll order items)
  | .record entries => .record (order.arrange (jsonEntries order entries))
  | d => d

def jsonAll (order : EntryOrder α) : List (Document α) → List (Document α)
  | [] => []
  | d :: ds => d.json order :: jsonAll order ds

def jsonEntries (order : EntryOrder α) :
    List (Document α × Document α) → List (Document α × Document α)
  | [] => []
  | (k, v) :: es => (k, v.json order) :: jsonEntries order es

end

theorem json_real {x : α} (h : Number.Finite x) (order : EntryOrder α) :
    (Document.real x).json order = .real x := if_pos h

theorem jsonEntries_entries (order : EntryOrder α) (fields : List (String × Document α)) :
    jsonEntries order (fields.map entryOf) =
      (fields.map fun f => (f.1, f.2.json order)).map entryOf := by
  induction fields with
  | nil => rfl
  | cons f fields ih => exact congrArg (List.cons _) ih

theorem json_ofFields (order : EntryOrder α) (fields : List (String × Document α)) :
    (ofFields fields).json order =
      .record (order.arrange ((fields.map fun f => (f.1, f.2.json order)).map entryOf)) := by
  rw [← jsonEntries_entries]
  rfl

theorem fields?_json {names : List String} {fields : List (String × Document α)}
    (hnames : names.Nodup) (hfields : fields.map (·.1) = names) (order : EntryOrder α) :
    ((ofFields fields).json order).fields? names =
      some (fields.map fun f => some (f.2.json order)) := by
  have hnamed : (fields.map fun f => (f.1, f.2.json order)).map (·.1) = names :=
    List.map_map.trans hfields
  rw [json_ofFields, fields?, recordFields?_perm (order.perm _), recordFields?_entries hnames hnamed,
    List.map_map]
  rfl

theorem json_ofFields_single (order : EntryOrder α) (name : String) (d : Document α) :
    (ofFields [(name, d)]).json order = .record [(.text name, d.json order)] := by
  rw [json_ofFields]
  exact congrArg Document.record (List.perm_singleton.mp (order.perm _))

omit [Number α] in
theorem depth_le_depthEntries {entries : List (Document α × Document α)}
    {e : Document α × Document α} (h : e ∈ entries) : e.2.depth ≤ depthEntries entries := by
  induction entries with
  | nil => cases h
  | cons e' entries ih =>
    rw [depthEntries]
    cases h with
    | head => omega
    | tail _ h =>
      have hle := ih h
      omega

theorem depth_json_lt {fields : List (String × Document α)} {name : String} {d : Document α}
    (h : (name, d) ∈ fields) (order : EntryOrder α) :
    (d.json order).depth < ((ofFields fields).json order).depth := by
  rw [json_ofFields, depth]
  apply Nat.lt_succ_of_le
  apply depth_le_depthEntries (e := entryOf (name, d.json order))
  rw [(order.perm _).mem_iff, List.map_map]
  exact List.mem_map.mpr ⟨(name, d), h, rfl⟩

omit [Number α] in
theorem optional?_of_isNull {β : Type} {read : Document α → Option β} {d : Document α}
    (h : d.isNull = false) : d.optional? read = (read d).map some := by
  cases d with
  | null => cases h
  | _ => rfl

theorem optional?_json_map {β γ : Type} {write : β → Document α} {read : Document α → Option γ}
    {f : β → γ} {o : Option β} (order : EntryOrder α)
    (hnull : ∀ b, ((write b).json order).isNull = false)
    (hread : ∀ b, o = some b → read ((write b).json order) = some (f b)) :
    ((ofOption write o).json order).optional? read = some (o.map f) := by
  cases o with
  | none => rfl
  | some b =>
    rw [ofOption, optional?_of_isNull (hnull b), hread b rfl]
    rfl

theorem optional?_json {β : Type} {write : β → Document α} {read : Document α → Option β}
    {o : Option β} (order : EntryOrder α)
    (hnull : ∀ b, ((write b).json order).isNull = false)
    (hread : ∀ b, o = some b → read ((write b).json order) = some b) :
    ((ofOption write o).json order).optional? read = some o := by
  rw [optional?_json_map (f := id) order hnull hread, Option.map_id]
  rfl

end Document

end Synoptic
