import Synoptic.Descriptor.Serial
import Synoptic.Proofs.Serial.Document
import Synoptic.Proofs.Serial.Timestamp

namespace Synoptic

variable {α : Type}

namespace Descriptor

def asWritten (d : Descriptor α) : Descriptor α :=
  { d with
    runTime := d.runTime.map Timestamp.asWritten
    validTime := d.validTime.map Timestamp.asWritten }

def OnBoundary (d : Descriptor α) : Prop :=
  (∀ t ∈ d.runTime, t.OnBoundary) ∧ ∀ t ∈ d.validTime, t.OnBoundary

theorem asWritten_eq_self_iff {d : Descriptor α} : d.asWritten = d ↔ d.OnBoundary := by
  have htime : ∀ o : Option Timestamp, o.map Timestamp.asWritten = o ↔ ∀ t ∈ o, t.OnBoundary := by
    intro o
    cases o with
    | none => simp
    | some t => simp [Timestamp.asWritten_eq_self_iff]
  obtain ⟨source, subsource, runTime, validTime, element, level, kind, projection⟩ := d
  simp only [asWritten, OnBoundary, mk.injEq, htime, true_and, and_true]

end Descriptor

variable [Number α]

namespace GridSpec

structure Storable (g : GridSpec α) : Prop where
  nx_lt : g.nx < Nat.pow 2 64
  ny_lt : g.ny < Nat.pow 2 64
  cell : Number.Finite g.cell

end GridSpec

namespace ProjectionKind

def Storable : ProjectionKind α → Prop
  | .latLon => True
  | .polarStereographic _ trueLat | .mercator trueLat => Number.Finite trueLat

end ProjectionKind

namespace MapFrame

structure Storable (f : MapFrame α) : Prop where
  originLat : Number.Finite f.originLat
  originLon : Number.Finite f.originLon
  referenceLon : Number.Finite f.referenceLon
  xOffset : Number.Finite f.xOffset
  yOffset : Number.Finite f.yOffset
  xExtent : Number.Finite f.xExtent
  yExtent : Number.Finite f.yExtent
  units : Number.Finite f.units

end MapFrame

structure Projection.Storable (p : Projection α) : Prop where
  kind : p.kind.Storable
  frame : p.frame.Storable
  grid : ∀ g, p.grid = some g → g.Storable

def Descriptor.Storable (d : Descriptor α) : Prop := ∀ p, d.projection = some p → p.Storable

variable (order : EntryOrder α)

theorem GridSpec.read?_json {g : GridSpec α} (h : g.Storable) :
    read? Document.reader (g.document.json order) = some g := by
  have hnames : ["nx", "ny", "cell_size"].Nodup := by decide
  have hfields : (g.document.json order).fields? ["nx", "ny", "cell_size"] =
      some [some (.natural g.nx), some (.natural g.ny), some ((Document.real g.cell).json order)] :=
    Document.fields?_json hnames rfl order
  rw [Document.json_real h.cell] at hfields
  simp only [read?, Document.reader, hfields, Option.bind_eq_bind, Option.bind_some,
    Document.count?, Document.real?]
  rw [if_pos h.nx_lt, if_pos h.ny_lt]
  rfl

theorem MapFrame.read?_json {f : MapFrame α} (h : f.Storable) :
    read? Document.reader (f.document.json order) = some f := by
  have hnames : names.Nodup := by decide
  have hfields : (f.document.json order).fields? names = some _ :=
    Document.fields?_json hnames rfl order
  simp only [read?, Document.reader, hfields, Option.bind_eq_bind, Option.bind_some,
    List.map_cons, List.map_nil, Document.json_real, h.originLat, h.originLon, h.referenceLon,
    h.xOffset, h.yOffset, h.xExtent, h.yExtent, h.units]
  rfl

namespace ProjectionKind

theorem ofDocument?_tagged (tag : String) (fields : List (String × Document α))
    (h : tagField ∉ fields.map (·.1)) :
    ∃ content : List (Document α × Document α),
      content.Perm ((fields.map fun f => (f.1, f.2.json order)).map Document.entryOf) ∧
        ofDocument? ((Document.ofFields ((tagField, .text tag) :: fields)).json order) =
          ofContent? tag (.record content) := by
  -- A tag among fields of other names is found wherever it stands, and leaves the other fields.
  rw [Document.json_ofFields, List.map_cons, List.map_cons]
  generalize hrest : (fields.map fun f => (f.1, f.2.json order)).map Document.entryOf = rest
  have hother : ∀ e ∈ rest, (e.1.text? == some tagField) = false := by
    rw [← hrest, List.map_map]
    intro e he
    obtain ⟨f, hf, rfl⟩ := List.mem_map.mp he
    exact beq_false_of_ne fun heq => h (List.mem_map.mpr ⟨f, hf, Option.some.inj heq⟩)
  have hperm := order.perm (Document.entryOf (tagField, (Document.text tag).json order) :: rest)
  generalize order.arrange _ = entries at hperm
  have htag : entries.filter (·.1.text? == some tagField) =
      [Document.entryOf (tagField, .text tag)] := by
    apply List.perm_singleton.mp
    apply (hperm.filter _).trans
    rw [List.filter_cons, if_pos (by rfl), List.filter_eq_nil_iff.mpr]
    · rfl
    · exact fun e he => Bool.eq_false_iff.mp (hother e he)
  have hcontent : (entries.filter (·.1.text? != some tagField)).Perm rest := by
    apply (hperm.filter _).trans
    rw [List.filter_cons_of_neg, List.filter_eq_self.mpr]
    · intro e he
      rw [bne, hother e he]
      rfl
    · exact Bool.eq_false_iff.mp rfl
  refine ⟨_, hcontent, ?_⟩
  rw [ofDocument?, htag]
  rfl

theorem ofDocument?_json {k : ProjectionKind α} (h : k.Storable) :
    ofDocument? (k.document.json order) = some k := by
  cases k with
  | latLon =>
    obtain ⟨content, _, hread⟩ := ofDocument?_tagged order "lat_lon" [] nofun
    exact hread
  | polarStereographic north trueLat =>
    have hnames : ["north", "true_lat"].Nodup := by decide
    obtain ⟨content, hperm, hread⟩ := ofDocument?_tagged order "polar_stereographic"
      [("north", .bool north), ("true_lat", .real trueLat)]
      (show tagField ∉ ["north", "true_lat"] by decide)
    have hfields : (Document.record content).fields? ["north", "true_lat"] =
        some [some (.bool north), some ((Document.real trueLat).json order)] :=
      (Document.recordFields?_perm hperm _).trans (Document.recordFields?_entries hnames rfl)
    rw [Document.json_real h] at hfields
    refine hread.trans ?_
    rw [ofContent?, if_neg (by decide), if_pos rfl, hfields]
    rfl
  | mercator trueLat =>
    have hnames : ["true_lat"].Nodup := by decide
    obtain ⟨content, hperm, hread⟩ := ofDocument?_tagged order "mercator"
      [("true_lat", .real trueLat)] (show tagField ∉ ["true_lat"] by decide)
    have hfields : (Document.record content).fields? ["true_lat"] =
        some [some ((Document.real trueLat).json order)] :=
      (Document.recordFields?_perm hperm _).trans (Document.recordFields?_entries hnames rfl)
    rw [Document.json_real h] at hfields
    refine hread.trans ?_
    rw [ofContent?, if_neg (by decide), if_neg (by decide), if_pos rfl, hfields]
    rfl

end ProjectionKind

theorem Projection.ofDocument?_json {p : Projection α} (h : p.Storable) :
    ofDocument? (p.document.json order) = some p := by
  have hnames : ["kind", "map", "grid"].Nodup := by decide
  have hfields : (p.document.json order).fields? ["kind", "map", "grid"] =
      some [some (p.kind.document.json order), some (p.frame.document.json order),
        some ((Document.ofOption GridSpec.document p.grid).json order)] :=
    Document.fields?_json hnames rfl order
  have hgrid : ((Document.ofOption GridSpec.document p.grid).json order).optional?
      (GridSpec.read? Document.reader) = some p.grid :=
    Document.optional?_json order (fun _ => rfl) fun g hg => GridSpec.read?_json order (h.grid g hg)
  simp only [ofDocument?, hfields, Option.bind_eq_bind, Option.bind_some, Option.getD_some, hgrid,
    ProjectionKind.ofDocument?_json order h.kind, MapFrame.read?_json order h.frame]

theorem FieldKind.ofName?_name (kind : FieldKind) : ofName? kind.name = some kind := by
  cases kind <;> decide

omit [Number α] in
theorem Timestamp.ofDocument?_document (t : Timestamp) :
    ofDocument? (t.document : Document α) = some t.asWritten := t.ofString?_serial

namespace Descriptor

theorem ofDocument?_json {d : Descriptor α} (h : d.Storable) :
    ofDocument? (d.document.json order) = some d.asWritten := by
  have hnames : names.Nodup := by decide
  have hfields : (d.document.json order).fields? names = some _ :=
    Document.fields?_json hnames rfl order
  have hrun : ((Document.ofOption Timestamp.document d.runTime).json order).optional?
      Timestamp.ofDocument? = some (d.runTime.map Timestamp.asWritten) :=
    Document.optional?_json_map order (fun _ => rfl) fun t _ => t.ofDocument?_document
  have hvalid : ((Document.ofOption Timestamp.document d.validTime).json order).optional?
      Timestamp.ofDocument? = some (d.validTime.map Timestamp.asWritten) :=
    Document.optional?_json_map order (fun _ => rfl) fun t _ => t.ofDocument?_document
  have hprojection : ((Document.ofOption Projection.document d.projection).json order).optional?
      Projection.ofDocument? = some d.projection :=
    Document.optional?_json order (fun _ => rfl) fun p hp => Projection.ofDocument?_json order (h p hp)
  simp only [ofDocument?, hfields, Option.bind_eq_bind, Option.bind_some, Option.getD_some,
    List.map_cons, List.map_nil, hrun, hvalid, hprojection]
  simp only [Document.json, Document.text?, FieldKind.ofDocument?, FieldKind.ofName?_name,
    Option.bind_some]
  rfl

end Descriptor

end Synoptic
