import Mathlib.Data.Set.Defs
import Synoptic.Configuration
import Synoptic.Proofs.Binary64.Product
import Synoptic.Proofs.Catalogue

namespace Synoptic

namespace Level

variable {α : Type} [Number α]

def numeral (s : List Char) : List Char :=
  let body := Text.lowerAscii (Text.trim s)
  Text.trim ((dropEnding? ['h', 'p', 'a'] body <|> dropEnding? ['m', 'b'] body).getD body)

def hectopascals? (s : List Char) : Option α := (Number.ofChars? (numeral s)).filter ((0 : α) < ·)

theorem readPressure_eq (s : List Char) :
    readPressure (α := α) s = (hectopascals? s).map (· * 100) := by
  simp only [readPressure, hectopascals?, numeral]
  split
  case h_1 p hp =>
    rw [hp]
    by_cases h : (0 : α) < p <;> simp [h]
  case h_2 hp =>
    rw [hp]
    rfl

theorem pos_of_hectopascals? {s : List Char} {p : α} (h : hectopascals? s = some p) : 0 < p := by
  simpa using (Option.filter_eq_some_iff.mp h).2

/-- A name in lower case holds a number: all of it is one, or what stands before or after its first
hyphen. -/
inductive Holds (body : List Char) (p : α) : Prop
  | whole (h : hectopascals? body = some p)
  | before {a b : List Char} (hsplit : splitHyphen? body = some (a, b)) (h : hectopascals? a = some p)
  | after {a b : List Char} (hsplit : splitHyphen? body = some (a, b)) (h : hectopascals? b = some p)

def NameHolds (name : String) (p : α) : Prop :=
  Holds (Text.lowerAscii (Text.trim name.toList)) p

theorem Holds.pos {body : List Char} {p : α} (h : Holds body p) : 0 < p := by
  cases h with
  | whole h => exact pos_of_hectopascals? h
  | before _ h => exact pos_of_hectopascals? h
  | after _ h => exact pos_of_hectopascals? h

end Level

def LevelKind.pressures {α : Type} : LevelKind α → List α
  | .pressure pa => [pa]
  | .layer upper lower => [upper, lower]
  | _ => []

section

variable {α : Type} [Number α]

theorem Number.minimum_eq (a b : α) : minimum a b = a ∨ minimum a b = b := by
  rw [minimum]
  split
  · exact .inr rfl
  · split
    · exact .inl rfl
    · exact .inr rfl

theorem Number.maximum_eq (a b : α) : maximum a b = a ∨ maximum a b = b := by
  rw [maximum]
  split
  · exact .inr rfl
  · split
    · exact .inl rfl
    · exact .inr rfl

namespace Level

theorem kind_read (name : String) :
    (read name : Level α).kind = readKind (Text.lowerAscii (Text.trim name.toList)) := by
  simp only [read]

theorem readPressure_eq_some {s : List Char} {pa : α} :
    readPressure s = some pa ↔ ∃ p, hectopascals? s = some p ∧ p * 100 = pa := by
  rw [readPressure_eq, Option.map_eq_some_iff]

inductive Reads (body : List Char) : LevelKind α → Prop
  | surface : Reads body .surface
  | meanSeaLevel : Reads body .meanSeaLevel
  | pressure {pa : α} (h : readPressure body = some pa) : Reads body (.pressure pa)
  | layer {a b : List Char} {pa pb : α} (hsplit : splitHyphen? body = some (a, b))
    (ha : readPressure a = some pa) (hb : readPressure b = some pb) :
    Reads body (.layer (Number.minimum pa pb) (Number.maximum pa pb))
  | other : Reads body .other

theorem reads_readKind (body : List Char) : Reads (α := α) body (readKind body) := by
  rw [readKind]
  split
  case isTrue => exact .surface
  split
  case isTrue => exact .meanSeaLevel
  split
  case h_1 hwhole => exact .pressure hwhole
  split
  case h_1 => exact .other
  case h_2 hsplit =>
    split
    case h_1 ha hb => exact .layer hsplit ha hb
    case h_2 => exact .other

theorem readKind_pressures {body : List Char} {pa : α} (h : pa ∈ (readKind body).pressures) :
    ∃ p, Holds body p ∧ p * 100 = pa := by
  have hreads := reads_readKind (α := α) body
  generalize readKind (α := α) body = kind at h hreads
  cases hreads with
  | surface => cases h
  | meanSeaLevel => cases h
  | other => cases h
  | pressure hwhole =>
    obtain ⟨p, hp, rfl⟩ := readPressure_eq_some.mp hwhole
    exact ⟨p, .whole hp, (List.eq_of_mem_singleton h).symm⟩
  | layer hsplit ha hb =>
    obtain ⟨p, hp, rfl⟩ := readPressure_eq_some.mp ha
    obtain ⟨q, hq, rfl⟩ := readPressure_eq_some.mp hb
    have hpa : pa = p * 100 ∨ pa = q * 100 := by
      simp only [LevelKind.pressures, List.mem_cons, List.not_mem_nil, or_false] at h
      rcases h with rfl | rfl
      · exact Number.minimum_eq _ _
      · exact Number.maximum_eq _ _
    rcases hpa with rfl | rfl
    · exact ⟨p, .before hsplit hp, rfl⟩
    · exact ⟨q, .after hsplit hq, rfl⟩

end Level

def Level.Every (P : α → Prop) (level : Level α) : Prop := ∀ pa ∈ level.kind.pressures, P pa

theorem Level.Every.bound {P : α → Prop} {level bound : Level α} (h : level.Every P)
    (hbound : level.upper? = some bound ∨ level.lower? = some bound) : bound.Every P := by
  obtain ⟨name, kind⟩ := level
  cases kind with
  | layer upper lower =>
    intro pa hpa
    rcases hbound with hbound | hbound <;> cases hbound <;>
      exact h pa (by rw [List.eq_of_mem_singleton hpa]; simp [LevelKind.pressures])
  | _ => rcases hbound with hbound | hbound <;> cases hbound

def Configuration.levelNames (c : Configuration α) : Set String :=
  {name | name ∈ c.level ∨ name ∈ c.upperLevel ∨ name ∈ c.lowerLevel}

namespace Context

/-- Contexts that have their levels from names: none at all, or one that is read and set as the level
or as a bound. Whatever else a context has may change. -/
inductive ReadFrom (names : Set String) : Context α → Prop
  | bare {ctx : Context α} (hlevel : ctx.level = none) (hupper : ctx.upper = none)
    (hlower : ctx.lower = none) : ReadFrom names ctx
  | withLevel {ctx : Context α} {name : String} (h : ReadFrom names ctx) (hname : name ∈ names) :
    ReadFrom names (ctx.withLevel (.read name))
  | upper {ctx : Context α} {name : String} (h : ReadFrom names ctx) (hname : name ∈ names) :
    ReadFrom names { ctx with upper := some (.read name) }
  | lower {ctx : Context α} {name : String} (h : ReadFrom names ctx) (hname : name ∈ names) :
    ReadFrom names { ctx with lower := some (.read name) }
  | other {ctx ctx' : Context α} (h : ReadFrom names ctx) (hlevel : ctx'.level = ctx.level)
    (hupper : ctx'.upper = ctx.upper) (hlower : ctx'.lower = ctx.lower) : ReadFrom names ctx'

structure Every (P : α → Prop) (ctx : Context α) : Prop where
  level : ∀ level ∈ ctx.level, level.Every P
  upper : ∀ level ∈ ctx.upper, level.Every P
  lower : ∀ level ∈ ctx.lower, level.Every P

variable {P : α → Prop} {ctx : Context α}

theorem Every.withLevel (h : ctx.Every P) {level : Level α} (hlevel : level.Every P) :
    (ctx.withLevel level).Every P := by
  have hself : ∀ l ∈ some level, l.Every P := fun l hl => Option.mem_some.mp hl ▸ hlevel
  rw [Context.withLevel]
  split
  case h_1 =>
    exact ⟨hself, fun l hl => hlevel.bound (.inl hl), fun l hl => hlevel.bound (.inr hl)⟩
  case h_2 => exact ⟨hself, h.upper, h.lower⟩

theorem eq_some_of_orElse {β : Type} {a b : Option β} {x : β} (h : (a <|> b) = some x) :
    a = some x ∨ b = some x := by
  cases a with
  | none => exact .inr h
  | some y => exact .inl h

theorem Every.levelFor (h : ctx.Every P) (role : LevelRole) :
    ∀ level ∈ ctx.levelFor role, level.Every P := by
  intro level hlevel
  cases role with
  | current => exact h.level level hlevel
  | upper =>
    rcases eq_some_of_orElse hlevel with hupper | hupper
    · exact h.upper level hupper
    · obtain ⟨layer, hlayer, hbound⟩ := Option.bind_eq_some_iff.mp hupper
      exact (h.level layer hlayer).bound (.inl hbound)
  | lower =>
    rcases eq_some_of_orElse hlevel with hlower | hlower
    · exact h.lower level hlower
    · obtain ⟨layer, hlayer, hbound⟩ := Option.bind_eq_some_iff.mp hlower
      exact (h.level layer hlayer).bound (.inr hbound)

theorem ReadFrom.every {names : Set String} (h : ctx.ReadFrom names) :
    ctx.Every fun pa => ∃ name ∈ names, ∃ p, Level.NameHolds name p ∧ p * 100 = pa := by
  have hread : ∀ name ∈ names, (Level.read name : Level α).Every fun pa =>
      ∃ name ∈ names, ∃ p, Level.NameHolds name p ∧ p * 100 = pa := by
    intro name hname pa hpa
    rw [Level.kind_read] at hpa
    exact ⟨name, hname, Level.readKind_pressures hpa⟩
  induction h with
  | bare hlevel hupper hlower => constructor <;> simp [hlevel, hupper, hlower]
  | withLevel h hname ih => exact ih.withLevel (hread _ hname)
  | upper h hname ih =>
    exact ⟨ih.level, fun l hl => Option.mem_some.mp hl ▸ hread _ hname, ih.lower⟩
  | lower h hname ih =>
    exact ⟨ih.level, ih.upper, fun l hl => Option.mem_some.mp hl ▸ hread _ hname⟩
  | other h hlevel hupper hlower ih =>
    exact ⟨hlevel ▸ ih.level, hupper ▸ ih.upper, hlower ▸ ih.lower⟩

section

variable {names : Set String} {named : Option String}

theorem ReadFrom.withLevel? (h : ctx.ReadFrom names) (hnamed : ∀ name ∈ named, name ∈ names) :
    ReadFrom names (match named with
      | some name => ctx.withLevel (.read name)
      | none => ctx) := by
  cases named with
  | none => exact h
  | some name => exact h.withLevel (hnamed name rfl)

theorem ReadFrom.upper? (h : ctx.ReadFrom names) (hnamed : ∀ name ∈ named, name ∈ names) :
    ReadFrom names { ctx with upper := (named.map Level.read) <|> ctx.upper } := by
  cases named with
  | none => exact h
  | some name => exact h.upper (hnamed name rfl)

theorem ReadFrom.lower? (h : ctx.ReadFrom names) (hnamed : ∀ name ∈ named, name ∈ names) :
    ReadFrom names { ctx with lower := (named.map Level.read) <|> ctx.lower } := by
  cases named with
  | none => exact h
  | some name => exact h.lower (hnamed name rfl)

end

theorem readFrom_configuration (c : Configuration α) : c.context.ReadFrom c.levelNames :=
  (((ReadFrom.bare rfl rfl rfl).withLevel? fun _ => .inl).upper? fun _ h => .inr (.inl h)).lower?
    fun _ h => .inr (.inr h)

end Context

def LevelRole.operator : LevelRole → String
  | .current => "lvlprs"
  | .upper => "uprprs"
  | .lower => "lwrprs"

def Catalogue.call? (name : String) (args : List (Value α)) (ctx : Context α) :
    Option (Except (ValueError α) (Value α)) :=
  (find? name).map fun op => op.call args ctx

theorem Catalogue.call?_pressure (role : LevelRole) (ctx : Context α) :
    call? role.operator [] ctx = some (pressureOf role (ctx.levelFor role)) := by
  have hoperator : ∃ op ∈ (pressureOperators : List (Operator α)), op.name = role.operator ∧
      op.call [] ctx = pressureOf role (ctx.levelFor role) := by
    cases role with
    | current => exact ⟨_, .head _, rfl, rfl⟩
    | upper => exact ⟨_, .tail _ (.head _), rfl, rfl⟩
    | lower => exact ⟨_, .tail _ (.tail _ (.head _)), rfl, rfl⟩
  obtain ⟨op, hmem, hname, hcall⟩ := hoperator
  have hfind : find? op.name = some op :=
    find?_of_mem (by simp [operators, hmem]) (beq_self_eq_true _)
  rw [call?, ← hname, hfind, Option.map_some, hcall]

end

/-- In a context with levels from names, each operator of pressures is refused for want of a
constant-pressure level, or answers a hundred times a number in one of the names. The answer is greater
than zero; it is finite unless the number is too large. -/
theorem Context.ReadFrom.call_pressure {names : Set String} {ctx : Context Float}
    (h : ctx.ReadFrom names) (role : LevelRole) :
    Catalogue.call? role.operator [] ctx =
        some (.error (.notPressure role ((ctx.levelFor role).map (·.name)))) ∨
      ∃ name ∈ names, ∃ p : Float, Level.NameHolds name p ∧
        Catalogue.call? role.operator [] ctx = some (.ok (.scalar (p * 100))) ∧ 0 < p * 100 ∧
        ((p * 100).isFinite = true ↔ p ≤ Binary64.largestHundredth) := by
  rw [Catalogue.call?_pressure, pressureOf.eq_def]
  split
  case h_1 name pa hlevel =>
    obtain ⟨name, hname, p, hp, rfl⟩ :=
      h.every.levelFor role _ hlevel pa List.mem_cons_self
    have hpos := hp.pos
    exact .inr ⟨name, hname, p, hp, rfl, Binary64.mul_hundred_pos hpos,
      Binary64.isFinite_mul_hundred_iff hpos⟩
  case h_2 => exact .inl rfl

namespace Layered

def configuration : Configuration Float where
  apiVersion := Configuration.standardVersion
  kind := Configuration.standardKind
  projection := .latLon
  frame := .standard
  grid := ⟨2, 2, 1⟩
  points := none
  validTime := .epoch
  level := some " 1000-500 MB"
  upperLevel := none
  lowerLevel := some "7e2hPa"
  localTime := false
  displayDistance := 1
  seriesMin := 2
  seriesMax := 5
  seriesOffsets := []

theorem levelFor_upper : configuration.context.levelFor .upper = some (.ofPressure 50000) := by
  decide +kernel

end Layered

theorem Context.ReadFrom.call_pressure_configuration :
    Layered.configuration.context.ReadFrom Layered.configuration.levelNames ∧
      ∃ name ∈ Layered.configuration.levelNames, ∃ p : Float, Level.NameHolds name p ∧
        Catalogue.call? "uprprs" [] Layered.configuration.context = some (.ok (.scalar (p * 100))) ∧
        0 < p * 100 ∧ p ≤ Binary64.largestHundredth := by
  have hread := readFrom_configuration Layered.configuration
  refine ⟨hread, ?_⟩
  rcases hread.call_pressure .upper with hrefused | ⟨name, hname, p, hp, hcall, hpos, hfinite⟩
  · rw [Catalogue.call?_pressure, Layered.levelFor_upper] at hrefused
    cases hrefused
  · refine ⟨name, hname, p, hp, hcall, hpos, hfinite.mp ?_⟩
    rw [Catalogue.call?_pressure, Layered.levelFor_upper] at hcall
    have hbound : (50000 : Float) = p * 100 := Value.scalar.inj (Except.ok.inj (Option.some.inj hcall))
    rw [← hbound]
    decide +kernel

/-- A level that is named by infinity answers an infinite pressure. -/
theorem Context.ReadFrom.call_pressure_infinite :
    ∃ ctx : Context Float, ctx.ReadFrom {"inf"} ∧ ∃ pa,
      Catalogue.call? "lvlprs" [] ctx = some (.ok (.scalar pa)) ∧ pa.isFinite = false := by
  refine ⟨(Context.standard .standard .epoch).withLevel (.read "inf"),
    (ReadFrom.bare rfl rfl rfl).withLevel rfl, Binary64.infinity false, ?_, by decide +kernel⟩
  have hlevel : (Level.read "inf" : Level Float) = ⟨"inf", .pressure (Binary64.infinity false)⟩ := by
    decide +kernel
  rw [hlevel]
  exact Catalogue.call?_pressure .current _

end Synoptic
