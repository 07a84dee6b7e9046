import Synoptic.Proofs.Binary64.Product
import Synoptic.Decimal.Literal

namespace Synoptic.Decimal

open Float.Model Float.Model.UnpackedFloat

inductive IsSign : List Char → Bool → Prop
  | none : IsSign [] false
  | plus : IsSign ['+'] false
  | minus : IsSign ['-'] true

def Signed (text : List Char) : Prop :=
  ∃ sign negative digits, text = sign ++ digits ∧ IsSign sign negative ∧ digits ≠ [] ∧
    ∀ c ∈ digits, c.isDigit = true

def IsPlain (text : List Char) : Prop := ∀ c ∈ text, c.isDigit = true ∨ c = '.'

/-- Digits and points, and after them an exponent or nothing. -/
inductive Unsigned : List Char → Prop
  | plain {front : List Char} (h : IsPlain front) : Unsigned front
  | scaled {front power : List Char} {mark : Char} (h : IsPlain front)
    (hmark : mark = 'e' ∨ mark = 'E') (hpower : Signed power) : Unsigned (front ++ mark :: power)

theorem splitSign_split (text : List Char) :
    ∃ sign, text = sign ++ (splitSign text).2 ∧ IsSign sign (splitSign text).1 := by
  rw [splitSign.eq_def]
  split
  · exact ⟨['-'], rfl, .minus⟩
  · exact ⟨['+'], rfl, .plus⟩
  · exact ⟨[], rfl, .none⟩

theorem signed_of_exponent? {text : List Char} {e : Int} (h : exponent? text = some e) :
    Signed text := by
  obtain ⟨sign, htext, hsign⟩ := splitSign_split text
  rw [exponent?] at h
  dsimp only at h
  split at h
  case isTrue => cases h
  case isFalse hdigits =>
    simp only [Bool.or_eq_true, List.isEmpty_iff, Bool.not_eq_true', not_or, Bool.not_eq_false,
      List.all_eq_true] at hdigits
    exact ⟨sign, _, _, htext, hsign, hdigits.1, hdigits.2⟩

def IsTail (tail : List Char) : Prop :=
  tail = [] ∨ ∃ mark power, tail = mark :: power ∧ (mark = 'e' ∨ mark = 'E') ∧ Signed power

theorem Unsigned.of_tail {front tail : List Char} (hfront : IsPlain front) (htail : IsTail tail) :
    Unsigned (front ++ tail) := by
  rcases htail with rfl | ⟨mark, power, rfl, hmark, hpower⟩
  · rw [List.append_nil]
    exact .plain hfront
  · exact .scaled hfront hmark hpower

theorem isPlain_digits (text : List Char) : IsPlain (text.takeWhile Char.isDigit) :=
  fun _ hc => .inl (List.mem_takeWhile_imp hc)

theorem IsPlain.append {front text : List Char} (hfront : IsPlain front) (htext : IsPlain text) :
    IsPlain (front ++ text) :=
  List.forall_mem_append.mpr ⟨hfront, htext⟩

def fractionOf : List Char → List Char × List Char
  | '.' :: r => (r.takeWhile Char.isDigit, r.dropWhile Char.isDigit)
  | r => ([], r)

theorem fractionOf_split (text : List Char) :
    ∃ point, text = point ++ (fractionOf text).2 ∧ IsPlain point := by
  rw [fractionOf.eq_def]
  split
  case h_1 r =>
    refine ⟨'.' :: r.takeWhile Char.isDigit, ?_, ?_⟩
    · rw [List.cons_append, List.takeWhile_append_dropWhile]
    · exact List.forall_mem_cons.mpr ⟨.inr rfl, isPlain_digits r⟩
  case h_2 => exact ⟨[], rfl, by simp [IsPlain]⟩

theorem unsigned?_eq (negative : Bool) (text : List Char) : unsigned? negative text =
    let whole := text.takeWhile Char.isDigit
    let (fraction, tail) := fractionOf (text.dropWhile Char.isDigit)
    if whole.isEmpty && fraction.isEmpty then none
    else
      match tail with
      | [] => some (.decimal negative (naturalOf (whole ++ fraction)) (-(fraction.length : Int)))
      | c :: r =>
        if c == 'e' || c == 'E' then
          (exponent? r).map fun e =>
            .decimal negative (naturalOf (whole ++ fraction)) (e - fraction.length)
        else none := rfl

theorem unsigned_of_unsigned? {negative : Bool} {text : List Char} {lit : Literal}
    (h : unsigned? negative text = some lit) :
    Unsigned text ∧ ∃ coefficient exponent, lit = .decimal negative coefficient exponent := by
  obtain ⟨point, hrest, hpoint⟩ := fractionOf_split (text.dropWhile Char.isDigit)
  have htext : text = text.takeWhile Char.isDigit ++ point ++
      (fractionOf (text.dropWhile Char.isDigit)).2 := by
    rw [List.append_assoc, ← hrest, List.takeWhile_append_dropWhile]
  have hfront := (isPlain_digits text).append hpoint
  rw [unsigned?_eq] at h
  generalize fractionOf (text.dropWhile Char.isDigit) = parts at h htext
  obtain ⟨fraction, tail⟩ := parts
  dsimp only at h htext
  rw [htext]
  split at h
  case isTrue => cases h
  case isFalse =>
    split at h
    case h_1 =>
      cases h
      exact ⟨.of_tail hfront (.inl rfl), _, _, rfl⟩
    case h_2 mark power =>
      split at h
      case isTrue hmark =>
        obtain ⟨e, he, hlit⟩ := Option.map_eq_some_iff.mp h
        have htail : IsTail (mark :: power) :=
          .inr ⟨mark, power, rfl, by simpa using hmark, signed_of_exponent? he⟩
        exact ⟨.of_tail hfront htail, _, _, hlit.symm⟩
      case isFalse => cases h

theorem IsPlain.notMem_hyphen {text : List Char} (h : IsPlain text) : '-' ∉ text := by
  intro hmem
  rcases h '-' hmem with hdigit | hpoint
  · exact absurd hdigit (by decide)
  · exact absurd hpoint (by decide)

theorem notMem_hyphen_digits {digits : List Char} (h : ∀ c ∈ digits, c.isDigit = true) :
    '-' ∉ digits := fun hmem => absurd (h '-' hmem) (by decide)

def EndsInMark (text : List Char) : Prop := ∃ mark ∈ text.getLast?, mark = 'e' ∨ mark = 'E'

theorem EndsInMark.cons {text : List Char} (h : EndsInMark text) (c : Char) :
    EndsInMark (c :: text) := by
  obtain ⟨mark, hlast, hmark⟩ := h
  refine ⟨mark, ?_, hmark⟩
  rw [List.getLast?_cons, Option.mem_def.mp hlast]
  rfl

theorem Unsigned.hyphen {x y : List Char} (h : Unsigned (x ++ '-' :: y)) :
    EndsInMark x ∧ '-' ∉ y := by
  generalize htext : x ++ '-' :: y = text at h
  cases h with
  | plain hfront => exact absurd (htext ▸ by simp) hfront.notMem_hyphen
  | @scaled front power mark hfront hmark hpower =>
    obtain ⟨sign, negative, digits, rfl, hsign, -, hdigits⟩ := hpower
    have hafter := notMem_hyphen_digits hdigits
    have hbefore : '-' ∉ front ++ [mark] := by
      rw [List.mem_append, List.mem_singleton, not_or]
      refine ⟨hfront.notMem_hyphen, ?_⟩
      rcases hmark with rfl | rfl <;> decide
    have htext' : x ++ '-' :: y = front ++ [mark] ++ sign ++ digits := by
      rw [htext]
      simp
    have hmem : '-' ∈ front ++ [mark] ++ sign ++ digits := htext' ▸ by simp
    rw [List.mem_append, List.mem_append (s := front ++ [mark])] at hmem
    have hsigned : '-' ∈ sign := (hmem.resolve_right hafter).resolve_left hbefore
    cases hsign with
    | none => cases hsigned
    | plus => exact absurd hsigned (by decide)
    | minus =>
      rw [List.append_assoc _ ['-'], List.singleton_append, eq_comm,
        List.append_cons_inj_of_notMem hbefore hafter] at htext'
      obtain ⟨rfl, -, rfl⟩ := htext'
      exact ⟨⟨mark, by simp, hmark⟩, hafter⟩

theorem Unsigned.not_endsInMark {text : List Char} (h : Unsigned text) : ¬ EndsInMark text := by
  rintro ⟨c, hlast, hc⟩
  have hdigit : c.isDigit = false ∧ c ≠ '.' := by rcases hc with rfl | rfl <;> decide
  cases h with
  | plain hfront =>
    rcases hfront c (List.mem_of_getLast? hlast) with h | h
    · exact absurd (h.symm.trans hdigit.1) (by decide)
    · exact hdigit.2 h
  | @scaled front power mark hfront hmark hpower =>
    obtain ⟨sign, negative, digits, rfl, -, hne, hdigits⟩ := hpower
    obtain ⟨init, d, rfl⟩ := (List.eq_nil_or_concat' digits).resolve_left hne
    have hd := hdigits d (by simp)
    have hend : front ++ mark :: (sign ++ (init ++ [d])) = front ++ mark :: (sign ++ init) ++ [d] := by
      simp
    rw [hend, List.getLast?_concat] at hlast
    cases hlast
    exact absurd (hd.symm.trans hdigit.1) (by decide)

def IsName (text : List Char) : Prop :=
  text.map Char.toLower ∈ ["inf".toList, "infinity".toList, "nan".toList]

theorem IsName.notMem_hyphen {text : List Char} (h : IsName text) : '-' ∉ text := by
  intro hmem
  have hlower : '-' ∈ text.map Char.toLower := List.mem_map.mpr ⟨'-', hmem, rfl⟩
  have hnames : ∀ name ∈ ["inf".toList, "infinity".toList, "nan".toList], '-' ∉ name := by decide
  exact hnames _ h hlower

theorem IsName.not_endsInMark {text : List Char} (h : IsName text) : ¬ EndsInMark text := by
  rintro ⟨c, hlast, hc⟩
  have hlower : (text.map Char.toLower).getLast? = some 'e' := by
    rw [List.getLast?_map, hlast]
    rcases hc with rfl | rfl <;> rfl
  have hnames : ∀ name ∈ ["inf".toList, "infinity".toList, "nan".toList],
      name.getLast? ≠ some 'e' := by decide
  exact hnames _ h hlower

def Literal.HasSign (negative : Bool) : Literal → Prop
  | .nan => True
  | .infinite sign => sign = negative
  | .decimal sign _ _ => sign = negative

theorem Literal.ofChars?_split {text : List Char} {lit : Literal} (h : ofChars? text = some lit) :
    ∃ sign body negative, text = sign ++ body ∧ IsSign sign negative ∧
      (IsName body ∨ Unsigned body) ∧ lit.HasSign negative := by
  obtain ⟨sign, htext, hsign⟩ := splitSign_split text
  refine ⟨sign, _, _, htext, hsign, ?_⟩
  rw [ofChars?] at h
  dsimp only at h
  split at h
  case isTrue hname =>
    cases h
    refine ⟨.inl ?_, rfl⟩
    rw [Bool.or_eq_true, beq_iff_eq, beq_iff_eq] at hname
    rcases hname with hname | hname <;> simp [IsName, hname]
  case isFalse =>
    split at h
    case isTrue hname =>
      cases h
      exact ⟨.inl (by simp [IsName, eq_of_beq hname]), trivial⟩
    case isFalse =>
      obtain ⟨hbody, coefficient, exponent, rfl⟩ := unsigned_of_unsigned? h
      exact ⟨.inr hbody, rfl⟩

/-- A numeral that does not begin with a hyphen has one in its exponent only. -/
theorem Literal.hyphen {x y : List Char} {lit : Literal} (h : ofChars? (x ++ '-' :: y) = some lit)
    (hx : x ≠ []) (hnone : '-' ∉ x) : EndsInMark x ∧ '-' ∉ y := by
  have hbody : ∀ {u : List Char}, IsName (u ++ '-' :: y) ∨ Unsigned (u ++ '-' :: y) →
      EndsInMark u ∧ '-' ∉ y := fun hu =>
    hu.elim (fun hname => absurd (by simp) hname.notMem_hyphen) Unsigned.hyphen
  obtain ⟨sign, body, negative, htext, hsign, hshape, -⟩ := ofChars?_split h
  obtain ⟨c, u, rfl⟩ := List.exists_cons_of_ne_nil hx
  cases hsign with
  | none => exact hbody (htext ▸ hshape)
  | plus =>
    obtain ⟨rfl, rfl⟩ := List.cons.inj htext
    obtain ⟨hmark, hy⟩ := hbody hshape
    exact ⟨hmark.cons '+', hy⟩
  | minus =>
    obtain ⟨rfl, -⟩ := List.cons.inj htext
    exact absurd List.mem_cons_self hnone

theorem Literal.not_endsInMark {text : List Char} {lit : Literal} (h : ofChars? text = some lit) :
    ¬ EndsInMark text := by
  obtain ⟨sign, body, negative, rfl, hsign, hbody, -⟩ := ofChars?_split h
  rintro ⟨mark, hlast, hmark⟩
  have hnone : ∀ c ∈ sign.getLast?, c ≠ mark := by
    cases hsign <;> rcases hmark with rfl | rfl <;> simp
  have hend : EndsInMark body := by
    rw [List.getLast?_append] at hlast
    cases hb : body.getLast? with
    | none => exact absurd rfl (hnone mark (by simpa [hb] using hlast))
    | some c =>
      rw [hb] at hlast
      exact ⟨mark, hb ▸ hlast, hmark⟩
  exact hbody.elim (fun h => h.not_endsInMark hend) (fun h => h.not_endsInMark hend)

theorem unpack_ofBits (b : UInt64) :
    (Float.ofBits b).toModel.unpack = UnpackedFloat.unpack Format.binary64 b.toBitVec := by
  change UnpackedFloat.unpack Format.binary64 (UnpackedFloat.pack Format.binary64
    (UnpackedFloat.unpack Format.binary64 b.toBitVec)) = _
  by_cases hvalid : Format.binary64.Valid b.toBitVec
  · rw [Binary64.pack_unpack hvalid]
  · have hundefined : UnpackedFloat.unpack Format.binary64 b.toBitVec = .notANumber := by
      by_contra hne
      refine hvalid ⟨fun hexponent hmantissa => absurd ?_ hne⟩
      rw [UnpackedFloat.unpack]
      dsimp only
      rw [if_pos hexponent, if_neg hmantissa]
    rw [hundefined]
    rfl

theorem not_pos_withSign {m : Nat} (hm : m < 2 ^ 63) : ¬ 0 < Binary64.withSign true m := by
  have hsign : @unpackSign Format.binary64 (UInt64.ofNat (Nat.pow 2 63 + m)).toBitVec = 1#1 := by
    apply BitVec.eq_of_toNat_eq
    change ((2 ^ 63 + m) % 2 ^ 64) >>> 63 % 2 = 1
    rw [Nat.shiftRight_eq_div_pow]
    omega
  rw [Binary64.pos_iff, Binary64.withSign, unpack_ofBits, if_pos rfl]
  rw [UnpackedFloat.unpack]
  dsimp only
  rw [hsign]
  split
  · split <;> simp [Sign.ofBitVec]
  split
  · split <;> simp [Sign.ofBitVec]
  · simp [Sign.ofBitVec]

theorem not_pos_ofRatio (num den : Nat) : ¬ 0 < Binary64.ofRatio true num den := by
  rw [Binary64.ofRatio]
  split
  · exact not_pos_withSign (by decide)
  · dsimp +zeta only
    split
    · exact not_pos_withSign (by decide)
    · rename_i hm
      exact not_pos_withSign (Nat.lt_trans (Nat.lt_of_not_le hm) (by decide))

theorem not_pos_nearest (coefficient : Nat) (exponent : Int) :
    ¬ 0 < nearest true coefficient exponent := by
  rw [nearest]
  split
  · exact not_pos_ofRatio _ _
  split
  · exact not_pos_withSign (by decide)
  split
  · exact not_pos_ofRatio _ _
  · exact not_pos_ofRatio _ _

theorem Literal.HasSign.not_pos {lit : Literal} (h : lit.HasSign true) : ¬ 0 < lit.toFloat := by
  cases lit with
  | nan => decide
  | infinite negative =>
    cases h
    exact not_pos_withSign (by decide)
  | decimal negative coefficient exponent =>
    cases h
    exact not_pos_nearest coefficient exponent

theorem not_pos_hyphen {y : List Char} {x : Float} (h : ofChars? ('-' :: y) = some x) : ¬ 0 < x := by
  obtain ⟨lit, hlit, rfl⟩ := Option.map_eq_some_iff.mp h
  obtain ⟨sign, body, negative, htext, hsign, hshape, hnegative⟩ := Literal.ofChars?_split hlit
  cases hsign with
  | none =>
    rw [List.nil_append] at htext
    rw [← htext] at hshape
    rcases hshape with hname | hunsigned
    · exact absurd List.mem_cons_self hname.notMem_hyphen
    · obtain ⟨⟨mark, hmark, -⟩, -⟩ := Unsigned.hyphen (x := []) hunsigned
      cases hmark
  | plus => exact absurd (List.cons.inj htext).1 (by decide)
  | minus => exact hnegative.not_pos

end Synoptic.Decimal
