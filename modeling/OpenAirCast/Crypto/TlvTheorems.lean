/-
Crypto.TlvTheorems — TLV8 says what was put into it.

A message is accepted exactly when it is a sequence of complete records,
and what it means is their values put together by type (`parse_wire`).
`encode` writes such a sequence, in which the values of a type are the
pieces of the value it had (`encode_eq_wire`). Reading back what was
written is then reading the pieces.
-/
import OpenAirCast.Crypto.Tlv
import Mathlib.Data.List.Nodup

namespace OpenAirCast.Crypto

open List

/-- A complete record: its length fits into one byte. -/
structure TlvRecord where
  typ : UInt8
  value : Bytes
  short : value.length < 256

namespace TlvRecord

def bytes (r : TlvRecord) : Bytes := r.typ :: UInt8.ofNat r.value.length :: r.value

end TlvRecord

/-- The records one behind the other. -/
def wire (records : List TlvRecord) : Bytes := records.flatMap TlvRecord.bytes

/-- The value of a type: those of its records in order, if there are any. -/
def valueOf (records : List TlvRecord) (typ : UInt8) : Option Bytes :=
  if records.any (fun r => r.typ = typ) then
    some ((records.filter (fun r => r.typ = typ)).flatMap (·.value))
  else none

namespace Tlv8

/-! ## Reading -/

/-- One more value for a type. -/
def note (items : UInt8 → Option Bytes) (r : TlvRecord) : UInt8 → Option Bytes :=
  Function.update items r.typ (some ((items r.typ).getD [] ++ r.value))

/-- The type read last has a value. -/
def Read (items : UInt8 → Option Bytes) (lastType : Option UInt8) : Prop :=
  ∀ typ, lastType = some typ → (items typ).isSome = true

variable {items : UInt8 → Option Bytes} {lastType : Option UInt8}

theorem appendValue_eq (h : Read items lastType) (r : TlvRecord) :
    appendValue items lastType r.typ r.value = note items r := by
  unfold appendValue note
  split
  · rename_i hs
    obtain ⟨_, he⟩ := Option.isSome_iff_exists.mp (h r.typ hs.symm)
    rw [he]
    rfl
  · rfl

theorem read_note (items : UInt8 → Option Bytes) (r : TlvRecord) :
    Read (note items r) (some r.typ) := by
  intro typ h
  obtain rfl := Option.some.inj h
  simp [note]

theorem parseFrom_record (h : Read items lastType) (r : TlvRecord) (rest : Bytes) :
    parseFrom items lastType (r.bytes ++ rest) = parseFrom (note items r) (some r.typ) rest := by
  have hlen : (UInt8.ofNat r.value.length).toNat = r.value.length :=
    UInt8.toNat_ofNat_of_lt' r.short
  have hr : ¬ (r.value ++ rest).length < r.value.length := by simp
  rw [TlvRecord.bytes, cons_append, cons_append, parseFrom]
  simp only [hlen, if_neg hr, take_left, drop_left, appendValue_eq h]

section

variable (records : List TlvRecord)

theorem parseFrom_wire :
    ∀ {items : UInt8 → Option Bytes} {lastType : Option UInt8}, Read items lastType →
      parseFrom items lastType (wire records) = .ok ⟨records.foldl note items⟩ := by
  induction records with
  | nil =>
    intro items lastType _
    rw [wire, flatMap_nil, parseFrom]
    rfl
  | cons r rest ih =>
    intro items lastType h
    have hw : wire (r :: rest) = r.bytes ++ wire rest := flatMap_cons
    rw [hw, parseFrom_record h, ih (read_note items r)]
    rfl

/-- What the records say, put together one by one. -/
theorem foldl_note : ∀ (items : UInt8 → Option Bytes) (typ : UInt8),
    records.foldl note items typ = match valueOf records typ with
      | some val => some ((items typ).getD [] ++ val)
      | none => items typ := by
  induction records with
  | nil => exact fun _ _ => rfl
  | cons r rest ih =>
    intro items typ
    rw [foldl_cons, ih]
    unfold valueOf
    by_cases ht : r.typ = typ
    · subst ht
      by_cases hr : rest.any (fun other => other.typ = r.typ)
      · simp [note, hr]
      · have hn : rest.filter (fun other => other.typ = r.typ) = [] := by simpa using hr
        simp [note, hr, hn]
    · have hne : typ ≠ r.typ := fun h => ht h.symm
      simp [note, ht, Function.update_of_ne hne]

theorem parse_wire : parse (wire records) = .ok ⟨valueOf records⟩ := by
  unfold parse
  rw [parseFrom_wire records (fun _ h => by cases h)]
  congr 2
  funext typ
  rw [foldl_note]
  cases valueOf records typ <;> rfl

end

/-- What is accepted is a sequence of complete records. -/
theorem wire_of_parseFrom {t : Tlv8} (data : Bytes) :
    ∀ {items : UInt8 → Option Bytes} {lastType : Option UInt8},
      parseFrom items lastType data = .ok t → ∃ records, data = wire records := by
  intro items lastType h
  fun_induction parseFrom items lastType data with
  | case1 items lastType => exact ⟨[], rfl⟩
  | case2 items lastType byte => cases h
  | case3 items lastType typ len rest hs => cases h
  | case4 items lastType typ len rest hm ih =>
    obtain ⟨records, hr⟩ := ih h
    have hlen : (rest.take len.toNat).length = len.toNat := by
      rw [length_take]
      omega
    refine ⟨⟨typ, rest.take len.toNat, by rw [hlen]; exact len.toNat_lt⟩ :: records, ?_⟩
    have hw : ∀ r, wire (r :: records) = r.bytes ++ wire records := fun _ => flatMap_cons
    rw [hw, ← hr, TlvRecord.bytes]
    simp [hlen]

/-! ## Writing -/

/-- The records of one value: one that is empty, or its pieces. -/
def pieces (typ : UInt8) (value : Bytes) : List TlvRecord :=
  if value = [] then [⟨typ, [], by decide⟩]
  else (chunks 255 value).attach.map (fun chunk =>
    ⟨typ, chunk.1, Nat.lt_succ_of_le (length_of_mem_chunks (by decide) chunk.2)⟩)

theorem flatMap_attach (l : List Bytes) (f : Bytes → Bytes) :
    l.attach.flatMap (fun chunk => f chunk.1) = l.flatMap f := by
  rw [flatMap_def, attach_map_val, ← flatMap_def]

variable (typ : UInt8) (val : Bytes)

theorem wire_pieces : wire (pieces typ val) = encodeItem typ val := by
  unfold wire pieces encodeItem
  split
  · rfl
  · rw [flatMap_map]
    exact flatMap_attach _ (fun chunk => typ :: UInt8.ofNat chunk.length :: chunk)

theorem typ_of_mem_pieces {typ : UInt8} {val : Bytes} {r : TlvRecord}
    (h : r ∈ pieces typ val) : r.typ = typ := by
  unfold pieces at h
  split at h
  · rw [mem_singleton.mp h]
  · obtain ⟨_, -, rfl⟩ := mem_map.mp h
    rfl

theorem pieces_ne_nil : pieces typ val ≠ [] := by
  unfold pieces
  split
  · exact cons_ne_nil _ _
  · rename_i hv
    simpa using chunks_ne_nil (by decide) hv

theorem flatMap_pieces : (pieces typ val).flatMap (·.value) = val := by
  unfold pieces
  split
  · rename_i hl
    rw [hl]
    rfl
  · rw [flatMap_map]
    have hv := flatMap_attach (chunks 255 val) id
    rw [flatMap_id, flatten_chunks (by decide)] at hv
    exact hv

/-- The records of the whole message, by type. -/
def records (t : Tlv8) : List TlvRecord :=
  types.flatMap (fun typ => ((t.items typ).map (pieces typ)).getD [])

variable (t : Tlv8)

theorem encode_eq_wire : t.encode = wire t.records := by
  unfold encode records wire
  rw [flatMap_assoc]
  congr 1
  funext typ
  cases t.items typ with
  | none => rfl
  | some val => exact (wire_pieces typ val).symm

theorem mem_types : typ ∈ types :=
  mem_map.mpr ⟨typ.toNat, mem_range.mpr typ.toNat_lt, UInt8.ofNat_toNat⟩

theorem nodup_types : types.Nodup := by
  refine List.Nodup.map_on ?_ nodup_range
  intro a ha b hb hab
  have hs := congrArg UInt8.toNat hab
  rwa [UInt8.toNat_ofNat_of_lt' (mem_range.mp ha), UInt8.toNat_ofNat_of_lt' (mem_range.mp hb)] at hs

theorem filter_flatMap_typ {group : UInt8 → List TlvRecord}
    (hg : ∀ typ, ∀ r ∈ group typ, r.typ = typ) (typ : UInt8) : ∀ {order : List UInt8},
    order.Nodup → (order.flatMap group).filter (fun r => r.typ = typ)
      = if typ ∈ order then group typ else [] := by
  intro order
  induction order with
  | nil => simp
  | cons first _ ih =>
    intro hn
    obtain ⟨hf, hs⟩ := nodup_cons.mp hn
    rw [flatMap_cons, filter_append, ih hs]
    by_cases ht : first = typ
    · subst ht
      have hall : (group first).filter (fun r => r.typ = first) = group first :=
        filter_eq_self.mpr (fun r hr => by simpa using hg first r hr)
      simp [hall, hf]
    · have hnn : (group first).filter (fun r => r.typ = typ) = [] := by
        refine filter_eq_nil_iff.mpr (fun r hr => ?_)
        simpa [hg first r hr] using ht
      have hne : ¬ typ = first := fun h => ht h.symm
      simp [hnn, hne]

theorem filter_records (typ : UInt8) :
    t.records.filter (fun r => r.typ = typ) = ((t.items typ).map (pieces typ)).getD [] := by
  have hg : ∀ typ, ∀ r ∈ ((t.items typ).map (pieces typ)).getD [], r.typ = typ := by
    intro typ r hr
    cases hi : t.items typ with
    | none => simp [hi] at hr
    | some =>
      rw [hi] at hr
      exact typ_of_mem_pieces hr
  unfold records
  rw [filter_flatMap_typ hg typ nodup_types, if_pos (mem_types typ)]

theorem valueOf_records : valueOf t.records = t.items := by
  funext typ
  have hf := filter_records t typ
  unfold valueOf
  cases hi : t.items typ with
  | none =>
    rw [hi] at hf
    have hn : ¬ t.records.any (fun r => r.typ = typ) = true := by simpa using hf
    rw [if_neg hn]
  | some val =>
    rw [hi] at hf
    have hs : t.records.any (fun r => r.typ = typ) = true := by
      obtain ⟨r, hr⟩ := exists_mem_of_ne_nil _ (pieces_ne_nil typ val)
      have hmem : r ∈ t.records.filter (fun r => r.typ = typ) := by
        rw [hf]
        exact hr
      exact any_eq_true.mpr ⟨r, mem_filter.mp hmem⟩
    rw [if_pos hs, hf]
    exact congrArg some (flatMap_pieces typ val)

/-- Decoding undoes encoding. What is accepted is exactly a sequence of
complete records, and then each type has the values of its records in
order, and no other type is present; written and read again it is the
same message. -/
theorem decode_undoes_encode (t : Tlv8) (data : Bytes) : parse t.encode = .ok t ∧
      ((∃ read, parse data = .ok read) ↔ ∃ records, data = wire records) ∧
      (∀ records, data = wire records → parse data = .ok ⟨valueOf records⟩) ∧
      ∀ read, parse data = .ok read → parse read.encode = parse data := by
  have hn : ∀ t : Tlv8, parse t.encode = .ok t := by
    intro t
    rw [encode_eq_wire, parse_wire, valueOf_records]
  refine ⟨hn t, ⟨?_, ?_⟩, ?_, ?_⟩
  · rintro ⟨read, hr⟩
    exact wire_of_parseFrom data hr
  · rintro ⟨records, rfl⟩
    exact ⟨_, parse_wire records⟩
  · rintro records rfl
    exact parse_wire records
  · intro read hr
    rw [hn, hr]

end Tlv8

end OpenAirCast.Crypto
