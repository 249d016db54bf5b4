import EdgePlatform.Foundation.Text
import Mathlib.Algebra.Order.Ring.Nat

/-!
# `EdgePlatform.Foundation.Wire` — the protobuf wire format

A message is a list of numbered fields. `encodeFields` writes them, `decodeFields` reads any well-formed
byte string back into fields (unknown field numbers included), and `decodeFields_encodeFields` is the round
trip. On top of it a message type declares its layout with `put` (one entry per field; a default value is
not written) and reads it with the `scan*` functions, which follow proto3: the last scalar wins, the
occurrences of an embedded message are merged, a wrong wire type is an error.

Varints are unbounded here; the ten-byte limit of an implementation only refuses inputs that no encoder
produces. Groups (wire types 3 and 4) are refused.
-/

namespace Foundation.Wire

/-! ## Varints -/

/-- Little-endian base 128; the fuel is any bound on the number. -/
def writeVarint : Nat → Nat → Bytes
  | 0, n => [UInt8.ofNat (n % 128)]
  | fuel + 1, n =>
    if n < 128 then [UInt8.ofNat n] else UInt8.ofNat (n % 128 + 128) :: writeVarint fuel (n / 128)

def varint (n : Nat) : Bytes := writeVarint n n

def readVarint : Bytes → Option (Nat × Bytes)
  | [] => none
  | b :: bs =>
    if b.toNat < 128 then some (b.toNat, bs)
    else match readVarint bs with
      | some (n, rest) => some (b.toNat - 128 + 128 * n, rest)
      | none => none

variable {fuel n : Nat}

theorem readVarint_writeVarint (h : n ≤ fuel) (rest : Bytes) :
    readVarint (writeVarint fuel n ++ rest) = some (n, rest) := by
  induction fuel generalizing n with
  | zero =>
    obtain rfl : n = 0 := by omega
    rfl
  | succ fuel ih =>
    unfold writeVarint
    split
    · next hn =>
        have hb : (UInt8.ofNat n).toNat = n := by simp; omega
        simp [readVarint, hb, hn]
    · next hn =>
        have hb : (UInt8.ofNat (n % 128 + 128)).toNat = n % 128 + 128 := by simp; omega
        simp only [List.cons_append, readVarint, hb, ih (show n / 128 ≤ fuel by omega)]
        rw [if_neg (by omega)]
        simp only [Option.some.injEq, Prod.mk.injEq, and_true]
        omega

theorem readVarint_varint (n : Nat) (rest : Bytes) : readVarint (varint n ++ rest) = some (n, rest) :=
  readVarint_writeVarint le_rfl rest

theorem length_writeVarint_le {k : Nat} (h : n < 128 ^ (k + 1)) : (writeVarint fuel n).length ≤ k + 1 := by
  induction fuel generalizing n k with
  | zero => simp [writeVarint]
  | succ fuel ih =>
    unfold writeVarint
    split
    · simp
    · next hn =>
        cases k with
        | zero => omega
        | succ k =>
          have hdiv : n / 128 < 128 ^ (k + 1) := Nat.div_lt_of_lt_mul (by rwa [pow_succ'] at h)
          simpa using ih hdiv

/-! ## Fields -/

inductive Value
  | varint (n : Nat)
  | len (b : Bytes)
  /-- A fixed-width value (four or eight bytes), only ever skipped. -/
  | fixed (b : Bytes)

abbrev Field := Nat × Value

def encodeField : Field → Bytes
  | (k, .varint n) => varint (k * 8) ++ varint n
  | (k, .len b) => varint (k * 8 + 2) ++ varint b.length ++ b
  | (k, .fixed b) => varint (k * 8 + if b.length = 8 then 1 else 5) ++ b

def encodeFields (fs : List Field) : Bytes := fs.flatMap encodeField

def takeExactly (n : Nat) (b : Bytes) : Option (Bytes × Bytes) :=
  if n ≤ b.length then some (b.take n, b.drop n) else none

def decodeField (b : Bytes) : Option (Field × Bytes) := do
  let (key, b) ← readVarint b
  if key / 8 = 0 then none
  else match key % 8 with
    | 0 => do
        let (n, rest) ← readVarint b
        some ((key / 8, .varint n), rest)
    | 1 => do
        let (v, rest) ← takeExactly 8 b
        some ((key / 8, .fixed v), rest)
    | 2 => do
        let (n, b) ← readVarint b
        let (v, rest) ← takeExactly n b
        some ((key / 8, .len v), rest)
    | 5 => do
        let (v, rest) ← takeExactly 4 b
        some ((key / 8, .fixed v), rest)
    | _ => none

/-- Every field takes at least one byte, so the length is fuel enough. -/
def decodeFuel : Nat → Bytes → Option (List Field)
  | _, [] => some []
  | 0, _ :: _ => none
  | fuel + 1, b => do
      let (f, rest) ← decodeField b
      let fs ← decodeFuel fuel rest
      some (f :: fs)

def decodeFields (b : Bytes) : Option (List Field) := decodeFuel b.length b

/-- A field an encoder writes. -/
def Field.Plain : Field → Prop
  | (k, .varint _) | (k, .len _) => 0 < k
  | (_, .fixed _) => False

theorem takeExactly_append (v rest : Bytes) : takeExactly v.length (v ++ rest) = some (v, rest) := by
  simp [takeExactly]

theorem decodeField_encodeField {f : Field} (hf : f.Plain) (rest : Bytes) :
    decodeField (encodeField f ++ rest) = some (f, rest) := by
  obtain ⟨k, v⟩ := f
  cases v with
  | varint n =>
    have hk : k ≠ 0 := Nat.pos_iff_ne_zero.mp hf
    simp [decodeField, encodeField, List.append_assoc, readVarint_varint]
    omega
  | len b =>
    have hk : (k * 8 + 2) / 8 = k := by omega
    have hk' : (k * 8 + 2) % 8 = 2 := by omega
    have hk0 : k ≠ 0 := Nat.pos_iff_ne_zero.mp hf
    simp [decodeField, encodeField, List.append_assoc, readVarint_varint, hk, hk', takeExactly_append]
    omega
  | fixed b => exact hf.elim

theorem encodeField_ne_nil (f : Field) : encodeField f ≠ [] := by
  have hw : ∀ fuel n, writeVarint fuel n ≠ [] := by
    intro fuel n
    cases fuel
    · simp [writeVarint]
    · unfold writeVarint; split <;> simp
  obtain ⟨k, v⟩ := f
  cases v <;> simp [encodeField, varint, hw]

theorem decodeFuel_encodeFields {fs : List Field} (hfs : ∀ f ∈ fs, Field.Plain f)
    (h : (encodeFields fs).length ≤ fuel) : decodeFuel fuel (encodeFields fs) = some fs := by
  induction fs generalizing fuel with
  | nil => cases fuel <;> rfl
  | cons f fs ih =>
    have hlen : 0 < (encodeField f).length := List.length_pos_iff.mpr (encodeField_ne_nil f)
    have hsplit : encodeFields (f :: fs) = encodeField f ++ encodeFields fs := rfl
    rw [hsplit, List.length_append] at h
    obtain ⟨fuel, rfl⟩ : ∃ m, fuel = m + 1 := ⟨fuel - 1, by omega⟩
    have hrest := ih (fun g hg => hfs g (.tail _ hg)) (show (encodeFields fs).length ≤ fuel by omega)
    obtain ⟨c, cs, hc⟩ : ∃ c cs, encodeField f ++ encodeFields fs = c :: cs :=
      List.exists_cons_of_ne_nil (by simp [encodeField_ne_nil f])
    rw [hsplit, hc]
    simp only [decodeFuel]
    rw [← hc, decodeField_encodeField (hfs f (.head _))]
    simp [hrest]

/-- **The round trip.** -/
theorem decodeFields_encodeFields {fs : List Field} (hfs : ∀ f ∈ fs, Field.Plain f) :
    decodeFields (encodeFields fs) = some fs := decodeFuel_encodeFields hfs le_rfl

/-! ## Enumerations -/

/-- An enumeration of the wire format: an open `i32` on the wire, a closed type once recognised. -/
class ProtoEnum (E : Type) where
  /-- The values, each at the position of its code. -/
  all : List E
  code : E → Nat
  all_code : ∀ e, all[code e]? = some e := by rintro ⟨⟩ <;> rfl
  small : all.length ≤ 128 := by decide

/-- `e as i32`. -/
def toI32 {E : Type} [ProtoEnum E] (e : E) : Int32 := Int32.ofNat (ProtoEnum.code e)

/-- The enumeration value with code `x`, if there is one. -/
def tryFrom (E : Type) [ProtoEnum E] (x : Int32) : Option E := (ProtoEnum.all (E := E)).find? (toI32 · = x)

section
variable {E : Type} [ProtoEnum E]

theorem code_lt (e : E) : ProtoEnum.code e < 128 := by
  have h := (List.getElem?_eq_some_iff.mp (ProtoEnum.all_code e)).1
  exact lt_of_lt_of_le h ProtoEnum.small

theorem toI32_injective : Function.Injective (toI32 (E := E)) := by
  intro e e' h
  have hlt := code_lt e
  have hlt' := code_lt e'
  have hcode : ProtoEnum.code e = ProtoEnum.code e' := by
    have hint := congrArg Int32.toInt h
    rw [toI32, toI32, Int32.toInt_ofNat_of_lt (by omega), Int32.toInt_ofNat_of_lt (by omega)] at hint
    exact_mod_cast hint
  have hsome := ProtoEnum.all_code e
  rw [hcode, ProtoEnum.all_code e'] at hsome
  exact (Option.some.inj hsome).symm

theorem tryFrom_eq_some {x : Int32} {e : E} : tryFrom E x = some e ↔ toI32 e = x := by
  constructor
  · intro h
    simpa using List.find?_some h
  · rintro rfl
    have hsome : (tryFrom E (toI32 e)).isSome := by
      simp only [tryFrom, List.find?_isSome, decide_eq_true_eq]
      exact ⟨e, List.mem_of_getElem? (ProtoEnum.all_code e), rfl⟩
    obtain ⟨e', he'⟩ := Option.isSome_iff_exists.mp hsome
    have hcode : toI32 e' = toI32 e := by simpa using List.find?_some he'
    rw [he', toI32_injective hcode]

@[simp] theorem tryFrom_toI32 (e : E) : tryFrom E (toI32 e) = some e := tryFrom_eq_some.mpr rfl

@[simp] theorem toI32_inj {e e' : E} : toI32 e = toI32 e' ↔ e = e' := toI32_injective.eq_iff

end

/-! ## Layouts -/

/-- The occurrences of field `k` in an encoded message. -/
def put (k : Nat) : Option Value → List Field
  | none => []
  | some v => [(k, v)]

/-- A number field; zero is the default and not written. -/
def natValue (n : Nat) : Option Value := if n = 0 then none else some (.varint n)

/-- A bytes field; the empty string is the default and not written. -/
def bytesValue (b : Bytes) : Option Value := if b = [] then none else some (.len b)

/-- An embedded message. -/
def messageValue (m : Option Bytes) : Option Value := m.map .len

/-- The last value of number field `k`. -/
def scanNat (k : Nat) : Nat → List Field → Option Nat
  | acc, [] => some acc
  | acc, (j, v) :: fs =>
    if j = k then
      match v with
      | .varint n => scanNat k n fs
      | _ => none
    else scanNat k acc fs

/-- The last value of bytes field `k`. -/
def scanBytes (k : Nat) : Bytes → List Field → Option Bytes
  | acc, [] => some acc
  | acc, (j, v) :: fs =>
    if j = k then
      match v with
      | .len b => scanBytes k b fs
      | _ => none
    else scanBytes k acc fs

/-- The merged occurrences of embedded message `k`. -/
def scanMessage (k : Nat) : Option Bytes → List Field → Option (Option Bytes)
  | acc, [] => some acc
  | acc, (j, v) :: fs =>
    if j = k then
      match v with
      | .len b => scanMessage k (some (acc.getD [] ++ b)) fs
      | _ => none
    else scanMessage k acc fs

/-- A message: every field number with its value, in the order written. -/
abbrev Layout := List (Nat × Option Value)

def Layout.fields (l : Layout) : List Field := l.flatMap fun e => put e.1 e.2

def Layout.encode (l : Layout) : Bytes := encodeFields l.fields

/-! ## Scalar types -/

/-- A string field, as its UTF-8 bytes. -/
def stringValue (s : String) : Option Value := bytesValue (utf8 s)

/-- An `int32` or enumeration field: negative values are sign-extended to 64 bits. -/
def i32Value (x : Int32) : Option Value := natValue (x.toInt % 2 ^ 64).toNat

def boolValue (b : Bool) : Option Value := natValue b.toNat

def u32Value (x : UInt32) : Option Value := natValue x.toNat

def u64Value (x : UInt64) : Option Value := natValue x.toNat

def scanString (k : Nat) (fs : List Field) : Option String := (scanBytes k [] fs).bind ofUtf8

def scanI32 (k : Nat) (fs : List Field) : Option Int32 := (scanNat k 0 fs).map fun (n : Nat) => Int32.ofInt n

def scanBool (k : Nat) (fs : List Field) : Option Bool := (scanNat k 0 fs).map (· != 0)

def scanU32 (k : Nat) (fs : List Field) : Option UInt32 := (scanNat k 0 fs).map UInt32.ofNat

def scanU64 (k : Nat) (fs : List Field) : Option UInt64 := (scanNat k 0 fs).map UInt64.ofNat

/-- The sign-extended code of an `int32` truncates back to it. -/
theorem ofInt_signExtended (x : Int32) : Int32.ofInt (((x.toInt % 2 ^ 64).toNat : Nat) : Int) = x := by
  have hlt := x.toInt_lt
  have hle := x.le_toInt
  apply Int32.toInt_inj.mp
  rw [Int32.toInt_ofInt]
  simp only [Int32.size, Int.bmod]
  omega

/-! ## Reading a layout back -/

/-- One successful step of a decoder. -/
theorem bind_of_eq_some {α β : Type} {x : Option α} {a : α} {f : α → Option β} {y : Option β}
    (h : x = some a) (hf : f a = y) : (x >>= f) = y := by
  rw [h]
  exact hf

/-- An entry an encoder writes: a positive number, and a varint or a length-delimited value. -/
def PlainEntry (e : Nat × Option Value) : Prop := ∀ f ∈ put e.1 e.2, Field.Plain f

theorem plainEntry_nat {k n : Nat} (hk : 0 < k) : PlainEntry (k, natValue n) := by
  unfold PlainEntry natValue
  split <;> simp [put, Field.Plain, hk]

variable {b : Bytes}

theorem plainEntry_bytes {k : Nat} (hk : 0 < k) : PlainEntry (k, bytesValue b) := by
  unfold PlainEntry bytesValue
  split <;> simp [put, Field.Plain, hk]

theorem plainEntry_message {k : Nat} {m : Option Bytes} (hk : 0 < k) : PlainEntry (k, messageValue m) := by
  cases m <;> simp [PlainEntry, put, messageValue, Field.Plain, hk]

theorem Layout.decodeFields_encode {l : Layout} (h : ∀ e ∈ l, PlainEntry e) :
    decodeFields l.encode = some l.fields := by
  apply decodeFields_encodeFields
  intro f hf
  obtain ⟨e, he, hfe⟩ := List.mem_flatMap.mp hf
  exact h e he f hfe

theorem mem_put {k : Nat} {v : Option Value} {f : Field} (h : f ∈ put k v) : f.1 = k := by
  cases v with
  | none => cases h
  | some v => rw [List.mem_singleton.mp h]

section
variable {k : Nat} {fs gs : List Field}

/-- A scan that passes over every other field passes over a list of them. -/
theorem scan_skip {α β : Type} {scan : α → List Field → β} {acc : α}
    (hstep : ∀ f fs, f.1 ≠ k → scan acc (f :: fs) = scan acc fs) (h : ∀ f ∈ fs, f.1 ≠ k) :
    scan acc (fs ++ gs) = scan acc gs := by
  induction fs with
  | nil => rfl
  | cons f fs ih => exact (hstep f _ (h f (.head _))).trans (ih fun g hg => h g (.tail _ hg))

theorem scanNat_skip (acc : Nat) (h : ∀ f ∈ fs, f.1 ≠ k) : scanNat k acc (fs ++ gs) = scanNat k acc gs :=
  scan_skip (fun ⟨_, v⟩ _ hf => by cases v <;> simp_all [scanNat]) h

theorem scanBytes_skip (acc : Bytes) (h : ∀ f ∈ fs, f.1 ≠ k) :
    scanBytes k acc (fs ++ gs) = scanBytes k acc gs :=
  scan_skip (fun ⟨_, v⟩ _ hf => by cases v <;> simp_all [scanBytes]) h

theorem scanMessage_skip (acc : Option Bytes) (h : ∀ f ∈ fs, f.1 ≠ k) :
    scanMessage k acc (fs ++ gs) = scanMessage k acc gs :=
  scan_skip (fun ⟨_, v⟩ _ hf => by cases v <;> simp_all [scanMessage]) h

end

/-- A layout with distinct numbers splits around an entry into parts that do not mention its number. -/
theorem Layout.fields_split {l : Layout} {k : Nat} {v : Option Value} (hnd : (l.map Prod.fst).Nodup)
    (hk : (k, v) ∈ l) :
    ∃ before after, l.fields = before ++ (put k v ++ (after ++ [])) ∧ (∀ f ∈ before, f.1 ≠ k) ∧
      ∀ f ∈ after, f.1 ≠ k := by
  obtain ⟨l₁, l₂, rfl⟩ := List.append_of_mem hk
  rw [List.map_append, List.map_cons, List.nodup_append, List.nodup_cons] at hnd
  obtain ⟨-, ⟨hafter, -⟩, hdisjoint⟩ := hnd
  refine ⟨Layout.fields l₁, Layout.fields l₂, by simp [Layout.fields], ?_, ?_⟩
  · intro f hf hfk
    obtain ⟨e, he, hfe⟩ := List.mem_flatMap.mp hf
    exact hdisjoint e.1 (List.mem_map_of_mem he) k (.head _) ((mem_put hfe).symm.trans hfk)
  · intro f hf hfk
    obtain ⟨e, he, hfe⟩ := List.mem_flatMap.mp hf
    exact hafter (hfk ▸ mem_put hfe ▸ List.mem_map_of_mem he)

section

variable {l : Layout} {k : Nat} (hnd : (l.map Prod.fst).Nodup)
include hnd

theorem Layout.scanNat {n : Nat} (hk : (k, natValue n) ∈ l) : scanNat k 0 l.fields = some n := by
  obtain ⟨before, after, hl, hbefore, hafter⟩ := Layout.fields_split hnd hk
  rw [hl, scanNat_skip 0 hbefore]
  unfold natValue
  split
  · next hn => rw [put, List.nil_append, scanNat_skip 0 hafter, hn]; rfl
  · rw [put, List.singleton_append, Wire.scanNat, if_pos rfl]
    exact scanNat_skip n hafter

theorem Layout.scanBytes (hk : (k, bytesValue b) ∈ l) : scanBytes k [] l.fields = some b := by
  obtain ⟨before, after, hl, hbefore, hafter⟩ := Layout.fields_split hnd hk
  rw [hl, scanBytes_skip [] hbefore]
  unfold bytesValue
  split
  · next hb => rw [put, List.nil_append, scanBytes_skip [] hafter, hb]; rfl
  · rw [put, List.singleton_append, Wire.scanBytes, if_pos rfl]
    exact scanBytes_skip b hafter

theorem Layout.scanMessage {m : Option Bytes} (hk : (k, messageValue m) ∈ l) :
    scanMessage k none l.fields = some m := by
  obtain ⟨before, after, hl, hbefore, hafter⟩ := Layout.fields_split hnd hk
  rw [hl, scanMessage_skip none hbefore]
  cases m with
  | none => exact scanMessage_skip none hafter
  | some b =>
    rw [messageValue, Option.map_some, put, List.singleton_append, Wire.scanMessage, if_pos rfl]
    exact scanMessage_skip (some b) hafter

theorem Layout.scanString {s : String} (hk : (k, stringValue s) ∈ l) : scanString k l.fields = some s := by
  rw [Wire.scanString, Layout.scanBytes hnd hk]
  exact ofUtf8_utf8 s

theorem Layout.scanI32 {x : Int32} (hk : (k, i32Value x) ∈ l) : scanI32 k l.fields = some x := by
  rw [Wire.scanI32, Layout.scanNat hnd hk, Option.map_some, ofInt_signExtended]

theorem Layout.scanBool {b : Bool} (hk : (k, boolValue b) ∈ l) : scanBool k l.fields = some b := by
  rw [Wire.scanBool, Layout.scanNat hnd hk]
  cases b <;> rfl

theorem Layout.scanU32 {x : UInt32} (hk : (k, u32Value x) ∈ l) : scanU32 k l.fields = some x := by
  rw [Wire.scanU32, Layout.scanNat hnd hk, Option.map_some, UInt32.ofNat_toNat]

theorem Layout.scanU64 {x : UInt64} (hk : (k, u64Value x) ∈ l) : scanU64 k l.fields = some x := by
  rw [Wire.scanU64, Layout.scanNat hnd hk, Option.map_some, UInt64.ofNat_toNat]

end

/-! ## Sizes -/

theorem length_varint_le {n : Nat} (h : n < 2 ^ 64) : (varint n).length ≤ 10 :=
  length_writeVarint_le (k := 9) (h.trans (by decide))

variable {m : Nat}

/-- A key and one number take at most twenty bytes. -/
theorem length_put_nat {k n : Nat} (hk : k < 2 ^ 60) (hn : n < 2 ^ 64) :
    (encodeFields (put k (natValue n))).length ≤ 20 + m := by
  unfold natValue
  split
  · simp [put, encodeFields]
  · have hkey := length_varint_le (show k * 8 < 2 ^ 64 by omega)
    have hvalue := length_varint_le hn
    simp only [put, encodeFields, List.flatMap_cons, List.flatMap_nil, encodeField, List.append_nil,
      List.length_append]
    omega

theorem length_put_bytes {k : Nat} (hk : k < 2 ^ 60) (hb : b.length ≤ m) (hm : m < 2 ^ 64) :
    (encodeFields (put k (bytesValue b))).length ≤ 20 + m := by
  unfold bytesValue
  split
  · simp [put, encodeFields]
  · have hkey := length_varint_le (show k * 8 + 2 < 2 ^ 64 by omega)
    have hsize := length_varint_le (hb.trans_lt hm)
    simp only [put, encodeFields, List.flatMap_cons, List.flatMap_nil, encodeField, List.append_nil,
      List.length_append]
    omega

theorem length_put_i32 {k : Nat} (x : Int32) (hk : k < 2 ^ 60) :
    (encodeFields (put k (i32Value x))).length ≤ 20 + m :=
  length_put_nat hk (by omega)

theorem length_put_u32 {k : Nat} (x : UInt32) (hk : k < 2 ^ 60) :
    (encodeFields (put k (u32Value x))).length ≤ 20 + m :=
  length_put_nat hk (x.toNat_lt.trans (by decide))

theorem length_put_u64 {k : Nat} (x : UInt64) (hk : k < 2 ^ 60) :
    (encodeFields (put k (u64Value x))).length ≤ 20 + m :=
  length_put_nat hk x.toNat_lt

theorem length_put_bool {k : Nat} (b : Bool) (hk : k < 2 ^ 60) :
    (encodeFields (put k (boolValue b))).length ≤ 20 + m :=
  length_put_nat hk (by cases b <;> decide)

/-- A message is no larger than its largest entry times their number. -/
theorem Layout.length_encode_le {l : Layout} (h : ∀ e ∈ l, (encodeFields (put e.1 e.2)).length ≤ m) :
    l.encode.length ≤ l.length * m := by
  induction l with
  | nil => simp [Layout.encode, Layout.fields, encodeFields]
  | cons e l ih =>
    have hhead := h e (.head _)
    have htail := ih fun e' he' => h e' (List.mem_cons_of_mem e he')
    have hsplit : (Layout.encode (e :: l)).length =
        (encodeFields (put e.1 e.2)).length + (Layout.encode l).length := by
      simp [Layout.encode, Layout.fields, encodeFields, List.flatMap_append]
    rw [hsplit, List.length_cons, Nat.succ_mul]
    omega

end Foundation.Wire
