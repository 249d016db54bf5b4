import EdgePlatform.Foundation.Wire

/-!
# `EdgePlatform.Foundation.Message` — message types as lists of typed fields

A `FieldCodec τ` is one numbered field that holds a `τ`; a `Codec α` is a message type. A message type is put
together from its fields (`Codec.nil`, `Codec.cons`) as a nested product and then given the shape of its
record (`Codec.shape`). Both carry their round trip as a law, so a message type that can be written down
decodes what it encodes (`Codec.decode_encode`), and two messages with one encoding are equal.

The laws speak of every layout that contains the entries, not only of the message's own: that is what lets
fields be read one after the other from the same list.
-/

namespace Foundation.Wire

/-! ## Fields -/

/-- A numbered field: how its value is written and read back. -/
structure FieldCodec (τ : Type) where
  key : Nat
  value : τ → Option Value
  scan : List Field → Option τ
  plain : ∀ a, PlainEntry (key, value a)
  scan_eq : ∀ (l : Layout) (a : τ), (l.map Prod.fst).Nodup → (key, value a) ∈ l → scan l.fields = some a

/-- A message type. -/
structure Codec (α : Type) where
  keys : List Nat
  layout : α → Layout
  read : List Field → Option α
  nodup : keys.Nodup
  keys_eq : ∀ a, (layout a).map Prod.fst = keys
  plain : ∀ a, ∀ e ∈ layout a, PlainEntry e
  read_eq : ∀ (l : Layout) (a : α), (l.map Prod.fst).Nodup → layout a ⊆ l → read l.fields = some a

namespace Codec

variable {α β τ : Type}

def encode (c : Codec α) (a : α) : Bytes := (c.layout a).encode

def decode (c : Codec α) (b : Bytes) : Option α := (decodeFields b).bind c.read

/-- **Round trip.** What a message type encodes, it decodes. -/
@[simp] theorem decode_encode (c : Codec α) (a : α) : c.decode (c.encode a) = some a := by
  have hfields : decodeFields (c.encode a) = some (c.layout a).fields :=
    Layout.decodeFields_encode (c.plain a)
  rw [decode, hfields]
  exact c.read_eq _ a ((c.keys_eq a).symm ▸ c.nodup) (List.Subset.refl _)

theorem encode_injective (c : Codec α) : Function.Injective c.encode := by
  intro a b h
  have hdec : c.decode (c.encode a) = c.decode (c.encode b) := congrArg c.decode h
  simpa using hdec

end Codec

namespace FieldCodec

variable {α : Type}

def u32 (k : Nat) (hk : 0 < k) : FieldCodec UInt32 where
  key := k
  value := u32Value
  scan := scanU32 k
  plain _ := plainEntry_nat hk
  scan_eq _ _ hnd := Layout.scanU32 hnd

def u64 (k : Nat) (hk : 0 < k) : FieldCodec UInt64 where
  key := k
  value := u64Value
  scan := scanU64 k
  plain _ := plainEntry_nat hk
  scan_eq _ _ hnd := Layout.scanU64 hnd

def i32 (k : Nat) (hk : 0 < k) : FieldCodec Int32 where
  key := k
  value := i32Value
  scan := scanI32 k
  plain _ := plainEntry_nat hk
  scan_eq _ _ hnd := Layout.scanI32 hnd

def bool (k : Nat) (hk : 0 < k) : FieldCodec Bool where
  key := k
  value := boolValue
  scan := scanBool k
  plain _ := plainEntry_nat hk
  scan_eq _ _ hnd := Layout.scanBool hnd

def string (k : Nat) (hk : 0 < k) : FieldCodec String where
  key := k
  value := stringValue
  scan := scanString k
  plain _ := plainEntry_bytes hk
  scan_eq _ _ hnd := Layout.scanString hnd

/-- An embedded message; absent is `none`. -/
def message (k : Nat) (hk : 0 < k) (c : Codec α) : FieldCodec (Option α) where
  key := k
  value m := messageValue (m.map c.encode)
  scan fs := (scanMessage k none fs).bind fun b => match b with
    | none => some none
    | some b => (c.decode b).map some
  plain _ := plainEntry_message hk
  scan_eq l m hnd hm := by
    rw [Layout.scanMessage hnd hm]
    cases m with
    | none => rfl
    | some a => simp

end FieldCodec

/-! ## Message types -/

namespace Codec

variable {α β τ : Type}

/-- The message without fields. -/
def nil : Codec Unit where
  keys := []
  layout _ := []
  read _ := some ()
  nodup := List.nodup_nil
  keys_eq _ := rfl
  plain _ _ h := by cases h
  read_eq _ _ _ _ := rfl

/-- One more field, in front. -/
def cons (f : FieldCodec τ) (c : Codec α) (fresh : f.key ∉ c.keys) : Codec (τ × α) where
  keys := f.key :: c.keys
  layout a := (f.key, f.value a.1) :: c.layout a.2
  read fs := (f.scan fs).bind fun t => (c.read fs).map fun a => (t, a)
  nodup := List.nodup_cons.mpr ⟨fresh, c.nodup⟩
  keys_eq a := by rw [List.map_cons, c.keys_eq]
  plain a e he := by
    rcases List.mem_cons.mp he with rfl | he
    · exact f.plain a.1
    · exact c.plain a.2 e he
  read_eq l a hnd hsub := by
    have hhead : f.scan l.fields = some a.1 := f.scan_eq l a.1 hnd (hsub (.head _))
    have htail : c.read l.fields = some a.2 :=
      c.read_eq l a.2 hnd fun e he => hsub (.tail _ he)
    rw [hhead, Option.bind_some, htail]
    rfl

/-- Give a message type the shape of a record. `make` may refuse: a record may be one of several fields of
    which at most one is set. -/
def shape (c : Codec α) (view : β → α) (make : α → Option β)
    (h : ∀ b, make (view b) = some b) : Codec β where
  keys := c.keys
  layout b := c.layout (view b)
  read fs := (c.read fs).bind make
  nodup := c.nodup
  keys_eq b := c.keys_eq (view b)
  plain b := c.plain (view b)
  read_eq l b hnd hsub := by
    rw [c.read_eq l (view b) hnd hsub]
    exact h b

/-- The fields of one message type followed by those of another. -/
def append (c : Codec α) (d : Codec β) (disjoint : ∀ k ∈ c.keys, k ∉ d.keys) : Codec (α × β) where
  keys := c.keys ++ d.keys
  layout a := c.layout a.1 ++ d.layout a.2
  read fs := (c.read fs).bind fun a => (d.read fs).map fun b => (a, b)
  nodup := by
    rw [List.nodup_append]
    exact ⟨c.nodup, d.nodup, fun k hk k' hk' heq => disjoint k hk (heq ▸ hk')⟩
  keys_eq a := by rw [List.map_append, c.keys_eq, d.keys_eq]
  plain a e he := by
    rcases List.mem_append.mp he with he | he
    · exact c.plain a.1 e he
    · exact d.plain a.2 e he
  read_eq l a hnd hsub := by
    rw [c.read_eq l a.1 hnd fun e he => hsub (List.mem_append_left _ he), Option.bind_some,
      d.read_eq l a.2 hnd fun e he => hsub (List.mem_append_right _ he)]
    rfl

end Codec

end Foundation.Wire
