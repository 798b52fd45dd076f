import Pist.Common.Hexutil

/-! # Genesis storage words: `storageJSON`

`storageJSON` in `core/genesis.go` is `common.Hash` with its own `UnmarshalText`, so that the
`storage` map of a genesis account may give a key or value with fewer than 64 digits:

* **`StorageJson.unmarshalText h text`** — trim one `0x`, refuse more than 64 digits, decode the
  digits into the last `len/2` bytes of the receiver `h`;
* **`StorageJson.marshalText h`** — `hexutil.Bytes(h[:]).MarshalText()`.

`StorageText text digits` is the grammar of the accepted texts, and `unmarshalText_spec`
shows, for the zero receiver `encoding/json` passes, that exactly those texts are accepted, that
they give the left-padded word, and that every word survives a round trip. -/

namespace Pist

namespace StorageJson

/-- The errors of `UnmarshalText`, each with the text after the prefix was trimmed. -/
inductive StorageError
  /-- `"too many hex characters in storage key/value %q"`. -/
  | tooManyHexCharacters (text : List UInt8)
  /-- `"invalid hex storage key/value %q"`. -/
  | invalidHex (text : List UInt8)
deriving DecidableEq, Repr

/-- **`(*storageJSON).UnmarshalText`**: after one `0x` is trimmed, at most 64 digits, decoded
by `hex.Decode` into `h[offset:]` with `offset = len(h) - len(text)/2`. -/
def unmarshalText (h : Hash) (text : List UInt8) : Except StorageError Hash :=
  let text := trimPrefix text Hexutil.prefix0x
  if hlen : 64 < text.length then .error (.tooManyHexCharacters text)
  else
    match hd : Hex.decode text with
    | .error _ => .error (.invalidHex text)
    | .ok dec => .ok ⟨h.bytes.take (32 - text.length / 2) ++ dec, by
        rw [List.length_append, List.length_take, h.length_eq, Hex.length_decode hd]
        omega⟩

/-- `storageJSON.MarshalText`: `hexutil.Bytes(h[:]).MarshalText()`. -/
def marshalText (h : Hash) : List UInt8 := Hexutil.bytesMarshalText h.bytes

/-- **The storage texts**: the text is `digits`, or `0x` and `digits`, where `digits` is an even
number, at most 64, of hex digits. -/
def StorageText (text digits : List UInt8) : Prop :=
  (text = digits ∨ text = Hexutil.prefix0x ++ digits) ∧ (∀ c ∈ digits, (Hex.fromHexChar c).isSome) ∧
    digits.length % 2 = 0 ∧ digits.length ≤ 64

/-- Digits do not start with `0x`: `x` is not a digit. -/
theorem trimPrefix_digits {digits : List UInt8} (h : ∀ c ∈ digits, (Hex.fromHexChar c).isSome) :
    trimPrefix digits Hexutil.prefix0x = digits := by
  apply trimPrefix_of_not_isPrefixOf
  intro hp
  obtain ⟨t, rfl⟩ := List.isPrefixOf_iff_prefix.1 hp
  have := h 120 (by simp [Hexutil.prefix0x])
  exact absurd this (by decide)

/-- The trimmed text of a storage text is its digits. -/
theorem trimPrefix_of_storageText {text digits : List UInt8} (h : StorageText text digits) :
    trimPrefix text Hexutil.prefix0x = digits := by
  rcases h.1 with rfl | rfl
  · exact trimPrefix_digits h.2.1
  · exact trimPrefix_append _ _

/-- What `UnmarshalText` does with a text whose trimmed part is at most 64 digits that decode. -/
theorem unmarshalText_of_decode {h : Hash} {text dec : List UInt8}
    (hlen : (trimPrefix text Hexutil.prefix0x).length ≤ 64)
    (hd : Hex.decode (trimPrefix text Hexutil.prefix0x) = .ok dec) :
    (unmarshalText h text).map FixedBytes.bytes =
      .ok (h.bytes.take (32 - (trimPrefix text Hexutil.prefix0x).length / 2) ++ dec) := by
  unfold unmarshalText
  simp only [dif_neg (Nat.not_lt.2 hlen)]
  split
  · rename_i e he; rw [hd] at he; cases he
  · rename_i d hd'; rw [hd] at hd'; cases hd'; rfl

/-- An accepted text: its trimmed part has at most 64 digits and decodes. -/
theorem ok_of_unmarshalText {h w : Hash} {text : List UInt8} (hw : unmarshalText h text = .ok w) :
    (trimPrefix text Hexutil.prefix0x).length ≤ 64 ∧
      ∃ dec, Hex.decode (trimPrefix text Hexutil.prefix0x) = .ok dec := by
  unfold unmarshalText at hw
  dsimp only at hw
  split at hw
  · cases hw
  · rename_i hlen
    split at hw
    · cases hw
    · exact ⟨Nat.le_of_not_lt hlen, _, ‹_›⟩

/-- A word is determined by its bytes. -/
theorem eq_ok_of_map_bytes {r : Except StorageError Hash} {w : Hash}
    (h : r.map FixedBytes.bytes = .ok w.bytes) : r = .ok w := by
  cases r with
  | error e => cases h
  | ok v => exact congrArg Except.ok (FixedBytes.ext (Except.ok.inj h))

/-- **`UnmarshalText` of the zero word** (what `encoding/json` passes for a `storage` key or
value) accepts exactly the storage texts, gives the word whose last `len/2` bytes are the
decoded digits behind zero bytes, and reads back every word `MarshalText` writes. -/
theorem unmarshalText_spec :
    (∀ text, (∃ w, unmarshalText (FixedBytes.zero 32) text = .ok w) ↔
        ∃ digits, StorageText text digits) ∧
      (∀ text digits, StorageText text digits → ∃ dec, Hex.decode digits = .ok dec ∧
        (unmarshalText (FixedBytes.zero 32) text).map FixedBytes.bytes =
          .ok (List.replicate (32 - digits.length / 2) 0 ++ dec)) ∧
      ∀ w : Hash, unmarshalText (FixedBytes.zero 32) (marshalText w) = .ok w := by
  -- the value of an accepted text
  have value : ∀ text digits, StorageText text digits → ∃ dec, Hex.decode digits = .ok dec ∧
      (unmarshalText (FixedBytes.zero 32) text).map FixedBytes.bytes =
        .ok (List.replicate (32 - digits.length / 2) 0 ++ dec) := by
    intro text digits hs
    obtain ⟨dec, hdec⟩ := (Hex.decode_ok_iff digits).2 ⟨hs.2.2.1, hs.2.1⟩
    have ht := trimPrefix_of_storageText hs
    refine ⟨dec, hdec, ?_⟩
    rw [unmarshalText_of_decode (by rw [ht]; exact hs.2.2.2) (by rw [ht]; exact hdec), ht]
    show Except.ok (List.take _ (List.replicate 32 0) ++ dec) = _
    rw [List.take_replicate, Nat.min_eq_left (Nat.sub_le _ _)]
  refine ⟨fun text => ⟨?_, ?_⟩, value, fun w => ?_⟩
  · rintro ⟨w, hw⟩
    obtain ⟨hlen, dec, hdec⟩ := ok_of_unmarshalText hw
    obtain ⟨heven, hdigits⟩ := (Hex.decode_ok_iff _).1 ⟨dec, hdec⟩
    exact ⟨_, eq_or_eq_append_trimPrefix text _, hdigits, heven, hlen⟩
  · rintro ⟨digits, hs⟩
    obtain ⟨dec, -, hv⟩ := value text digits hs
    cases hr : unmarshalText (FixedBytes.zero 32) text with
    | error e => rw [hr] at hv; cases hv
    | ok w => exact ⟨w, rfl⟩
  · -- `MarshalText` writes `0x` and 64 digits, which decode to the word's bytes
    have ht : trimPrefix (marshalText w) Hexutil.prefix0x = Hex.encode w.bytes :=
      trimPrefix_append _ _
    have hlen : (Hex.encode w.bytes).length = 64 := by rw [Hex.length_encode, w.length_eq]
    apply eq_ok_of_map_bytes
    rw [unmarshalText_of_decode (by rw [ht, hlen]) (by rw [ht]; exact Hex.decode_encode _), ht,
      hlen]
    rfl

end StorageJson

end Pist
