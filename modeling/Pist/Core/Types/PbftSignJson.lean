import Pist.Core.Types.Committee
import Pist.Common.Hexutil

/-! # The JSON codec of `PbftSign`

`core/types/gen_pbftSign_json.go`, generated by `gencodec`, gives the vote record its JSON form.
Both methods declare a local struct with the four fields; `MarshalJSON` fills it from the record
and `UnmarshalJSON` decodes into pointer fields, then copies every field that was set. This file
models:

* **`PbftSign.marshalJSON`** — `MarshalJSON`, the object `encoding/json` writes for the struct:
  the members in field order, each field by its own text form;
* **`PbftSign.Dec`**, **`PbftSign.decodeMember`**, **`PbftSign.unmarshalDec`** — the pointer
  struct and `json.Unmarshal` filling it member by member: keys matched to fields, `null`, the
  errors that end the decoding and the type errors it saves for the end;
* **`PbftSign.unmarshalJSON`** — `UnmarshalJSON` itself.

The main result is `unmarshalJSON_marshalJSON`: a record whose height is `nil` or in
`[0, 2^256)` reads back as itself. `unmarshalJSON_error` says what an error can be: one that
names the field being decoded, the length error of a `FastHash`, which names none, or a type
error for an input that is neither `null` nor an object. -/

namespace Pist

namespace PbftSign

open Json

/-! ## (1) Encoding -/

/-- The fields of the struct both methods declare, in declaration order. -/
inductive Field where
  | fastHeight
  | fastHash
  | result
  | sign
deriving DecidableEq, Repr

/-- The Go name of each field, which is also its JSON key. -/
def Field.name : Field → String
  | .fastHeight => "FastHeight"
  | .fastHash => "FastHash"
  | .result => "Result"
  | .sign => "Sign"

/-- The fields in declaration order. -/
def fields : List Field := [.fastHeight, .fastHash, .result, .sign]

/-- A `*hexutil.Big` as `encoding/json` writes it: `null` for `nil`, otherwise the string its
`MarshalText` gives. -/
def bigJSON : Option Int → JsonValue
  | none => .null
  | some n => .string (Hexutil.encodeBig n)

/-- **`MarshalJSON`**: the struct as an object. `FastHash` and `Sign` are written by their
`MarshalText`, `Result` as a number. -/
def marshalJSON (p : PbftSign) : JsonValue :=
  .object [
    (Field.fastHeight.name, bigJSON p.fastHeight),
    (Field.fastHash.name, .string (Hexutil.bytesMarshalText p.fastHash.bytes)),
    (Field.result.name, .number (formatUint p.result.toNat)),
    (Field.sign.name, .string (Hexutil.bytesMarshalText p.sign))]

/-! ## (2) Decoding -/

/-- The struct `UnmarshalJSON` decodes into: every field a pointer, `nil` until a member sets
it. -/
structure Dec where
  /-- `FastHeight *hexutil.Big`. -/
  fastHeight : Option Int := none
  /-- `FastHash *common.Hash`. -/
  fastHash : Option Hash := none
  /-- `Result *uint32`. -/
  result : Option UInt32 := none
  /-- `Sign *hexutil.Bytes`. -/
  sign : Option (List UInt8) := none
deriving DecidableEq, Repr

/-- The field an object key decodes into: the field of that exact name, else the first whose
name folds to the key. A key that matches no field is skipped. -/
def fieldOf (key : String) : Option Field :=
  match fields.find? (·.name = key) with
  | some f => some f
  | none => fields.find? fun f => foldName f.name = foldName key

/-- A field's own name selects it. -/
theorem fieldOf_name (f : Field) : fieldOf f.name = some f := by
  cases f <;> decide

/-- Decoding into a pointer field whose type has an `UnmarshalJSON` method: `null` makes the
pointer `nil`; any other value goes to the method, whose error, named after the field, ends the
decoding. -/
def unmarshalerField {α : Type} (unmarshal : JsonValue → Except JsonError α) (f : Field) :
    JsonValue → Except JsonError (Option α)
  | .null => .ok none
  | v => ((unmarshal v).mapError (·.withField f.name)).map some

/-- A number literal as text (JSON number literals are ASCII). -/
def literalText (literal : List UInt8) : String := String.mk (literal.map fun c => Char.ofNat c.toNat)

/-- Decoding into `*uint32`, which has no method: `null` makes the pointer `nil`; a literal that
`strconv.ParseUint` reads below `2^32` is stored. Anything else is a type error, which
`encoding/json` saves while it goes on with the next member. -/
def uint32Field (f : Field) : JsonValue → Except JsonError (Option UInt32)
  | .null => .ok none
  | .number literal =>
    match parseUint literal with
    | some n =>
      if n < 2 ^ 32 then .ok (some n.toUInt32)
      else .error (.unmarshalType ("number " ++ literalText literal) "uint32" f.name)
    | none => .error (.unmarshalType ("number " ++ literalText literal) "uint32" f.name)
  | v => .error (.unmarshalType v.kind "uint32" f.name)

/-- **One object member**, decoded into the struct; the second component is the first saved
type error. -/
def decodeMember (st : Dec × Option JsonError) (member : String × JsonValue) :
    Except JsonError (Dec × Option JsonError) :=
  match fieldOf member.1 with
  | none => .ok st
  | some .fastHeight =>
    (unmarshalerField Hexutil.bigUnmarshalJSON .fastHeight member.2).map fun x =>
      ({ st.1 with fastHeight := x.map Int.ofNat }, st.2)
  | some .fastHash =>
    (unmarshalerField Hexutil.hashUnmarshalJSON .fastHash member.2).map fun x =>
      ({ st.1 with fastHash := x }, st.2)
  | some .result =>
    match uint32Field .result member.2 with
    | .ok x => .ok ({ st.1 with result := x }, st.2)
    | .error e => .ok (st.1, st.2.orElse fun _ => some e)
  | some .sign =>
    (unmarshalerField Hexutil.bytesUnmarshalJSON .sign member.2).map fun x =>
      ({ st.1 with sign := x }, st.2)

/-- **`json.Unmarshal(input, &dec)`**: `null` leaves the struct as it is; an object is decoded
member by member, and then the first saved type error, if any, is returned; any other value does
not fit the struct. -/
def unmarshalDec : JsonValue → Except JsonError Dec
  | .null => .ok {}
  | .object members =>
    match members.foldlM decodeMember ({}, none) with
    | .error e => .error e
    | .ok (dec, none) => .ok dec
    | .ok (_, some e) => .error e
  | v => .error (.unmarshalType v.kind "types.PbftSign" "")

/-- **`UnmarshalJSON`**: decode, then copy into the receiver every field that was set; on an
error the receiver is left as it was. -/
def unmarshalJSON (p : PbftSign) (input : JsonValue) : Except JsonError PbftSign :=
  match unmarshalDec input with
  | .error e => .error e
  | .ok dec =>
    .ok {
      fastHeight := match dec.fastHeight with
        | some n => some n
        | none => p.fastHeight
      fastHash := dec.fastHash.getD p.fastHash
      result := dec.result.getD p.result
      sign := dec.sign.getD p.sign }

/-- The zero value of `PbftSign`. -/
def zero : PbftSign := ⟨none, FixedBytes.zero 32, 0, []⟩

/-! ## (3) Round trip -/

/-- A height `MarshalJSON` wrote decodes back into `FastHeight`. -/
theorem decodeMember_fastHeight (st : Dec × Option JsonError) {h : Option Int}
    (hh : ∀ n, h = some n → 0 ≤ n ∧ n < 2 ^ 256) :
    decodeMember st (Field.fastHeight.name, bigJSON h) = .ok ({ st.1 with fastHeight := h }, st.2) := by
  cases h with
  | none => rfl
  | some n =>
    obtain ⟨h0, h1⟩ := hh n rfl
    simp only [decodeMember, fieldOf_name, bigJSON, unmarshalerField, Hexutil.bigUnmarshalJSON,
      Hexutil.bigUnmarshalText_encodeBig h0 h1]
    simp [Except.mapError, Except.map, Int.toNat_of_nonneg h0]

/-- A hash `MarshalJSON` wrote decodes back into `FastHash`. -/
theorem decodeMember_fastHash (st : Dec × Option JsonError) (h : Hash) :
    decodeMember st (Field.fastHash.name, .string (Hexutil.bytesMarshalText h.bytes)) =
      .ok ({ st.1 with fastHash := some h }, st.2) := by
  simp only [decodeMember, fieldOf_name, unmarshalerField, Hexutil.hashUnmarshalJSON,
    Hexutil.unmarshalFixedJSON, Hexutil.unmarshalFixedText_marshalText]
  rfl

/-- A result `MarshalJSON` wrote decodes back into `Result`. -/
theorem decodeMember_result (st : Dec × Option JsonError) (r : UInt32) :
    decodeMember st (Field.result.name, .number (formatUint r.toNat)) =
      .ok ({ st.1 with result := some r }, st.2) := by
  have hr : r.toNat < 2 ^ 32 := r.toNat_lt_size
  have hparse : parseUint (formatUint r.toNat) = some r.toNat := parseUint_formatUint (by omega)
  simp only [decodeMember, fieldOf_name, uint32Field, hparse, hr, ite_true,
    show r.toNat.toUInt32 = r from UInt32.toNat.inj (UInt32.toNat_ofNat_of_lt r.toNat_lt_size)]

/-- A signature `MarshalJSON` wrote decodes back into `Sign`. -/
theorem decodeMember_sign (st : Dec × Option JsonError) (b : List UInt8) :
    decodeMember st (Field.sign.name, .string (Hexutil.bytesMarshalText b)) =
      .ok ({ st.1 with sign := some b }, st.2) := by
  simp only [decodeMember, fieldOf_name, unmarshalerField, Hexutil.bytesUnmarshalJSON,
    Hexutil.bytesUnmarshalText_marshalText]
  rfl

/-- Each member `MarshalJSON` writes decodes into its own field. -/
theorem unmarshalDec_marshalJSON {p : PbftSign}
    (hp : ∀ n, p.fastHeight = some n → 0 ≤ n ∧ n < 2 ^ 256) :
    unmarshalDec p.marshalJSON = .ok ⟨p.fastHeight, some p.fastHash, some p.result, some p.sign⟩ := by
  simp only [unmarshalDec, marshalJSON, List.foldlM_cons, List.foldlM_nil,
    decodeMember_fastHeight _ hp, decodeMember_fastHash, decodeMember_result, decodeMember_sign]
  rfl

/-- **Round trip**: decoding what `MarshalJSON` wrote into the zero record gives the record
back, when its height is `nil` or in `[0, 2^256)`. -/
theorem unmarshalJSON_marshalJSON (p : PbftSign)
    (hp : ∀ n, p.fastHeight = some n → 0 ≤ n ∧ n < 2 ^ 256) :
    zero.unmarshalJSON p.marshalJSON = .ok p := by
  rw [unmarshalJSON, unmarshalDec_marshalJSON hp]
  cases p with
  | mk fastHeight fastHash result sign => cases fastHeight <;> rfl

theorem unmarshalJSON_marshalJSON_height_five :
    (∀ n, (⟨some 5, FixedBytes.zero 32, 1, [171]⟩ : PbftSign).fastHeight = some n →
        0 ≤ n ∧ n < 2 ^ 256) ∧
      zero.unmarshalJSON (marshalJSON ⟨some 5, FixedBytes.zero 32, 1, [171]⟩) =
        .ok ⟨some 5, FixedBytes.zero 32, 1, [171]⟩ :=
  have h : ∀ n, (⟨some 5, FixedBytes.zero 32, 1, [171]⟩ : PbftSign).fastHeight = some n →
      0 ≤ n ∧ n < 2 ^ 256 := by
    rintro n ⟨⟩; norm_num
  ⟨h, unmarshalJSON_marshalJSON _ h⟩

/-! ## (4) Errors -/

/-- **An error that names the field it was decoding**, or the length error of a hash, which
`wrapTypeError` does not make a type error and so carries no field. -/
def FieldError (e : JsonError) : Prop :=
  (∃ (f : Field) (value goType : String), e = .unmarshalType value goType f.name) ∨
    ∃ got, e = .other (Hexutil.HexutilError.wrongLength got (2 * 32) "common.Hash").text

/-- An error of a method, passed on with the field `encoding/json` was decoding. -/
theorem unmarshalerField_error {α : Type} {u : JsonValue → Except JsonError α} {f : Field}
    {v : JsonValue} {e : JsonError} (h : unmarshalerField u f v = .error e) :
    ∃ e', u v = .error e' ∧ e = e'.withField f.name := by
  unfold unmarshalerField at h
  split at h
  · cases h
  · cases hv : u v with
    | error e' => rw [hv] at h; cases h; exact ⟨e', rfl, rfl⟩
    | ok a => rw [hv] at h; cases h

/-- A type error of a method names the field once `encoding/json` passes it on. -/
theorem fieldError_withField {e : JsonError} {typ : String} (f : Field)
    (he : ∃ value, e = .unmarshalType value typ "") : FieldError (e.withField f.name) := by
  obtain ⟨value, rfl⟩ := he
  exact .inl ⟨f, value, typ, rfl⟩

theorem uint32Field_error {f : Field} {v : JsonValue} {e : JsonError}
    (h : uint32Field f v = .error e) : FieldError e := by
  unfold uint32Field at h
  split at h
  · cases h
  · split at h
    · split at h <;> cases h; exact .inl ⟨f, _, _, rfl⟩
    · cases h; exact .inl ⟨f, _, _, rfl⟩
  · cases h; exact .inl ⟨f, _, _, rfl⟩

theorem map_eq_error {α β : Type} {x : Except JsonError α} {g : α → β} {e : JsonError}
    (h : x.map g = .error e) : x = .error e := by
  cases x <;> cases h; rfl

/-- **A member ends the decoding only with an error that names its field**, or the length
error of a hash. -/
theorem decodeMember_error {st : Dec × Option JsonError} {m : String × JsonValue} {e : JsonError}
    (h : decodeMember st m = .error e) : FieldError e := by
  unfold decodeMember at h
  split at h
  · cases h
  · obtain ⟨e', he', rfl⟩ := unmarshalerField_error (map_eq_error h)
    exact fieldError_withField _ (Hexutil.bigUnmarshalJSON_error he')
  · obtain ⟨e', he', rfl⟩ := unmarshalerField_error (map_eq_error h)
    rcases Hexutil.unmarshalFixedJSON_error he' with he | ⟨got, rfl⟩
    · exact fieldError_withField _ he
    · exact .inr ⟨got, rfl⟩
  · split at h <;> cases h
  · obtain ⟨e', he', rfl⟩ := unmarshalerField_error (map_eq_error h)
    exact fieldError_withField _ (Hexutil.bytesUnmarshalJSON_error he')

/-- A member saves only an error that names its field. -/
theorem decodeMember_saved {st st' : Dec × Option JsonError} {m : String × JsonValue}
    (h : decodeMember st m = .ok st') (hst : ∀ e, st.2 = some e → FieldError e) :
    ∀ e, st'.2 = some e → FieldError e := by
  have keep : ∀ {α : Type} {x : Except JsonError α} {g : α → Dec},
      x.map (fun a => (g a, st.2)) = .ok st' → st'.2 = st.2 := by
    intro α x g hx
    cases x <;> cases hx; rfl
  unfold decodeMember at h
  split at h
  · cases h; exact hst
  · rw [keep h]; exact hst
  · rw [keep h]; exact hst
  · split at h <;> cases h
    · exact hst
    · rename_i e' he'
      intro e hse
      cases hs : st.2 with
      | some e₀ => rw [hs] at hse; cases hse; exact hst _ hs
      | none => rw [hs] at hse; cases hse; exact uint32Field_error he'
  · rw [keep h]; exact hst

theorem foldlM_decodeMember_fieldError : ∀ (members : List (String × JsonValue))
    (st : Dec × Option JsonError), (∀ e, st.2 = some e → FieldError e) →
    (∀ e, members.foldlM decodeMember st = .error e → FieldError e) ∧
      ∀ st', members.foldlM decodeMember st = .ok st' → ∀ e, st'.2 = some e → FieldError e
  | [], st, hst => ⟨fun e h => (by cases h), fun st' h => by cases h; exact hst⟩
  | m :: ms, st, hst => by
    simp only [List.foldlM_cons]
    cases hm : decodeMember st m with
    | error e => exact ⟨fun e' h => (by cases h; exact decodeMember_error hm), fun _ h => by cases h⟩
    | ok st₁ => exact foldlM_decodeMember_fieldError ms st₁ (decodeMember_saved hm hst)

/-- **Every error of `UnmarshalJSON` says where it arose**: it names the field being decoded,
or it is the length error of the hash (which carries no field), or the input is neither `null`
nor an object. -/
theorem unmarshalJSON_error (p : PbftSign) (input : JsonValue) {e : JsonError}
    (h : p.unmarshalJSON input = .error e) :
    FieldError e ∨ ∃ value, e = .unmarshalType value "types.PbftSign" "" := by
  unfold unmarshalJSON at h
  split at h
  · rename_i e' hd
    cases h
    unfold unmarshalDec at hd
    split at hd
    · cases hd
    · rename_i members
      have hfold := foldlM_decodeMember_fieldError members ({}, none) (fun _ h => by cases h)
      split at hd
      · cases hd; exact .inl (hfold.1 _ ‹_›)
      · cases hd
      · cases hd; exact .inl (hfold.2 _ ‹_› _ rfl)
    · cases hd; exact .inr ⟨_, rfl⟩
  · cases h

/-- A hash of one byte: the length error, with no field. -/
example : zero.unmarshalJSON (.object [("FastHash", .string [48, 120, 48, 48])]) =
    .error (.other "hex string has length 2, want 64 for common.Hash") :=
  rfl

end PbftSign

end Pist
