import TgClient.Decode.Encode

/-!
# Frames: `Object` Decodes Every Well-Formed Tree

`TgClient.Decode.Encode` inverts the primitive encodings one read at a time. Here the reads
are put together as `Object` puts them together: a frame is a tree of `msg_container`s,
`rpc_result`s, `gzip_packed` payloads and generated constructors, whose fields are any of
the reads of `DecodeBuf` — vectors of objects and objects among them — nested to any depth.

The grammar of frames is modelled from the spec (§4.A and the TL schema): `Node F t e`
says that `e` encodes one node `t` whose nested objects are `F`-frames, and
`Frame gunzip schema n` is `Node` iterated `n` times, so `n` bounds the nesting depth.
A `gzip_packed` node holds a payload that the gzip library inflates to a frame followed by
anything; a generated node's fields follow its constructor in the schema, the `Flagged`
ones present exactly when their bit of the last `flags` word is set.

`Bytes(size)` takes `m.off+size` as a Go `int`, so a raw field decodes only while the
buffer is shorter than `2^63` bytes. `Decodes` is `RoundTrips` with that bound.

The proof is the usual fuel induction: one lemma per branch of `objectBody`, each given
that the nested reader decodes the nested frames (`objectBody_decodes`), and then
induction on the depth (`object_decodes_frame`).

## Main results

* `fields_decodes`: the generated decoder reads every well-formed field list, `flags` and
  `Flagged` fields included.
* `objectBody_decodes`: one node, given its nested objects.
* `object_decodes_frame`: at every budget not below its depth, `Object` decodes every frame,
  for every gzip library and schema: it returns the tree, leaves `err` nil, does not panic,
  and stops right after the frame.
-/

namespace TgClient

namespace DecodeBuf

variable {α β : Type}

/-! ### Round trips below Go's `int` range -/

/-- `rd` decodes `v` from `e` at every offset where `e` ends below `2^63`, before any suffix:
it returns `v`, leaves `err` nil and moves `off` past `e`. -/
def Decodes (rd : Reader α) (e : Bytes) (v : α) : Prop :=
  ∀ pre r : Bytes, (pre ++ e).length < 2 ^ 63 → rd (seek pre (e ++ r)) = .ok (v, seek (pre ++ e) r)

theorem RoundTrips.decodes {rd : Reader α} {e : Bytes} {v : α} (h : RoundTrips rd e v) :
    Decodes rd e v :=
  fun pre r _ => roundTrips_iff.mp h pre r

theorem Decodes.map {rd : Reader α} {e : Bytes} {v : α} (f : α → β) (h : Decodes rd e v) :
    Decodes (mapReader f rd) e (f v) := fun pre r hl => by
  simp only [mapReader, h pre r hl]
  rfl

/-- Two reads in sequence, their results consed: `v, m := rd(m); vs, m := rest(m)`. -/
theorem Decodes.cons {γ : Type} {rd : Reader γ} {rest : Reader (List γ)} {e es : Bytes} {v : γ}
    {vs : List γ} (h₁ : Decodes rd e v) (h₂ : Decodes rest es vs) :
    Decodes (fun m => rd m >>= fun (v, m) => rest m >>= fun (vs, m) => .ok (v :: vs, m))
      (e ++ es) (v :: vs) := fun pre r hl => by
  simp only [List.length_append, List.append_assoc] at hl ⊢
  rw [h₁ pre (es ++ r) (by simp only [List.length_append]; omega), ok_bind,
    h₂ (pre ++ e) r (by simpa only [List.length_append, List.append_assoc] using hl)]
  simp only [List.append_assoc, ok_bind]

/-- `Bytes(len(b))` on `b`. -/
theorem bytes_decodes (b : Bytes) : Decodes (bytes b.length) b b := fun pre r hl => by
  have h₁ : ¬ 2 ^ 63 ≤ (seek pre (b ++ r)).off + b.length := by
    simp only [seek, List.length_append] at hl ⊢
    omega
  have h₂ : ¬ (seek pre (b ++ r)).off + b.length > (seek pre (b ++ r)).size := by simp [seek]
  rw [bytes, if_neg (by simp), if_neg h₁, if_neg h₂, seek_window, List.take_left,
    seek_skip_append]

/-- `Bool` on the constructor of `boolTrue` or `boolFalse`. -/
theorem bool_roundTrip (b : Bool) :
    RoundTrips (total bool) (encUInt (if b then crcBoolTrue else crcBoolFalse)) b := by
  rw [roundTrips_iff]
  intro pre r
  have hne : crcBoolTrue ≠ crcBoolFalse := by decide
  cases b <;> simp [total, bool, total_eq_of_roundTrips (uint_roundTrip _), hne]

/-- The element loop of a vector read, on encoded elements. -/
theorem vectorItems_decodes {elem : Reader β} {enc : α → Bytes} {val : α → β} :
    ∀ xs : List α, (∀ x ∈ xs, Decodes elem (enc x) (val x)) → ∀ pre r : Bytes,
      (pre ++ (xs.map enc).flatten).length < 2 ^ 63 →
      vectorItems elem xs.length (seek pre ((xs.map enc).flatten ++ r)) =
        .ok (some (xs.map val), seek (pre ++ (xs.map enc).flatten) r)
  | [], _, pre, r, _ => by simp [vectorItems]
  | x :: xs, h, pre, r, hl => by
    simp only [List.map_cons, List.flatten_cons, List.length_append, List.append_assoc] at hl ⊢
    have hx := h x (List.mem_cons_self x xs) pre ((xs.map enc).flatten ++ r)
      (by simp only [List.length_append]; omega)
    have ih := vectorItems_decodes xs (fun y hy => h y (List.mem_cons_of_mem x hy))
      (pre ++ enc x) r (by simp only [List.length_append]; omega)
    simp only [List.append_assoc] at ih
    simp [vectorItems, hx, ih]

theorem vectorOf_decodes {fn : String} {elem : Reader β} {enc : α → Bytes} {val : α → β}
    (xs : List α) (hlen : xs.length < 2 ^ 31) (h : ∀ x ∈ xs, Decodes elem (enc x) (val x)) :
    Decodes (vectorOf fn elem) (encVector enc xs) (xs.map val) := fun pre r hl => by
  have hu := total_eq_of_roundTrips (uint_roundTrip crcVector) pre
    (encInt xs.length ++ ((xs.map enc).flatten ++ r))
  have hi := total_eq_of_roundTrips (int_roundTrip xs.length (by omega) (by exact_mod_cast hlen))
    (pre ++ encUInt crcVector) ((xs.map enc).flatten ++ r)
  have hv := vectorItems_decodes xs h (pre ++ encUInt crcVector ++ encInt xs.length) r
    (by simpa only [encVector, List.append_assoc] using hl)
  simp only [encVector, List.append_assoc] at hu hi hv ⊢
  simp [vectorOf, hu, hi, hv]

/-! ### The grammar of frames -/

section Grammar

variable (gunzip : Bytes → Option Bytes) (schema : Schema) (F : TL → Bytes → Prop)

/-- Modelled from the spec: `Item F msg e` says that `e` encodes the container item `msg`,
`TL_MT_message{MsgID, SeqNo, Bytes, Data}` as `i64 | i32 | i32 | object`, with its object
an `F`-frame. -/
inductive Item : MTMessage → Bytes → Prop
  | mk {msgId seqNo bytes : ℤ} {t : TL} {e : Bytes} (hm : -2 ^ 63 ≤ msgId ∧ msgId < 2 ^ 63)
      (hs : -2 ^ 31 ≤ seqNo ∧ seqNo < 2 ^ 31) (hb : -2 ^ 31 ≤ bytes ∧ bytes < 2 ^ 31)
      (ht : F t e) :
      Item (.mk msgId seqNo bytes (some t)) (encLong msgId ++ encInt seqNo ++ encInt bytes ++ e)

/-- Modelled from the spec: `Field F r v e` says that `e` encodes the value `v` of a field
that the generated decoder reads with `r`, with its objects `F`-frames. -/
inductive Field : Read → Value → Bytes → Prop
  | long {v : ℤ} (h : -2 ^ 63 ≤ v ∧ v < 2 ^ 63) : Field .long (.long v) (encLong v)
  | double {x : ℕ} (h : x < 2 ^ 64) : Field .double (.double x) (leBytes 8 x)
  | int {v : ℤ} (h : -2 ^ 31 ≤ v ∧ v < 2 ^ 31) : Field .int (.int v) (encInt v)
  | uint (v : UInt32) : Field .uint (.uint v) (encUInt v)
  | bytes (b : Bytes) : Field (.bytes b.length) (.bytes b) b
  | stringBytes {s : Bytes} (h : s.length < 2 ^ 24) :
      Field .stringBytes (.bytes s) (encStringBytes s)
  | string {s : Bytes} (h : s.length < 2 ^ 24) : Field .string (.string s) (encStringBytes s)
  | bigInt {n : ℕ} (h : (bigEndian n).length < 2 ^ 24) :
      Field .bigInt (.bigInt (some n)) (encBigInt n)
  | vectorInt {xs : List ℤ} (hn : xs.length < 2 ^ 31) (h : ∀ x ∈ xs, -2 ^ 31 ≤ x ∧ x < 2 ^ 31) :
      Field .vectorInt (.vectorInt xs) (encVector encInt xs)
  | vectorLong {xs : List ℤ} (hn : xs.length < 2 ^ 31)
      (h : ∀ x ∈ xs, -2 ^ 63 ≤ x ∧ x < 2 ^ 63) :
      Field .vectorLong (.vectorLong xs) (encVector encLong xs)
  | vectorString {xs : List Bytes} (hn : xs.length < 2 ^ 31) (h : ∀ s ∈ xs, s.length < 2 ^ 24) :
      Field .vectorString (.vectorString xs) (encVector encStringBytes xs)
  | bool (b : Bool) : Field .bool (.bool b) (encUInt (if b then crcBoolTrue else crcBoolFalse))
  | vector {xs : List (TL × Bytes)} (hn : xs.length < 2 ^ 31) (h : ∀ x ∈ xs, F x.1 x.2) :
      Field .vector (.vector (xs.map fun x => some x.1)) (encVector Prod.snd xs)
  | object {t : TL} {e : Bytes} (h : F t e) : Field .object (.object (some t)) e

/-- Modelled from the spec: `Fields F fs flags vs e` says that `e` encodes the values `vs` of
the fields `fs`, read after the `flags` word `flags`: a `flags` field sets the word for the
fields after it, and a `Flagged` field is present exactly when its bit is set. -/
inductive Fields : List FieldType → ℤ → List Value → Bytes → Prop
  | nil (flags : ℤ) : Fields [] flags [] []
  | read {r : Read} {v : Value} {e : Bytes} {fs : List FieldType} {flags : ℤ} {vs : List Value}
      {es : Bytes} (h : Field F r v e) (hs : Fields fs flags vs es) :
      Fields (.read r :: fs) flags (v :: vs) (e ++ es)
  | flags {f : ℤ} {fs : List FieldType} {flags : ℤ} {vs : List Value} {es : Bytes}
      (h : -2 ^ 31 ≤ f ∧ f < 2 ^ 31) (hs : Fields fs f vs es) :
      Fields (.flags :: fs) flags (.int f :: vs) (encInt f ++ es)
  | flaggedSet {num : ℤ} {r : Read} {v : Value} {e : Bytes} {fs : List FieldType} {flags : ℤ}
      {vs : List Value} {es : Bytes} (hb : flagSet flags num = true) (h : Field F r v e)
      (hs : Fields fs flags vs es) :
      Fields (.flagged num r :: fs) flags (v :: vs) (e ++ es)
  | flaggedUnset {num : ℤ} {r : Read} {fs : List FieldType} {flags : ℤ} {vs : List Value}
      {es : Bytes} (hb : flagSet flags num = false) (hs : Fields fs flags vs es) :
      Fields (.flagged num r :: fs) flags (r.zero :: vs) es

/-- Modelled from the spec: `Node F t e` says that `e` encodes one node `t` of a frame, whose
nested objects are `F`-frames: a container of items, an `rpc_result`, a `gzip_packed` whose
payload inflates to a frame of `t` followed by anything, or a constructor of the schema
other than these three. -/
inductive Node : TL → Bytes → Prop
  | msgContainer {xs : List (MTMessage × Bytes)} (hn : xs.length < 2 ^ 31)
      (h : ∀ x ∈ xs, Item F x.1 x.2) :
      Node (.msgContainer (xs.map Prod.fst))
        (encUInt crcMsgContainer ++ encInt xs.length ++ (xs.map Prod.snd).flatten)
  | rpcResult {reqMsgId : ℤ} {t : TL} {e : Bytes} (hr : -2 ^ 63 ≤ reqMsgId ∧ reqMsgId < 2 ^ 63)
      (h : F t e) :
      Node (.rpcResult reqMsgId (some t)) (encUInt crcRpcResult ++ encLong reqMsgId ++ e)
  | gzipPacked {t : TL} {e p rest : Bytes} (hp : p.length < 2 ^ 24)
      (hz : gunzip p = some (e ++ rest)) (he : e.length < 2 ^ 63) (h : F t e) :
      Node t (encUInt crcGzipPacked ++ encStringBytes p)
  | generated {crc : UInt32} {c : Ctor} {vs : List Value} {e : Bytes} (hs : schema crc = some c)
      (hc : crc ≠ crcMsgContainer ∧ crc ≠ crcRpcResult ∧ crc ≠ crcGzipPacked)
      (h : Fields F c.fields 0 vs e) :
      Node (c.build vs) (encUInt crc ++ e)

/-- Modelled from the spec: `Frame gunzip schema n t e` says that `e` encodes the object `t`,
with objects nested at most `n` deep. -/
def Frame : ℕ → TL → Bytes → Prop
  | 0 => fun _ _ => False
  | n + 1 => Node gunzip schema (Frame n)

end Grammar

/-! ### Each branch, given the nested reader -/

section Branches

variable {gunzip : Bytes → Option Bytes} {schema : Schema} {obj : Reader (Option TL)}

theorem crc_ne : crcRpcResult ≠ crcMsgContainer ∧ crcGzipPacked ≠ crcMsgContainer ∧
    crcGzipPacked ≠ crcRpcResult := by
  decide

/-- `Object` past a constructor id: the result of its branch, when the branch leaves `err`
nil. -/
theorem objectBody_of_branch {crc : UInt32} {pre rest q r : Bytes} {t : TL}
    (h : (if crc = crcMsgContainer then msgContainer obj (seek (pre ++ encUInt crc) rest)
        else if crc = crcRpcResult then rpcResult obj (seek (pre ++ encUInt crc) rest)
        else if crc = crcGzipPacked then gzipPacked gunzip obj (seek (pre ++ encUInt crc) rest)
        else objectGenerated schema obj crc (seek (pre ++ encUInt crc) rest)) =
      .ok (some t, seek q r)) :
    objectBody gunzip schema obj (seek pre (encUInt crc ++ rest)) = .ok (some t, seek q r) := by
  simp [objectBody, total_eq_of_roundTrips (uint_roundTrip crc), h]

variable {F : TL → Bytes → Prop} (hF : ∀ t e, F t e → Decodes obj e (some t))
include hF

theorem field_decodes {r : Read} {v : Value} {e : Bytes} (h : Field F r v e) :
    Decodes (run obj r) e v := by
  cases h with
  | long h => exact (long_roundTrip _ h.1 h.2).decodes.map _
  | @double x h =>
    have := (fixed_roundTrip .decodeDouble id 0 x (length_leBytes 8 x)).decodes.map Value.double
    rwa [id, Nat.mod_eq_of_lt (by simpa using h)] at this
  | int h => exact (int_roundTrip _ h.1 h.2).decodes.map _
  | uint v => exact (uint_roundTrip v).decodes.map _
  | bytes _ => exact (bytes_decodes _).map _
  | stringBytes h => exact (stringBytes_roundTrip _ h).decodes.map _
  | string h => exact (string_roundTrip (stringBytes_roundTrip _ h)).decodes.map _
  | bigInt h => exact (bigInt_roundTrip _ h).decodes.map _
  | vectorInt hn h =>
    exact (vectorOf_roundTrip _ hn fun x hx => int_roundTrip x (h x hx).1 (h x hx).2).decodes.map _
  | vectorLong hn h =>
    exact (vectorOf_roundTrip _ hn fun x hx => long_roundTrip x (h x hx).1 (h x hx).2).decodes.map _
  | vectorString hn h =>
    exact (vectorOf_roundTrip _ hn fun s hs =>
      string_roundTrip (stringBytes_roundTrip s (h s hs))).decodes.map _
  | bool b => exact (bool_roundTrip b).decodes.map _
  | vector hn h => exact (vectorOf_decodes _ hn fun x hx => hF _ _ (h x hx)).map _
  | object h => exact (hF _ _ h).map _

/-- **The generated decoder reads every well-formed field list**, threading the `flags`
word through the `Flagged` fields. -/
theorem fields_decodes {fs : List FieldType} {flags : ℤ} {vs : List Value} {e : Bytes}
    (h : Fields F fs flags vs e) : Decodes (fields obj fs flags) e vs := by
  induction h with
  | nil flags => intro pre r _; simp [fields]
  | read h _ ih => exact (field_decodes hF h).cons ih
  | flags hf _ ih =>
    intro pre r hl
    simp only [List.length_append, List.append_assoc] at hl ⊢
    simp [fields, total_eq_of_roundTrips (int_roundTrip _ hf.1 hf.2),
      ih (pre ++ _) r (by simpa only [List.length_append, List.append_assoc] using hl)]
  | flaggedSet hb h _ ih =>
    exact Decodes.cons (fun pre r hl => by simp [flagged, hb, field_decodes hF h pre r hl]) ih
  | flaggedUnset hb _ ih =>
    intro pre r hl
    simp [fields, flagged, hb, ih pre r hl]

/-- The items of a container, each an encoded item. -/
theorem containerItems_decodes :
    ∀ xs : List (MTMessage × Bytes), (∀ x ∈ xs, Item F x.1 x.2) → ∀ pre r : Bytes,
      (pre ++ (xs.map Prod.snd).flatten).length < 2 ^ 63 →
      containerItems obj xs.length (seek pre ((xs.map Prod.snd).flatten ++ r)) =
        .ok (some (xs.map Prod.fst), seek (pre ++ (xs.map Prod.snd).flatten) r)
  | [], _, pre, r, _ => by simp [containerItems]
  | ⟨msg, e⟩ :: xs, h, pre, r, hl => by
    have hi : Item F msg e := h _ (List.mem_cons_self _ xs)
    cases hi with
    | @mk msgId seqNo bytes t e hm hs hb ht =>
    simp only [List.map_cons, List.flatten_cons, List.length_append, encLong, encInt,
      length_leBytes] at hl
    simp only [List.map_cons, List.flatten_cons, List.length_cons, List.append_assoc]
    have hx := hF _ _ ht (pre ++ (encLong msgId ++ (encInt seqNo ++ encInt bytes)))
      ((xs.map Prod.snd).flatten ++ r)
      (by simp only [List.length_append, encLong, encInt, length_leBytes]; omega)
    have ih := containerItems_decodes xs (fun y hy => h y (List.mem_cons_of_mem _ hy))
      (pre ++ (encLong msgId ++ (encInt seqNo ++ (encInt bytes ++ e)))) r
      (by simp only [List.length_append, encLong, encInt, length_leBytes]; omega)
    simp only [List.append_assoc] at hx ih
    simp [containerItems, total_eq_of_roundTrips (long_roundTrip _ hm.1 hm.2),
      total_eq_of_roundTrips (int_roundTrip _ hs.1 hs.2),
      total_eq_of_roundTrips (int_roundTrip _ hb.1 hb.2), hx, ih]

/-- **One node of a frame**, given that the nested reader decodes its nested frames. -/
theorem objectBody_decodes {t : TL} {e : Bytes} (h : Node gunzip schema F t e) :
    Decodes (objectBody gunzip schema obj) e (some t) := by
  intro pre r hl
  cases h with
  | @msgContainer xs hn h =>
    simp only [List.append_assoc] at hl ⊢
    apply objectBody_of_branch
    have hc := containerItems_decodes hF xs h
      (pre ++ (encUInt crcMsgContainer ++ encInt xs.length)) r
      (by simpa only [List.length_append, List.append_assoc] using hl)
    simp only [List.append_assoc] at hc
    simp [msgContainer, total_eq_of_roundTrips
      (int_roundTrip xs.length (by omega) (by exact_mod_cast hn)), hc]
  | @rpcResult reqMsgId t e hr h =>
    simp only [List.append_assoc] at hl ⊢
    apply objectBody_of_branch
    have ho := hF _ _ h (pre ++ (encUInt crcRpcResult ++ encLong reqMsgId)) r
      (by simpa only [List.length_append, List.append_assoc] using hl)
    simp only [List.append_assoc] at ho
    simp [crc_ne, rpcResult, total_eq_of_roundTrips (long_roundTrip _ hr.1 hr.2), ho]
  | @gzipPacked t e p rest hp hz he h =>
    simp only [List.append_assoc]
    apply objectBody_of_branch
    have ho := hF _ _ h [] rest (by simpa using he)
    simp [crc_ne, gzipPacked, total_eq_of_roundTrips (stringBytes_roundTrip _ hp), hz,
      newDecodeBuf_eq_seek, ho]
  | @generated crc c vs e hs hc h =>
    simp only [List.append_assoc]
    apply objectBody_of_branch
    have hv := fields_decodes hF h (pre ++ encUInt crc) r
      (by simpa only [List.length_append, List.append_assoc] using hl)
    simp only [List.append_assoc] at hv
    simp [hc.1, hc.2.1, hc.2.2, objectGenerated, hs, hv]

end Branches

/-! ### Frames -/

/-- **`Object` decodes every frame.** For every gzip library and schema, at every budget not
below its nesting depth, `Object` reads a frame at any offset below `2^63` and before any
suffix: it returns the frame's tree, leaves `err` nil, does not panic, and stops right
after the frame. -/
theorem object_decodes_frame (gunzip : Bytes → Option Bytes) (schema : Schema) :
    ∀ (n : ℕ) (t : TL) (e : Bytes), Frame gunzip schema n t e →
      ∀ fuel, n ≤ fuel → Decodes (object gunzip schema fuel) e (some t)
  | 0, _, _, h => (h : False).elim
  | n + 1, _, _, h => fun fuel hn => by
    obtain ⟨fuel, rfl⟩ : ∃ f, fuel = f + 1 := ⟨fuel - 1, by omega⟩
    exact objectBody_decodes
      (fun t e h => object_decodes_frame gunzip schema n t e h fuel (by omega)) h

/-- `dcOption` of layer 75 as its generated `case` reads it: a `flags` word, `id:int`,
`ip_address:string` and `port:int`, with `ipv6` bit 0 of the flags. -/
def dcOptionCtor : Ctor where
  fields := [.flags, .read .int, .read .string, .read .int]
  build
    | [.int flags, .int id, .string ipAddress, .int port] =>
      .dcOption (flags.testBit 0) id ipAddress port
    | vs => .obj 0x18b7a10d vs

/-- A schema with the one constructor `dcOption`. -/
def dcOptionSchema (crc : UInt32) : Option Ctor :=
  if crc = 0x18b7a10d then some dcOptionCtor else none

/-- An `rpc_result` whose payload is an IPv6 `dcOption`, decoded at a budget of two. -/
theorem object_decodes_frame_rpcResult :
    Frame (fun _ => none) dcOptionSchema 2 (.rpcResult 7 (some (.dcOption true 2 [49, 46, 50] 443)))
        (encUInt crcRpcResult ++ encLong 7 ++ (encUInt 0x18b7a10d ++
          (encInt 1 ++ (encInt 2 ++ (encStringBytes [49, 46, 50] ++ (encInt 443 ++ [])))))) ∧
      2 ≤ 2 ∧
      Decodes (object (fun _ => none) dcOptionSchema 2)
        (encUInt crcRpcResult ++ encLong 7 ++ (encUInt 0x18b7a10d ++
          (encInt 1 ++ (encInt 2 ++ (encStringBytes [49, 46, 50] ++ (encInt 443 ++ []))))))
        (some (.rpcResult 7 (some (.dcOption true 2 [49, 46, 50] 443)))) :=
  have hf : Fields (Frame (fun _ => none) dcOptionSchema 0) dcOptionCtor.fields 0
      [.int 1, .int 2, .string [49, 46, 50], .int 443]
      (encInt 1 ++ (encInt 2 ++ (encStringBytes [49, 46, 50] ++ (encInt 443 ++ [])))) :=
    .flags (by norm_num) (.read (.int (by norm_num))
      (.read (.string (by decide)) (.read (.int (by norm_num)) (.nil 1))))
  have hd : Frame (fun _ => none) dcOptionSchema 1 (.dcOption true 2 [49, 46, 50] 443)
      (encUInt 0x18b7a10d ++
        (encInt 1 ++ (encInt 2 ++ (encStringBytes [49, 46, 50] ++ (encInt 443 ++ []))))) :=
    Node.generated (c := dcOptionCtor) rfl (by decide) hf
  have h : Frame (fun _ => none) dcOptionSchema 2
      (.rpcResult 7 (some (.dcOption true 2 [49, 46, 50] 443)))
      (encUInt crcRpcResult ++ encLong 7 ++ (encUInt 0x18b7a10d ++
        (encInt 1 ++ (encInt 2 ++ (encStringBytes [49, 46, 50] ++ (encInt 443 ++ [])))))) :=
    Node.rpcResult (by norm_num) hd
  ⟨h, le_rfl, object_decodes_frame _ _ 2 _ _ h 2 le_rfl⟩

end DecodeBuf

end TgClient
