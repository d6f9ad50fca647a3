import Mathlib.Data.List.Basic
import TgClient.Decode.Object

/-!
# Sticky Errors

Every read of `DecodeBuf` is `Reader.Lawful`: once `err` is set it is a no-op returning
its zero value, and after every read that returns, `0 ≤ off ≤ size = len(buf)`. The
composite reads inherit the law from the reads they call; `Object` has it at every fuel
budget, by induction on the budget: `objectBody` is lawful when its nested reader is, and
the reader of a spent budget is.

A program runs a finite sequence of reads, each plain or `Flagged`, and looks at `err`
once at the end (`SessFileStore.Load`). `runCalls` runs such a sequence and records the
buffer after each read.

## Main results

* `object_lawful`: `Object` is lawful at every budget, for every gzip library and schema.
* `run_lawful`, `Call.run_lawful`: so is every read, plain or `Flagged`.
* `runCalls_of_err`: from a buffer whose `err` is set, every sequence of reads returns the
  zero values and leaves the buffer as it is.
* `runCalls_sticky`: the law over sequences — the buffer is well formed after every read,
  a set `err` never changes and every later read returns its zero value without moving
  `off`, and the final `err` is `nil` exactly when no read in the sequence set it.
-/

namespace TgClient

namespace DecodeBuf

variable {α β : Type}

/-- The buffer a read returns with `.ok` directly. -/
theorem wf_of_ok {a b : α} {m m' : DecodeBuf}
    (h : (Except.ok (a, m) : Except Fault (α × DecodeBuf)) = .ok (b, m')) (hm : m.Wf) :
    m'.Wf := by
  simp only [Except.ok.injEq, Prod.mk.injEq] at h
  exact h.2 ▸ hm

theorem mapReader_lawful {f : α → β} {rd : Reader α} {zero : α} (h : Reader.Lawful rd zero) :
    Reader.Lawful (mapReader f rd) (f zero) where
  sticky m hm := by simp [mapReader, h.sticky m hm, Except.map]
  wf m a m' hm e := by
    unfold mapReader at e
    cases hr : rd m with
    | error _ => simp [hr, Except.map] at e
    | ok r =>
      simp only [hr, Except.map, Except.ok.injEq, Prod.mk.injEq] at e
      exact e.2 ▸ h.wf m r.1 r.2 hm hr

theorem long_lawful : Reader.Lawful (total long) 0 := fixed_lawful _ _ _ _
theorem double_lawful : Reader.Lawful (total double) 0 := fixed_lawful _ _ _ _
theorem int_lawful : Reader.Lawful (total int) 0 := fixed_lawful _ _ _ _
theorem uint_lawful : Reader.Lawful (total uint) 0 := fixed_lawful _ _ _ _

theorem uint_of_err {m : DecodeBuf} (h : m.err.isSome) : m.uint = (0, m) := fixed_of_err h

theorem total_wf {f : DecodeBuf → α × DecodeBuf} {zero : α} (h : Reader.Lawful (total f) zero)
    {m : DecodeBuf} (hm : m.Wf) : (f m).2.Wf :=
  h.wf m (f m).1 (f m).2 hm rfl

theorem long_wf {m : DecodeBuf} (hm : m.Wf) : m.long.2.Wf := total_wf long_lawful hm
theorem int_wf {m : DecodeBuf} (hm : m.Wf) : m.int.2.Wf := total_wf int_lawful hm
theorem uint_wf {m : DecodeBuf} (hm : m.Wf) : m.uint.2.Wf := total_wf uint_lawful hm

/-! ### Vectors and `Bool` -/

theorem vectorItems_wf {elem : Reader α} (he : elem.KeepsWf) :
    ∀ n m r m', DecodeBuf.Wf m → vectorItems elem n m = .ok (r, m') → m'.Wf
  | 0, m, r, m', hm, h => wf_of_ok h hm
  | n + 1, m, r, m', hm, h => by
    obtain ⟨⟨y, m₁⟩, h₁, h⟩ := bind_eq_ok.mp h
    have hm₁ := he _ _ _ hm h₁
    dsimp only at h
    split_ifs at h
    · exact wf_of_ok h hm₁
    · obtain ⟨⟨ys, m₂⟩, h₂, h⟩ := bind_eq_ok.mp h
      exact wf_of_ok h (vectorItems_wf he n m₁ ys m₂ hm₁ h₂)

theorem vectorOf_lawful {fn : String} {elem : Reader α} (he : elem.KeepsWf) :
    Reader.Lawful (vectorOf fn elem) [] where
  sticky m hm := by simp [vectorOf, uint_of_err hm, hm]
  wf m a m' hm h := by
    have hu := uint_wf hm
    unfold vectorOf at h
    rcases hc : m.uint with ⟨c, m₁⟩
    rw [hc] at h hu
    have hi := int_wf hu
    dsimp only at h hu
    rcases hs : m₁.int with ⟨size, m₂⟩
    rw [hs] at h hi
    dsimp only at h hi
    split_ifs at h
    · exact wf_of_ok h hu
    · exact wf_of_ok h (wf_fail hu _)
    · exact wf_of_ok h hi
    · exact wf_of_ok h (wf_fail hi _)
    · obtain ⟨⟨x, m₃⟩, h₃, h⟩ := bind_eq_ok.mp h
      exact wf_of_ok h (vectorItems_wf he _ _ _ _ hi h₃)

theorem bool_lawful : Reader.Lawful (total bool) false :=
  total_lawful (fun m h => by simp [bool, uint_of_err h, h]) fun m h => by
    have hu := uint_wf h
    unfold bool
    rcases hc : m.uint with ⟨c, m₁⟩
    rw [hc] at hu
    dsimp only at hu ⊢
    split_ifs <;> exact hu

/-! ### Every read -/

variable {obj : Reader (Option TL)}

theorem run_lawful (h : Reader.Lawful obj none) : ∀ r, Reader.Lawful (run obj r) r.zero
  | .long => mapReader_lawful long_lawful
  | .double => mapReader_lawful double_lawful
  | .int => mapReader_lawful int_lawful
  | .uint => mapReader_lawful uint_lawful
  | .bytes n => mapReader_lawful (bytes_lawful n)
  | .stringBytes => mapReader_lawful stringBytes_lawful
  | .string => mapReader_lawful string_lawful
  | .bigInt => mapReader_lawful bigInt_lawful
  | .vectorInt => mapReader_lawful (vectorOf_lawful int_lawful.wf)
  | .vectorLong => mapReader_lawful (vectorOf_lawful long_lawful.wf)
  | .vectorString => mapReader_lawful (vectorOf_lawful string_lawful.wf)
  | .bool => mapReader_lawful bool_lawful
  | .vector => mapReader_lawful (vectorOf_lawful h.wf)
  | .object => mapReader_lawful h

/-! ### The generated decoder -/

theorem fields_wf (h : Reader.Lawful obj none) :
    ∀ fs flags, (fields obj fs flags).KeepsWf
  | [], _, m, a, m', hm, e => wf_of_ok e hm
  | .read r :: fs, flags, m, a, m', hm, e => by
    obtain ⟨⟨v, m₁⟩, h₁, e⟩ := bind_eq_ok.mp e
    obtain ⟨⟨vs, m₂⟩, h₂, e⟩ := bind_eq_ok.mp e
    exact wf_of_ok e (fields_wf h fs flags _ _ _ ((run_lawful h r).wf _ _ _ hm h₁) h₂)
  | .flags :: fs, _, m, a, m', hm, e => by
    obtain ⟨⟨vs, m₂⟩, h₂, e⟩ := bind_eq_ok.mp e
    exact wf_of_ok e (fields_wf h fs _ _ _ _ (int_wf hm) h₂)
  | .flagged num r :: fs, flags, m, a, m', hm, e => by
    obtain ⟨⟨v, m₁⟩, h₁, e⟩ := bind_eq_ok.mp e
    obtain ⟨⟨vs, m₂⟩, h₂, e⟩ := bind_eq_ok.mp e
    have hm₁ := (flagged_lawful (run_lawful h r) flags num).wf _ _ _ hm h₁
    exact wf_of_ok e (fields_wf h fs flags _ _ _ hm₁ h₂)

theorem objectGenerated_wf (h : Reader.Lawful obj none) (schema : Schema) (c : UInt32) :
    (objectGenerated schema obj c).KeepsWf := by
  intro m a m' hm e
  unfold objectGenerated at e
  split at e
  · exact wf_of_ok e (wf_fail hm _)
  · obtain ⟨⟨vs, m₁⟩, h₁, e⟩ := bind_eq_ok.mp e
    exact wf_of_ok e (fields_wf h _ _ _ _ _ hm h₁)

/-! ### `Object` -/

theorem containerItems_wf (h : Reader.Lawful obj none) :
    ∀ n m r m', DecodeBuf.Wf m → containerItems obj n m = .ok (r, m') → m'.Wf
  | 0, m, r, m', hm, e => wf_of_ok e hm
  | n + 1, m, r, m', hm, e => by
    rw [containerItems] at e
    have h₀ := int_wf (int_wf (long_wf hm))
    rcases h₁ : m.long with ⟨msgId, m₁⟩
    rw [h₁] at e h₀
    dsimp only at e h₀
    rcases h₂ : m₁.int with ⟨seqNo, m₂⟩
    rw [h₂] at e h₀
    dsimp only at e h₀
    rcases h₃ : m₂.int with ⟨bytes, m₃⟩
    rw [h₃] at e h₀
    dsimp only at e h₀
    obtain ⟨⟨d, m₄⟩, h₄, e⟩ := bind_eq_ok.mp e
    have hm₄ := h.wf _ _ _ h₀ h₄
    dsimp only at e
    split_ifs at e
    · exact wf_of_ok e hm₄
    · obtain ⟨⟨rest, m₅⟩, h₅, e⟩ := bind_eq_ok.mp e
      exact wf_of_ok e (containerItems_wf h n _ _ _ hm₄ h₅)

theorem msgContainer_wf (h : Reader.Lawful obj none) : (msgContainer obj).KeepsWf := by
  intro m a m' hm e
  have h₀ := int_wf hm
  unfold msgContainer at e
  rcases h₁ : m.int with ⟨size, m₁⟩
  rw [h₁] at e h₀
  dsimp only at e h₀
  split_ifs at e
  obtain ⟨⟨arr, m₂⟩, h₂, e⟩ := bind_eq_ok.mp e
  exact wf_of_ok e (containerItems_wf h _ _ _ _ h₀ h₂)

theorem rpcResult_wf (h : Reader.Lawful obj none) : (rpcResult obj).KeepsWf := by
  intro m a m' hm e
  have h₀ := long_wf hm
  unfold rpcResult at e
  rcases h₁ : m.long with ⟨reqMsgId, m₁⟩
  rw [h₁] at e h₀
  dsimp only at e h₀
  obtain ⟨⟨o, m₂⟩, h₂, e⟩ := bind_eq_ok.mp e
  exact wf_of_ok e (h.wf _ _ _ h₀ h₂)

theorem gzipPacked_wf (gunzip : Bytes → Option Bytes) : (gzipPacked gunzip obj).KeepsWf := by
  intro m a m' hm e
  have h₀ := stringBytes_wf hm
  unfold gzipPacked at e
  rcases h₁ : m.stringBytes with ⟨payload, m₁⟩
  rw [h₁] at e h₀
  dsimp only at e h₀
  split at e
  · cases e
  · obtain ⟨⟨r, d⟩, -, e⟩ := bind_eq_ok.mp e
    exact wf_of_ok e h₀

theorem objectBody_lawful (gunzip : Bytes → Option Bytes) (schema : Schema)
    (h : Reader.Lawful obj none) : Reader.Lawful (objectBody gunzip schema obj) none where
  sticky m hm := by simp [objectBody, uint_of_err hm, hm]
  wf m a m' hm e := by
    have hu := uint_wf hm
    unfold objectBody at e
    rcases hc : m.uint with ⟨c, m₁⟩
    rw [hc] at e hu
    dsimp only at e hu
    by_cases herr : m₁.err.isSome
    · rw [if_pos herr] at e
      exact wf_of_ok e hu
    rw [if_neg herr] at e
    obtain ⟨⟨r, m₂⟩, h₂, e⟩ := bind_eq_ok.mp e
    have hm₂ : m₂.Wf := by
      split_ifs at h₂
      · exact msgContainer_wf h _ _ _ hu h₂
      · exact rpcResult_wf h _ _ _ hu h₂
      · exact gzipPacked_wf gunzip _ _ _ hu h₂
      · exact objectGenerated_wf h schema c _ _ _ hu h₂
    dsimp only at e
    split_ifs at e <;> exact wf_of_ok e hm₂

theorem outOfFuel_lawful : Reader.Lawful outOfFuel none where
  sticky m hm := by simp [outOfFuel, hm]
  wf m a m' hm e := by
    unfold outOfFuel at e
    split_ifs at e
    exact wf_of_ok e hm

/-- **`Object` keeps the discipline** at every budget, for every gzip library and every
schema of the generated decoder. -/
theorem object_lawful (gunzip : Bytes → Option Bytes) (schema : Schema) :
    ∀ fuel, Reader.Lawful (object gunzip schema fuel) none
  | 0 => objectBody_lawful gunzip schema outOfFuel_lawful
  | fuel + 1 => objectBody_lawful gunzip schema (object_lawful gunzip schema fuel)


/-! ### Sequences of reads -/

/-- A read as a program calls it: plain, or its `Flagged` variant with the caller's
`flags` word and bit number. -/
inductive Call where
  | plain (r : Read)
  | flagged (flags num : ℤ) (r : Read)

namespace Call

/-- The read a call makes. -/
def read : Call → Read
  | plain r => r
  | flagged _ _ r => r

/-- The call, its result as a `Value`; `obj` is the `Object` of the program. -/
def run (obj : Reader (Option TL)) : Call → Reader Value
  | plain r => DecodeBuf.run obj r
  | flagged flags num r => DecodeBuf.flagged flags num r.zero (DecodeBuf.run obj r)

theorem run_lawful {obj : Reader (Option TL)} (h : Reader.Lawful obj none) :
    ∀ c : Call, Reader.Lawful (c.run obj) c.read.zero
  | plain r => DecodeBuf.run_lawful h r
  | flagged flags num r => DecodeBuf.flagged_lawful (DecodeBuf.run_lawful h r) flags num

end Call

/-- Run a sequence of calls, recording each call with its value and the buffer after it. -/
def runCalls (obj : Reader (Option TL)) : List Call → DecodeBuf →
    Except Fault (List (Call × Value × DecodeBuf))
  | [], _ => .ok []
  | c :: cs, m => c.run obj m >>= fun (v, m) => (runCalls obj cs m).map ((c, v, m) :: ·)

theorem runCalls_cons_ok {obj : Reader (Option TL)} {c : Call} {cs : List Call} {m : DecodeBuf}
    {tr : List (Call × Value × DecodeBuf)} (e : runCalls obj (c :: cs) m = .ok tr) :
    ∃ v m₁ tr', c.run obj m = .ok (v, m₁) ∧ runCalls obj cs m₁ = .ok tr' ∧
      tr = (c, v, m₁) :: tr' := by
  obtain ⟨⟨v, m₁⟩, h₁, e⟩ := bind_eq_ok.mp e
  cases hr : runCalls obj cs m₁ with
  | error _ => simp [hr, Except.map] at e
  | ok tr' =>
    simp only [hr, Except.map, Except.ok.injEq] at e
    exact ⟨v, m₁, tr', h₁, hr, e.symm⟩

section Runs

variable {obj : Reader (Option TL)} (h : Reader.Lawful obj none)
include h

/-- From a buffer whose `err` is set, every sequence of reads returns its zero values and
leaves the buffer unchanged. -/
theorem runCalls_of_err {m : DecodeBuf} (hm : m.err.isSome) :
    ∀ cs, runCalls obj cs m = .ok (cs.map fun c => (c, c.read.zero, m))
  | [] => rfl
  | c :: cs => by
    simp [runCalls, (Call.run_lawful h c).sticky m hm, runCalls_of_err hm cs, Except.map]

theorem runCalls_wf : ∀ {cs m tr}, DecodeBuf.Wf m → runCalls obj cs m = .ok tr →
    ∀ q ∈ tr, q.2.2.Wf
  | [], _, _, _, e => by
    simp only [runCalls, Except.ok.injEq] at e
    simp [← e]
  | c :: cs, m, tr, hm, e => by
    obtain ⟨v, m₁, tr', h₁, e', rfl⟩ := runCalls_cons_ok e
    have hm₁ := (Call.run_lawful h c).wf _ _ _ hm h₁
    rintro q (_ | ⟨_, hq⟩)
    exacts [hm₁, runCalls_wf hm₁ e' q hq]

/-- After a read that leaves `err` set, every later read of the sequence returns its zero
value and the buffer that read left. -/
theorem runCalls_after_err : ∀ {cs m tr pre p post}, runCalls obj cs m = .ok tr →
    tr = pre ++ p :: post → p.2.2.err.isSome → ∀ q ∈ post, q.2 = (q.1.read.zero, p.2.2)
  | [], _, _, pre, _, _, e, ht, _ => by
    simp only [runCalls, Except.ok.injEq] at e
    subst e
    cases pre <;> simp at ht
  | c :: cs, m, tr, pre, p, post, e, ht, hp => by
    obtain ⟨v, m₁, tr', -, e', rfl⟩ := runCalls_cons_ok e
    cases pre with
    | nil =>
      simp only [List.nil_append, List.cons.injEq] at ht
      obtain ⟨rfl, rfl⟩ := ht
      rw [runCalls_of_err h hp cs, Except.ok.injEq] at e'
      subst e'
      simp
    | cons x pre =>
      simp only [List.cons_append, List.cons.injEq] at ht
      exact runCalls_after_err e' ht.2 hp

/-- The `err` of the last buffer is `nil` exactly when every read of the sequence left it
`nil`. -/
theorem runCalls_last_err {cs m tr} (e : runCalls obj cs m = .ok tr) :
    (∀ q ∈ tr.getLast?, q.2.2.err = none) ↔ ∀ q ∈ tr, q.2.2.err = none := by
  refine ⟨fun hl q hq => ?_, fun ha q hq => ha q (List.mem_of_getLast?_eq_some hq)⟩
  obtain ⟨pre, post, ht⟩ := List.append_of_mem hq
  rw [ht, List.getLast?_append_cons, List.getLast?_cons] at hl
  have hlast := hl _ rfl
  by_contra hne
  cases hp : post.getLast? with
  | none => simp [hp] at hlast; exact hne hlast
  | some q' =>
    have hq' := runCalls_after_err h e ht (Option.isSome_iff_ne_none.mpr hne) q'
      (List.mem_of_getLast?_eq_some hp)
    simp only [hp, Option.getD_some] at hlast
    rw [congrArg Prod.snd hq'] at hlast
    exact hne hlast

end Runs

/-- **Sticky errors.** For every gzip library, schema and budget, every byte buffer and
every finite sequence of reads (plain or `Flagged`, `Object` included): the buffer is well
formed, `0 ≤ off ≤ size = len(buf)`, after every read; from a buffer whose `err` is set,
every sequence of reads returns the zero values without panicking and leaves the buffer as
it is; once a read of the sequence leaves `err` set, every later read returns its zero value
and that same buffer; and the `err` checked once after the sequence is `nil` exactly when
no read of the sequence failed. -/
theorem runCalls_sticky (gunzip : Bytes → Option Bytes) (schema : Schema) (fuel : ℕ)
    (cs : List Call) (b : Bytes) (tr : List (Call × Value × DecodeBuf))
    (e : runCalls (object gunzip schema fuel) cs (newDecodeBuf b) = .ok tr) :
    (∀ q ∈ tr, q.2.2.Wf) ∧
    (∀ (m : DecodeBuf) (cs' : List Call), m.err.isSome →
      runCalls (object gunzip schema fuel) cs' m = .ok (cs'.map fun c => (c, c.read.zero, m))) ∧
    (∀ pre p post, tr = pre ++ p :: post → p.2.2.err.isSome →
      ∀ q ∈ post, q.2 = (q.1.read.zero, p.2.2)) ∧
    ((∀ q ∈ tr.getLast?, q.2.2.err = none) ↔ ∀ q ∈ tr, q.2.2.err = none) :=
  have h := object_lawful gunzip schema fuel
  ⟨runCalls_wf h (wf_newDecodeBuf b) e, fun _ cs' hm => runCalls_of_err h hm cs',
    fun _ _ _ ht hp => runCalls_after_err h e ht hp, runCalls_last_err h e⟩

/-- An `Int` that fits followed by a `Long` that does not: the trace the reads leave, and
the buffer after the failed read is still well formed. -/
theorem runCalls_int_then_short_long :
    runCalls (object (fun _ => none) (fun _ => none) 0) [.plain .int, .plain .long]
        (newDecodeBuf [5, 0, 0, 0]) =
      .ok [(.plain .int, .int 5, (newDecodeBuf [5, 0, 0, 0]).skip 4),
        (.plain .long, .long 0, ((newDecodeBuf [5, 0, 0, 0]).skip 4).fail .decodeLong)] ∧
    (((newDecodeBuf [5, 0, 0, 0]).skip 4).fail .decodeLong).Wf :=
  have e : runCalls (object (fun _ => none) (fun _ => none) 0) [.plain .int, .plain .long]
      (newDecodeBuf [5, 0, 0, 0]) =
      .ok [(.plain .int, .int 5, (newDecodeBuf [5, 0, 0, 0]).skip 4),
        (.plain .long, .long 0, ((newDecodeBuf [5, 0, 0, 0]).skip 4).fail .decodeLong)] := rfl
  ⟨e, (runCalls_sticky _ _ 0 _ _ _ e).1 _ (List.mem_cons_of_mem _ (List.mem_singleton_self _))⟩

end DecodeBuf

end TgClient
