import TunServer.Connection.Fetcher

/-!
# What is left in the response buffer

`reader` copies each chunk to the start of the buffer.  What stands there after a request is compared
with the body of the response.

* `cstring`     what is read as a text that a NUL ends;
* `Reassembled` the text in the buffer is the body, and nothing was written behind the allocation;
* `lastOver`, `grown`   what the copies leave at a place, and what the allocations leave there;
* `reassembled_iff`   the chunks and the memory with which a body is reassembled.
-/

set_option linter.unusedVariables false

namespace TunServer.Connection

/-- the bytes before the first NUL, if there is one -/
def cstring : List Byte → Option (List Byte)
  | [] => none
  | b :: bs => if b = 0 then some [] else (cstring bs).map (b :: ·)

def ResponseData.text (r : ResponseData) : Option (List Byte) := cstring (r.buf.read 0 r.size)

theorem cstring_read_iff (m : Mem Byte) (a n : Nat) {bs : List Byte} (h0 : 0 ∉ bs) :
    cstring (m.read a n) = some bs ↔ bs.length < n ∧ ∀ k ≤ bs.length, m (a + k) = bs.getD k 0 := by
  induction n generalizing a bs with
  | zero => exact ⟨fun h => (by cases h), fun h => absurd h.1 (Nat.not_lt_zero _)⟩
  | succ n ih =>
    show (if m a = 0 then some [] else (cstring (m.read (a + 1) n)).map (m a :: ·)) = some bs ↔ _
    cases bs with
    | nil =>
      constructor
      · intro h
        split_ifs at h with ha
        · refine ⟨Nat.succ_pos n, fun k hk => ?_⟩
          rw [Nat.le_zero.mp hk]
          exact ha
        · obtain ⟨bs, _, hb⟩ := Option.map_eq_some_iff.mp h
          cases hb
      · intro h
        exact if_pos (h.2 0 (le_refl 0))
    | cons b bs =>
      rw [List.mem_cons, not_or] at h0
      have hrest := ih (a + 1) h0.2
      constructor
      · intro h
        split_ifs at h with ha
        · cases h
        · obtain ⟨bs', hbs, hcons⟩ := Option.map_eq_some_iff.mp h
          obtain ⟨hb, rfl⟩ := List.cons.inj hcons
          obtain ⟨hlen, hall⟩ := hrest.mp hbs
          refine ⟨Nat.succ_lt_succ hlen, fun k hk => ?_⟩
          cases k with
          | zero => exact hb
          | succ k =>
            rw [← Nat.add_assoc, Nat.add_right_comm]
            exact hall k (Nat.le_of_succ_le_succ hk)
      · rintro ⟨hlen, hall⟩
        have hb : m a = b := hall 0 (Nat.zero_le _)
        have hbs : cstring (m.read (a + 1) n) = some bs := by
          refine hrest.mpr ⟨Nat.lt_of_succ_lt_succ hlen, fun k hk => ?_⟩
          rw [Nat.add_right_comm, Nat.add_assoc]
          exact hall (k + 1) (Nat.succ_le_succ hk)
        rw [if_neg (by rw [hb]; exact fun h => h0.1 h.symm), hbs, hb]
        rfl

/-! ## the copies and the allocations apart -/

/-- the body of a response that came in these chunks -/
def body (chunks : List Chunk) : List Byte := chunks.flatMap Chunk.bytes

/-- The text is the body once the last chunk is in, and no write went behind the allocation.  A program
that found no memory has ended. -/
def Reassembled (r : ResponseData) (chunks : List Chunk) : Prop :=
  Ends (· = .noMemory) (fun t => t.text = some (body chunks)) (receive { r with ind := 0 } chunks)

instance (r : ResponseData) (chunks : List Chunk) : Decidable (Reassembled r chunks) :=
  inferInstanceAs (Decidable (Ends _ _ _))

/-- the byte at `k` of the last chunk that has one -/
def lastOver : List Chunk → Nat → Option Byte
  | [], _ => none
  | c :: cs, k => (lastOver cs k).or c.bytes[k]?

/-- what the allocations leave in the memory: the calls with `memcpy` left out -/
def grown (r : ResponseData) (chunks : List Chunk) : Except Fault ResponseData := runM makeRoom r chunks

/-- the chunks up to the first reallocation are within the first allocation -/
def FitsFirst (r : ResponseData) (chunks : List Chunk) : Prop :=
  ∀ c ∈ chunks.takeWhile fun c => decide (c.bytes.length ≤ r.len), c.bytes.length ≤ r.size

instance (r : ResponseData) (chunks : List Chunk) : Decidable (FitsFirst r chunks) :=
  inferInstanceAs (Decidable (∀ c : Chunk, c ∈ List.takeWhile _ _ → c.bytes.length ≤ r.size))

/-- The buffer `t` is `g` with the bytes `w` in it. -/
structure Written (w : Nat → Option Byte) (t g : ResponseData) : Prop where
  size : t.size = g.size
  len : t.len = g.len
  start : t.ind = 0
  start' : g.ind = 0
  bytes : ∀ k, t.buf k = (w k).getD (g.buf k)
  inside : ∀ k, w k ≠ none → k < g.size ∧ k < g.len

theorem fitsFirst_cons {r : ResponseData} {c : Chunk} {cs : List Chunk} (h : c.bytes.length ≤ r.len) :
    FitsFirst r (c :: cs) ↔ c.bytes.length ≤ r.size ∧ FitsFirst r cs := by
  unfold FitsFirst
  rw [List.takeWhile_cons, if_pos (decide_eq_true h), List.forall_mem_cons]

theorem fitsFirst_grow {r : ResponseData} {c : Chunk} {cs : List Chunk} (h : r.len < c.bytes.length) :
    FitsFirst r (c :: cs) := by
  unfold FitsFirst
  rw [List.takeWhile_cons, if_neg (by rw [decide_eq_true_iff]; exact Nat.not_le.mpr h)]
  exact fun c' hc' => absurd hc' List.not_mem_nil

/-- behind a reallocation all is allocated -/
theorem fitsFirst_all {r : ResponseData} (h : r.size = r.len) (cs : List Chunk) : FitsFirst r cs := by
  intro c hc
  have hlen := List.mem_takeWhile_imp hc
  rw [h]
  exact of_decide_eq_true hlen

theorem makeRoom_fits {r : ResponseData} {c : Chunk} (h0 : r.ind = 0) (h : c.bytes.length ≤ r.len) :
    makeRoom r c = .ok r := by
  unfold makeRoom
  rw [h0]
  exact if_neg (Nat.not_lt.mpr h)

/-- a reallocation -/
theorem makeRoom_grows {r : ResponseData} {c : Chunk} (h0 : r.ind = 0) (h : r.len < c.bytes.length) :
    Ends (· = .noMemory) (fun r' => r'.size = r'.len ∧ r'.ind = 0 ∧ c.bytes.length ≤ r'.len)
      (makeRoom r c) := by
  unfold makeRoom
  rw [h0, Nat.sub_zero, if_pos h]
  cases c.fresh with
  | none => exact rfl
  | some fresh => exact ⟨rfl, rfl, Nat.le_add_left _ _⟩

theorem Written.makeRoom {w : Nat → Option Byte} {t g : ResponseData} (h : Written w t g) (c : Chunk) :
    EndsLike (Written w) (makeRoom t c) (makeRoom g c) := by
  unfold Connection.makeRoom
  rw [h.start, h.start', h.len, h.size]
  split_ifs with hc
  · cases c.fresh with
    | none => exact rfl
    | some fresh =>
      refine ⟨rfl, rfl, rfl, rfl, fun k => ?_, fun k hk => ?_⟩
      · show (if _ then t.buf k else fresh k) = (w k).getD (if _ then g.buf k else fresh k)
        cases hw : w k with
        | none =>
          have hk := h.bytes k
          rw [hw] at hk
          rw [hk]
          rfl
        | some b =>
          have hk := h.bytes k
          rw [hw] at hk
          have hin := h.inside k (by rw [hw]; exact Option.some_ne_none b)
          rw [if_pos (by omega), hk]
          rfl
      · have hin := h.inside k hk
        show k < g.len + c.bytes.length ∧ k < g.len + c.bytes.length
        omega
  · exact h

/-- one more chunk over the bytes that are there -/
theorem Written.copyIn {w : Nat → Option Byte} {t g : ResponseData} (h : Written w t g) {c : Chunk}
    (hlen : c.bytes.length ≤ g.len) (hsize : c.bytes.length ≤ g.size) :
    Written (fun k => c.bytes[k]?.or (w k)) { t with buf := t.buf.write 0 c.bytes } g := by
  refine ⟨h.size, h.len, h.start, h.start', fun k => ?_, fun k hk => ?_⟩
  · show t.buf.write 0 c.bytes k = _
    unfold Mem.write
    rw [if_pos (Nat.zero_le k), Nat.sub_zero, List.getD_eq_getElem?_getD, h.bytes k]
    cases c.bytes[k]? with
    | none => rfl
    | some b => rfl
  · by_cases hck : k < c.bytes.length
    · omega
    · have hnone : c.bytes[k]? = none := List.getElem?_eq_none (Nat.not_lt.mp hck)
      rw [hnone] at hk
      exact h.inside k hk

/-- **A request**: the buffer is what the allocations left with the bytes of the chunks in it. -/
theorem Written.receive {w : Nat → Option Byte} {t g : ResponseData} (h : Written w t g)
    {chunks : List Chunk} (hfits : FitsFirst t chunks) :
    EndsLike (Written fun k => (lastOver chunks k).or (w k)) (receive t chunks) (grown g chunks) := by
  induction chunks generalizing w t g with
  | nil => exact h
  | cons c cs ih =>
    have hlast : (fun k => (lastOver (c :: cs) k).or (w k)) =
        fun k => (lastOver cs k).or (c.bytes[k]?.or (w k)) := by
      funext k
      exact Option.or_assoc
    rw [hlast]
    have hroom := h.makeRoom c
    show EndsLike _ ((Connection.makeRoom t c >>= fun r => Connection.copyIn r c) >>=
      fun r => runM reader r cs) (Connection.makeRoom g c >>= fun r => runM Connection.makeRoom r cs)
    rw [bind_assoc]
    refine hroom.bind fun t' g' ht hg hw => ?_
    have hgo : c.bytes.length ≤ t'.len ∧ c.bytes.length ≤ t'.size ∧ FitsFirst t' cs := by
      rcases Nat.lt_or_ge t.len c.bytes.length with hc | hc
      · have hgrow := (makeRoom_grows h.start hc).ok ht
        exact ⟨hgrow.2.2, hgrow.1 ▸ hgrow.2.2, fitsFirst_all hgrow.1 cs⟩
      · rw [makeRoom_fits h.start hc] at ht
        cases ht
        exact ⟨hc, (fitsFirst_cons hc).mp hfits⟩
    obtain ⟨hlen, hsize, hrest⟩ := hgo
    have hcopy : Connection.copyIn t' c = .ok { t' with buf := t'.buf.write 0 c.bytes } := if_pos hsize
    rw [hcopy]
    exact ih (hw.copyIn (hw.len ▸ hlen) (hw.size ▸ hsize)) hrest

/-- a chunk that is longer than the first allocation -/
theorem receive_outside {t : ResponseData} (h0 : t.ind = 0) {chunks : List Chunk}
    (hfits : ¬ FitsFirst t chunks) : receive t chunks = .error .outside := by
  induction chunks generalizing t with
  | nil => exact absurd (fun c hc => absurd hc List.not_mem_nil) hfits
  | cons c cs ih =>
    rcases Nat.lt_or_ge t.len c.bytes.length with hc | hc
    · exact absurd (fitsFirst_grow hc) hfits
    · rw [fitsFirst_cons hc] at hfits
      show (Connection.makeRoom t c >>= fun r => copyIn r c) >>= (fun r => runM reader r cs) = _
      rw [makeRoom_fits h0 hc]
      show copyIn t c >>= (fun r => runM reader r cs) = _
      unfold copyIn
      split_ifs with hsize
      · exact ih h0 fun hrest => hfits ⟨hsize, hrest⟩
      · rfl

/-- no chunk is longer than all of them -/
theorem lastOver_body (chunks : List Chunk) {k : Nat} (h : (body chunks).length ≤ k) :
    lastOver chunks k = none := by
  induction chunks with
  | nil => rfl
  | cons c cs ih =>
    unfold body at h ih
    rw [List.flatMap_cons, List.length_append] at h
    unfold lastOver
    rw [ih (by omega), List.getElem?_eq_none (by omega)]
    rfl

/-- **When a body is reassembled**: the chunks up to the first reallocation are within the first
allocation, and each byte of the body is that of the last chunk that is so long, or stood in the memory
already, as did a NUL behind the body. -/
theorem reassembled_iff (r : ResponseData) (chunks : List Chunk) (h0 : 0 ∉ body chunks) :
    Reassembled r chunks ↔ FitsFirst r chunks ∧
      Ends (· = .noMemory)
        (fun g => (body chunks).length < g.size ∧ g.buf (body chunks).length = 0 ∧
          ∀ k < (body chunks).length, (lastOver chunks k).getD (g.buf k) = (body chunks).getD k 0)
        (grown { r with ind := 0 } chunks) := by
  by_cases hfits : FitsFirst r chunks
  · have hstart : Written (fun _ => none) { r with ind := 0 } { r with ind := 0 } :=
      ⟨rfl, rfl, rfl, rfl, fun k => rfl, fun k hk => absurd rfl hk⟩
    rw [and_iff_right hfits]
    refine (hstart.receive hfits).ends_iff fun t g hw => ?_
    unfold ResponseData.text
    rw [cstring_read_iff t.buf 0 t.size h0, hw.size]
    have hbyte : ∀ k, t.buf (0 + k) = (lastOver chunks k).getD (g.buf k) := by
      intro k
      rw [Nat.zero_add, hw.bytes k, Option.or_none]
    have hend : t.buf (0 + (body chunks).length) = g.buf (body chunks).length := by
      rw [hbyte, lastOver_body chunks (le_refl _)]
      rfl
    have hnul : (body chunks).getD (body chunks).length 0 = 0 := List.getD_eq_default _ _ (le_refl _)
    refine and_congr_right fun _ => ⟨fun h => ⟨?_, fun k hk => ?_⟩, fun h k hk => ?_⟩
    · rw [← hend, h _ (le_refl _), hnul]
    · rw [← hbyte k]
      exact h k (Nat.le_of_lt hk)
    · rcases Nat.lt_or_eq_of_le hk with hk | rfl
      · rw [hbyte k]
        exact h.2 k hk
      · rw [hend, hnul]
        exact h.1
  · have hout : receive { r with ind := 0 } chunks = .error .outside := receive_outside rfl hfits
    unfold Reassembled
    rw [hout]
    exact ⟨fun h => (by cases h), fun h => absurd h.1 hfits⟩

/-- One chunk in memory that is zero; and two chunks, whose third byte stands there from an earlier
response. -/
theorem reassembled_chunks :
    Reassembled (.new (fun _ => 0) 1000) [⟨[123, 125], none⟩] ∧
      Reassembled (.new (fun k => if k < 3 then 49 else 0) 1000) [⟨[49, 49], none⟩, ⟨[49], none⟩] :=
  ⟨(reassembled_iff _ _ (by decide)).mpr (by decide), (reassembled_iff _ _ (by decide)).mpr (by decide)⟩

/-- Of a body in two chunks the second stands over the first. -/
theorem not_reassembled :
    0 ∉ body [⟨[123, 32], none⟩, ⟨[125], none⟩] ∧
      ¬ Reassembled (.new (fun _ => 0) 1000) [⟨[123, 32], none⟩, ⟨[125], none⟩] := by
  decide

end TunServer.Connection
