import TunServer.Base.Word

/-!
# The receiving end of a numbered stream

The elements of a stream are numbered modulo `2^32`.  A receiver takes a segment by its number: it
drops what it has already, takes as much of the rest as there is room for, and leaves a segment alone
that begins behind its next number.  A segment that is left alone may come again.

* `serial_dist`       the signed difference of two numbers is the distance of the elements, if that
                      is below `2^31`;
* `Receiver.receive`  one segment;
* `Receiver.receive_sound`  slices of a stream at their numbers make a prefix of the stream, and the
                            receiver is at the end where a segment that ends the stream was taken.
-/

set_option linter.unusedVariables false

namespace TunServer

theorem serial_ahead (x : U32) (a k : Nat) :
    x + BitVec.ofNat 32 (a + k) - (x + BitVec.ofNat 32 a) = BitVec.ofNat 32 k := by
  have h := count_dist x (b32 false) a k
  rwa [add_b32_false, add_b32_false] at h

/-- numbers are compared by their signed difference -/
theorem serial_dist (x : U32) {a b : Nat} (h1 : a < b + 2 ^ 31) (h2 : b < a + 2 ^ 31) :
    (x + BitVec.ofNat 32 b - (x + BitVec.ofNat 32 a)).toInt = (b : Int) - a := by
  rcases Nat.le_total a b with hab | hab
  · obtain ⟨k, rfl⟩ := Nat.exists_eq_add_of_le hab
    rw [serial_ahead, BitVec.toInt_eq_toNat_of_lt (by rw [BitVec.toNat_ofNat]; omega), BitVec.toNat_ofNat]
    omega
  · obtain ⟨k, rfl⟩ := Nat.exists_eq_add_of_le hab
    have h4 : x + BitVec.ofNat 32 b - (x + BitVec.ofNat 32 (b + k)) = -BitVec.ofNat 32 k := by
      rw [← serial_ahead x b k, BitVec.neg_sub, BitVec.sub_eq_add_neg, BitVec.add_comm]
    rw [h4, BitVec.toInt_eq_toNat_cond, BitVec.toNat_neg, BitVec.toNat_ofNat]
    split_ifs <;> omega

variable {β : Type*}

structure Receiver (β : Type*) where
  /-- the number of the first element -/
  first : U32
  got : List β
  /-- the end of the stream was received -/
  ended : Bool
  deriving Repr

namespace Receiver

/-- the number that is expected next; the end of the stream takes one of its own -/
def next (r : Receiver β) : U32 := r.first + BitVec.ofNat 32 r.got.length + b32 r.ended

/-- a segment with the elements `bs` from the number `seq` on, which `fin` says to be the last ones -/
def receive (r : Receiver β) (room : Nat) (seq : U32) (bs : List β) (fin : Bool) : Receiver β :=
  let back := r.next - seq
  if r.ended ∨ back.toInt < 0 ∨ bs.length < back.toNat then r
  else
    let fresh := bs.drop back.toNat
    { r with got := r.got ++ fresh.take room, ended := fin ∧ fresh.length ≤ room }

section
variable {r : Receiver β} {room : Nat} {seq : U32} {bs : List β} {fin : Bool}

@[simp] theorem receive_first : (r.receive room seq bs fin).first = r.first := by
  unfold receive
  dsimp only
  split_ifs <;> rfl

/-- nothing is given back -/
theorem got_receive : r.got <+: (r.receive room seq bs fin).got := by
  unfold receive
  dsimp only
  split_ifs
  · exact List.prefix_refl _
  · exact List.prefix_append _ _

/-- an end that was received stays -/
theorem receive_ended (h : r.ended = true) : r.receive room seq bs fin = r := by
  unfold receive
  exact if_pos (.inl h)

/-- a segment without elements that does not end the stream changes nothing -/
theorem receive_bare : r.receive room seq [] false = r := by
  unfold receive
  dsimp only
  split_ifs with h
  · rfl
  · rw [not_or, Bool.not_eq_true] at h
    obtain ⟨first, got, ended⟩ := r
    have h1 : ended = false := h.1
    simp [h1]

/-- **A slice of the stream `T` at its number** extends what was got to a longer prefix of `T`, and
the end is received with the last element. -/
theorem receive_sound {T : List β} {a : Nat} (hgot : r.got <+: T)
    (hseq : seq = r.first + BitVec.ofNat 32 a) (hbs : Slice T a bs) (hold : r.got.length < a + 2 ^ 31)
    (hnew : a < r.got.length + 2 ^ 31) (hfin : fin = true → a + bs.length = T.length) :
    (r.receive room seq bs fin).got <+: T ∧
      ((r.receive room seq bs fin).ended = true → r.ended = true ∨
        fin = true ∧ (r.receive room seq bs fin).got = T) := by
  unfold receive
  dsimp only
  split_ifs with h
  · exact ⟨hgot, .inl⟩
  · rw [not_or, not_or, Bool.not_eq_true, not_lt, not_lt] at h
    obtain ⟨hended, hback, hlen⟩ := h
    have hdist : (r.next - seq).toInt = (r.got.length : Int) - a := by
      unfold next
      rw [hended, add_b32_false, hseq]
      exact serial_dist _ hnew hold
    have hle : a ≤ r.got.length := by omega
    have hnat : (r.next - seq).toNat = r.got.length - a := by
      rw [BitVec.toInt_eq_toNat_cond] at hdist hback
      split_ifs at hdist hback <;> omega
    rw [hnat] at hlen ⊢
    -- what is new of the segment stands behind what was got
    have hfresh : Slice T r.got.length (bs.drop (r.got.length - a)) := by
      have h1 := List.IsPrefix.drop hbs (r.got.length - a)
      rwa [List.drop_drop, Nat.add_sub_cancel' hle] at h1
    have htaken : Slice T r.got.length ((bs.drop (r.got.length - a)).take room) :=
      (List.take_prefix _ _).trans hfresh
    have hpre := prefix_append_of_slice hgot htaken
    refine ⟨hpre, fun he => .inr ?_⟩
    rw [decide_eq_true_eq] at he
    obtain ⟨hf, hroom⟩ := he
    refine ⟨hf, hpre.eq_of_length ?_⟩
    have h2 := hfin hf
    rw [List.length_append, List.length_take, List.length_drop] at *
    omega

end

end Receiver

end TunServer
