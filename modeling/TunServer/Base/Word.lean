import TunServer.Base.Run

/-!
# Machine words and byte streams

* `U8`, `U16`, `U32`   unsigned words; arithmetic wraps, `<` and `≤` compare the raw values;
* `b32`                a truth value used as a number;
* `Slice T a p`        the bytes `p` stand in the stream `T` from position `a` on.
-/

namespace TunServer

abbrev U8 := BitVec 8
abbrev U16 := BitVec 16
abbrev U32 := BitVec 32
abbrev Byte := BitVec 8

/-- a truth value as a number -/
def b32 (b : Bool) : U32 := if b then 1 else 0

@[simp] theorem b32_true : b32 true = 1 := rfl
@[simp] theorem b32_false : b32 false = 0 := rfl

theorem add_b32_false (a : U32) : a + b32 false = a := BitVec.add_zero a

theorem b32_le (b : Bool) : (b32 b).toNat ≤ 1 := by
  cases b <;> simp

/-- a shared shift cancels in a distance -/
@[simp] theorem shift_dist (a b k : U32) : a + k - (b + k) = a - b := by bv_omega

/-- a shift is moved out of a sum -/
theorem shift_add (a k b : U32) : a + k + b = a + b + k := add_right_comm a k b

theorem shift_add_add (a k b c : U32) : a + k + b + c = a + b + c + k := by
  rw [shift_add a k b, shift_add (a + b) k c]

/-- a shared shift cancels in a comparison -/
theorem shift_eq (a b k : U32) : (a + k = b + k) = (a = b) := propext (add_left_inj k)

theorem shift_eq_pred (a b k : U32) : (a + k = b + k - 1) = (a = b - 1) := by
  rw [show b + k - 1 = b - 1 + k by bv_omega, shift_eq]

theorem toNat_add_ofNat {a : U32} {k : Nat} (h : a.toNat + k < 2 ^ 32) :
    (a + BitVec.ofNat 32 k).toNat = a.toNat + k := by
  rw [BitVec.toNat_add, BitVec.toNat_ofNat]
  omega

theorem toNat_sub_ofNat {a : U32} {k : Nat} (h : k ≤ a.toNat) :
    (a - BitVec.ofNat 32 k).toNat = a.toNat - k := by
  have h1 := a.isLt
  rw [BitVec.toNat_sub, BitVec.toNat_ofNat]
  omega

/-- a mark moves up between two others -/
theorem sub_add_left (a b k : U32) : a + k - b = a - b + k := by bv_omega

theorem sub_add_right (a b k : U32) : a - (b + k) = a - b - k := by bv_omega

/-- the distance of two counters that started together -/
theorem count_dist (x c : U32) (a b : Nat) :
    x + BitVec.ofNat 32 (a + b) + c - (x + BitVec.ofNat 32 a) = BitVec.ofNat 32 b + c := by
  rw [BitVec.ofNat_add]
  generalize BitVec.ofNat 32 a = a'
  generalize BitVec.ofNat 32 b = b'
  bv_omega

section
variable {α : Type*}

/-- the bytes `p` stand in the stream `T` from position `a` on -/
def Slice (T : List α) (a : Nat) (p : List α) : Prop := p <+: T.drop a

instance [DecidableEq α] (T : List α) (a : Nat) (p : List α) : Decidable (Slice T a p) :=
  inferInstanceAs (Decidable (p <+: T.drop a))

theorem Slice.length_le {T : List α} {a : Nat} {p : List α} (h : Slice T a p) (ha : a ≤ T.length) :
    a + p.length ≤ T.length := by
  have h1 := List.IsPrefix.length_le h
  rw [List.length_drop] at h1
  omega

/-- a slice of a stream stays one when the stream grows -/
theorem Slice.mono {T T' : List α} {a : Nat} {p : List α} (h : Slice T a p) (hT : T <+: T') :
    Slice T' a p := by
  obtain ⟨r, rfl⟩ := hT
  unfold Slice at h ⊢
  rw [List.drop_append]
  exact h.trans (List.prefix_append _ _)

/-- a part of the rest of a stream is a slice of the stream -/
theorem slice_of_drop {T : List α} {a i n : Nat} : Slice T (a + i) (((T.drop a).drop i).take n) := by
  unfold Slice
  rw [List.drop_drop]
  exact List.take_prefix _ _

/-- equal positions carry equal bytes -/
theorem Slice.get {T : List α} {a : Nat} {p : List α} (h : Slice T a p) {i : Nat}
    (hi : i < p.length) : T[a + i]? = p[i]? := by
  obtain ⟨r, hr⟩ := h
  have h1 : (T.drop a)[i]? = p[i]? := by
    rw [← hr, List.getElem?_append_left hi]
  rwa [List.getElem?_drop] at h1

/-- what is received next extends what was received: the rest of the stream is consumed in order -/
theorem prefix_append_of_slice {T a p : List α} (ha : a <+: T) (hp : Slice T a.length p) :
    a ++ p <+: T := by
  obtain ⟨r, rfl⟩ := ha
  unfold Slice at hp
  rw [List.drop_left] at hp
  exact (List.prefix_append_right_inj a).mpr hp

end

end TunServer
