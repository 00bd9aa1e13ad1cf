import TunServer.Base.Run

/-!
# Flat memory blocks

A block is a function from offsets to cells, of which the first `size` exist.

* `Mem.read`, `Mem.write`   a range of cells as a list;
* `InRange`                 a range, as pointer arithmetic gives it, lies within the block;
* `read_write_end`          writing behind a range appends to it;
* `read_write_away`         writing elsewhere leaves it alone.
-/

namespace TunServer

abbrev Mem (α : Type*) := Nat → α

section
variable {α : Type*}

def Mem.read (m : Mem α) : Nat → Nat → List α
  | _, 0 => []
  | a, n + 1 => m a :: Mem.read m (a + 1) n

def Mem.write (m : Mem α) (a : Nat) (bs : List α) : Mem α :=
  fun j => if a ≤ j then bs.getD (j - a) (m j) else m j

/-- an empty range is accessed nowhere -/
def InRange (off count : Int) (size : Nat) : Prop :=
  count = 0 ∨ 0 ≤ off ∧ 0 ≤ count ∧ off + count ≤ size

instance (off count : Int) (size : Nat) : Decidable (InRange off count size) :=
  inferInstanceAs (Decidable (_ ∨ _))

theorem Mem.write_nil (m : Mem α) (a : Nat) : m.write a [] = m := by
  funext j
  unfold Mem.write
  split_ifs
  · exact List.getD_nil
  · rfl

theorem Mem.read_length (m : Mem α) (a n : Nat) : (m.read a n).length = n := by
  induction n generalizing a with
  | zero => rfl
  | succ n ih => exact congrArg (· + 1) (ih (a + 1))

/-- a cell of a range that was read -/
theorem Mem.of_read {m : Mem α} {a n k : Nat} {l : List α} (h : m.read a n = l) (hk : k < n) (d : α) :
    m (a + k) = l.getD k d := by
  induction n generalizing a k l with
  | zero => exact absurd hk (Nat.not_lt_zero k)
  | succ n ih =>
    subst h
    cases k with
    | zero => rfl
    | succ k =>
      rw [Nat.add_comm k 1, ← Nat.add_assoc, Nat.add_comm 1 k]
      exact ih rfl (Nat.lt_of_succ_lt_succ hk)

theorem Mem.read_add (m : Mem α) (a n k : Nat) : m.read a (n + k) = m.read a n ++ m.read (a + n) k := by
  induction n generalizing a with
  | zero => simp [Mem.read]
  | succ n ih =>
    rw [Nat.add_right_comm]
    show m a :: m.read (a + 1) (n + k) = m a :: (m.read (a + 1) n ++ m.read (a + (n + 1)) k)
    rw [ih, Nat.add_assoc a 1 n, Nat.add_comm 1 n]

theorem Mem.read_congr {m m' : Mem α} {a a' n : Nat} (h : ∀ j < n, m (a + j) = m' (a' + j)) :
    m.read a n = m'.read a' n := by
  induction n generalizing a a' with
  | zero => rfl
  | succ n ih =>
    have h0 : m a = m' a' := h 0 (by omega)
    have h1 : m.read (a + 1) n = m'.read (a' + 1) n := by
      refine ih fun j hj => ?_
      rw [Nat.add_assoc, Nat.add_assoc, Nat.add_comm 1 j]
      exact h (j + 1) (by omega)
    show m a :: m.read (a + 1) n = m' a' :: m'.read (a' + 1) n
    rw [h0, h1]

/-- a range that is not written keeps its cells -/
theorem Mem.read_write_away (m : Mem α) {a b n : Nat} {bs : List α}
    (h : a + n ≤ b ∨ b + bs.length ≤ a) : (m.write b bs).read a n = m.read a n := by
  refine Mem.read_congr fun j hj => ?_
  unfold Mem.write
  split_ifs with hb
  · rw [List.getD_eq_default _ _ (by omega)]
  · rfl

theorem Mem.read_write_same (m : Mem α) (a : Nat) (bs : List α) :
    (m.write a bs).read a bs.length = bs := by
  induction bs generalizing m a with
  | nil => rfl
  | cons b bs ih =>
    have h0 : m.write a (b :: bs) a = b := by
      unfold Mem.write
      rw [if_pos (le_refl a), Nat.sub_self, List.getD_cons_zero]
    have h1 : (m.write a (b :: bs)).read (a + 1) bs.length =
        (m.write (a + 1) bs).read (a + 1) bs.length := by
      refine Mem.read_congr fun j hj => ?_
      unfold Mem.write
      rw [if_pos (by omega), if_pos (by omega), show a + 1 + j - a = j + 1 by omega,
        show a + 1 + j - (a + 1) = j by omega, List.getD_cons_succ]
    show m.write a (b :: bs) a :: (m.write a (b :: bs)).read (a + 1) bs.length = b :: bs
    rw [h0, h1, ih]

/-- writing behind a range appends to it -/
theorem Mem.read_write_end (m : Mem α) (a n : Nat) (bs : List α) :
    (m.write (a + n) bs).read a (n + bs.length) = m.read a n ++ bs := by
  rw [Mem.read_add, Mem.read_write_same, Mem.read_write_away m (Or.inl (le_refl _))]

end

end TunServer
