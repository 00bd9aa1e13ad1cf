import TunServer.Base.Front

/-!
# Going through the front of a list

A loop goes through the first elements of a list with an iterator.  An element that passes stays, and
the iterator moves on; one that fails moves to the end, and the iterator stays where it is, on the
element behind it, or becomes the end of the list.

* `Visit`       an element as it was visited, whether it passed, and what it is after the visit;
* `Sweep`       what is left of the front: the elements behind the iterator, and how many they are;
* `Sweep.pass`, `Sweep.fail`   one turn;
* `Sweep.done`  nothing is left;
* `Partitioned` what a loop leaves that visited the front.
-/

namespace TunServer

section
variable {α : Type*}

structure Visit (α : Type*) where
  before : α
  passed : Bool
  after : α

/-- the elements that passed, as they are now -/
def kept (vs : List (Visit α)) : List α := (vs.filter Visit.passed).map Visit.after

/-- the elements that failed, as they are now -/
def moved (vs : List (Visit α)) : List α := (vs.filter fun v => !v.passed).map Visit.after

theorem kept_snoc (vs : List (Visit α)) (a b : α) : kept (vs ++ [⟨a, true, b⟩]) = kept vs ++ [b] := by
  unfold kept
  rw [List.filter_append, List.map_append]
  rfl

theorem kept_snoc_failed (vs : List (Visit α)) (a b : α) : kept (vs ++ [⟨a, false, b⟩]) = kept vs := by
  unfold kept
  rw [List.filter_append, List.map_append]
  exact List.append_nil _

theorem moved_snoc (vs : List (Visit α)) (a b : α) : moved (vs ++ [⟨a, true, b⟩]) = moved vs := by
  unfold moved
  rw [List.filter_append, List.map_append]
  exact List.append_nil _

theorem moved_snoc_failed (vs : List (Visit α)) (a b : α) :
    moved (vs ++ [⟨a, false, b⟩]) = moved vs ++ [b] := by
  unfold moved
  rw [List.filter_append, List.map_append]
  rfl

theorem kept_add_moved (vs : List (Visit α)) : (kept vs).length + (moved vs).length = vs.length := by
  unfold kept moved
  rw [List.length_map, List.length_map]
  exact (List.length_eq_length_filter_add Visit.passed).symm

/-- After the visits `vs` of a loop over the first `n` elements of `xs`: the list, the iterator, and the
number of the visits to come. -/
structure Sweep (xs : List α) (n : Nat) (vs : List (Visit α)) (list : List α)
    (iterator remaining : Nat) : Prop where
  visited : vs.map Visit.before = xs.take vs.length
  counted : vs.length + remaining = n
  parts : list = kept vs ++ (xs.take n).drop vs.length ++ (xs.drop n ++ moved vs)
  position : remaining ≠ 0 → iterator = (kept vs).length

variable {xs list : List α} {n iterator remaining : Nat} {vs : List (Visit α)} {a b : α}

theorem Sweep.start (xs : List α) (n : Nat) : Sweep xs n [] xs 0 n where
  visited := rfl
  counted := Nat.zero_add n
  parts := by
    show xs = [] ++ (xs.take n).drop 0 ++ (xs.drop n ++ [])
    rw [List.nil_append, List.drop_zero, List.append_nil, List.take_append_drop]
  position _ := rfl

/-- what is left of the front begins with the element whose turn it is -/
theorem Sweep.todo (h : Sweep xs n vs list iterator remaining) (hr : remaining ≠ 0)
    (hn : n ≤ xs.length) : ∃ c, xs[vs.length]? = some c ∧
      (xs.take n).drop vs.length = c :: (xs.take n).drop (vs.length + 1) := by
  have hrem := h.counted
  have hlt : vs.length < xs.length := by omega
  have hlt' : vs.length < (xs.take n).length := by
    rw [List.length_take]
    omega
  refine ⟨xs[vs.length], List.getElem?_eq_getElem hlt, ?_⟩
  rw [List.drop_eq_getElem_cons hlt', List.getElem_take]

/-- the iterator is on that element -/
theorem Sweep.get (h : Sweep xs n vs list iterator remaining) (hr : remaining ≠ 0)
    (hn : n ≤ xs.length) : list[iterator]? = xs[vs.length]? := by
  obtain ⟨c, hc, hd⟩ := h.todo hr hn
  rw [hc, h.parts, h.position hr, hd, List.append_assoc,
    List.getElem?_append_right (le_refl _), Nat.sub_self]
  rfl

/-- what the visits have become with one more -/
theorem Sweep.visited_snoc (h : Sweep xs n vs list iterator remaining) (hr : remaining ≠ 0)
    (hn : n ≤ xs.length) (ha : list[iterator]? = some a) (v : Visit α) (hv : v.before = a) :
    (vs ++ [v]).map Visit.before = xs.take (vs ++ [v]).length := by
  have hx : xs[vs.length]? = some a := (h.get hr hn).symm.trans ha
  rw [List.map_append, h.visited, List.length_append, List.length_singleton, List.take_add_one, hx,
    List.map_singleton, hv]
  rfl

/-- **An element that passes.** -/
theorem Sweep.pass (h : Sweep xs n vs list iterator remaining) (hr : remaining ≠ 0)
    (hn : n ≤ xs.length) (ha : list[iterator]? = some a) (b : α) :
    Sweep xs n (vs ++ [⟨a, true, b⟩]) (list.set iterator b) (iterator + 1) (remaining - 1) where
  visited := h.visited_snoc hr hn ha _ rfl
  counted := by
    have hrem := h.counted
    rw [List.length_append, List.length_singleton]
    omega
  parts := by
    obtain ⟨c, hc, hd⟩ := h.todo hr hn
    rw [kept_snoc, moved_snoc, List.length_append, List.length_singleton, h.position hr, h.parts, hd,
      List.append_assoc, List.set_append_right _ _ (le_refl _), Nat.sub_self]
    simp
  position _ := by
    rw [kept_snoc, List.length_append, List.length_singleton, h.position hr]

/-- an element that passes as it is -/
theorem Sweep.pass_same (h : Sweep xs n vs list iterator remaining) (hr : remaining ≠ 0)
    (hn : n ≤ xs.length) (ha : list[iterator]? = some a) :
    Sweep xs n (vs ++ [⟨a, true, a⟩]) list (iterator + 1) (remaining - 1) := by
  have hp := h.pass hr hn ha a
  obtain ⟨hlt, rfl⟩ := List.getElem?_eq_some_iff.mp ha
  rwa [List.set_getElem_self] at hp

/-- **An element that fails.** -/
theorem Sweep.fail (h : Sweep xs n vs list iterator remaining) (hr : remaining ≠ 0)
    (hn : n ≤ xs.length) (ha : list[iterator]? = some a) (b : α) :
    Sweep xs n (vs ++ [⟨a, false, b⟩]) (toEnd list iterator b)
      (if iterator + 1 < list.length then iterator else list.length) (remaining - 1) where
  visited := h.visited_snoc hr hn ha _ rfl
  counted := by
    have hrem := h.counted
    rw [List.length_append, List.length_singleton]
    omega
  parts := by
    obtain ⟨c, hc, hd⟩ := h.todo hr hn
    unfold toEnd
    rw [kept_snoc_failed, moved_snoc_failed, List.length_append, List.length_singleton,
      h.position hr, h.parts, hd, List.append_assoc, List.eraseIdx_append_of_length_le (le_refl _),
      Nat.sub_self]
    simp
  position hr' := by
    have hrem := h.counted
    obtain ⟨c, hc, hd⟩ := h.todo hr hn
    have hlen := congrArg List.length h.parts
    simp only [List.length_append, List.length_drop, List.length_take] at hlen
    rw [kept_snoc_failed, h.position hr, if_pos (by omega)]

/-- What a loop over the first `n` elements of `xs` leaves: it visited each of them once, in order, and
no other; those that passed are in front and those that failed at the end, each in its order. -/
structure Partitioned (xs : List α) (n : Nat) (vs : List (Visit α)) (list : List α) (count : Nat) :
    Prop where
  visited : vs.map Visit.before = xs.take n
  parts : list = kept vs ++ xs.drop n ++ moved vs
  counted : count = (kept vs).length

/-- **Nothing is left.** -/
theorem Sweep.done (h : Sweep xs n vs list iterator 0) (hn : n ≤ xs.length) {count : Nat}
    (hc : count + (moved vs).length = n) : Partitioned xs n vs list count where
  visited := by
    have hrem := h.counted
    rw [h.visited]
    congr 1
  parts := by
    have hrem := h.counted
    rw [h.parts, List.drop_eq_nil_of_le (by rw [List.length_take]; omega), List.append_nil,
      List.append_assoc]
  counted := by
    have hrem := h.counted
    have hadd := kept_add_moved vs
    omega

end

end TunServer
