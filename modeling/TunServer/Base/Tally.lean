import Mathlib

/-!
# Counting down a finite set

A counter starts at the size of a finite set, and each time it goes down an element of the set is
entered in a list.

* `Tally R n l`       the counter stands at `n`, the elements of `l` were entered, none twice;
* `Tally.zero_iff`    the counter is at zero exactly when every element was entered.
-/

namespace TunServer

section
variable {α : Type*} {R : Finset α} {n : Int} {l : List α} {a : α}

structure Tally (R : Finset α) (n : Int) (l : List α) : Prop where
  total : n + l.length = R.card
  nodup : l.Nodup
  sound : ∀ a ∈ l, a ∈ R

theorem Tally.start (R : Finset α) : Tally R R.card [] :=
  ⟨by simp, List.nodup_nil, fun a ha => absurd ha (List.not_mem_nil)⟩

/-- one more element is entered -/
theorem Tally.enter (h : Tally R n l) (ha : a ∈ R) (hnew : a ∉ l) : Tally R (n - 1) (l ++ [a]) := by
  obtain ⟨htotal, hnodup, hsound⟩ := h
  refine ⟨?_, ?_, fun b hb => ?_⟩
  · rw [List.length_append, List.length_singleton]
    push_cast
    omega
  · rw [List.nodup_append_comm, List.singleton_append, List.nodup_cons]
    exact ⟨hnew, hnodup⟩
  · rcases List.mem_append.mp hb with hb | hb
    · exact hsound b hb
    · rw [List.mem_singleton.mp hb]
      exact ha

/-- several elements, one after the other -/
theorem Tally.enterAll {as : List α} (h : Tally R n l) (hnodup : as.Nodup) (has : ∀ a ∈ as, a ∈ R ∧ a ∉ l) :
    Tally R (n - as.length) (l ++ as) := by
  induction as generalizing n l with
  | nil => simpa using h
  | cons a as ih =>
    obtain ⟨hnew, hrest⟩ := List.nodup_cons.mp hnodup
    obtain ⟨ha, hal⟩ := has a List.mem_cons_self
    have h1 := ih (h.enter ha hal) hrest fun b hb => by
      obtain ⟨hR, hbl⟩ := has b (List.mem_cons_of_mem _ hb)
      refine ⟨hR, fun hmem => ?_⟩
      rcases List.mem_append.mp hmem with hmem | hmem
      · exact hbl hmem
      · rw [List.mem_singleton.mp hmem] at hb
        exact hnew hb
    rw [List.append_assoc, List.singleton_append] at h1
    have he : n - ((a :: as).length : Int) = n - 1 - as.length := by
      rw [List.length_cons]
      push_cast
      omega
    rw [he]
    exact h1

theorem Tally.nonneg (h : Tally R n l) : 0 ≤ n := by
  classical
  have hle : l.toFinset.card ≤ R.card :=
    Finset.card_le_card fun a ha => h.sound a (List.mem_toFinset.mp ha)
  rw [List.toFinset_card_of_nodup h.nodup] at hle
  have htotal := h.total
  omega

/-- **The counter is at zero exactly when every element was entered.** -/
theorem Tally.zero_iff (h : Tally R n l) : n ≤ 0 ↔ ∀ a ∈ R, a ∈ l := by
  classical
  have hsub : l.toFinset ⊆ R := fun a ha => h.sound a (List.mem_toFinset.mp ha)
  have hcard := List.toFinset_card_of_nodup h.nodup
  have htotal := h.total
  refine ⟨fun hn a ha => ?_, fun hall => ?_⟩
  · have heq : l.toFinset = R := Finset.eq_of_subset_of_card_le hsub (by omega)
    rw [← heq] at ha
    exact List.mem_toFinset.mp ha
  · have heq : l.toFinset = R := hsub.antisymm fun a ha => List.mem_toFinset.mpr (hall a ha)
    rw [heq] at hcard
    omega

end

end TunServer
