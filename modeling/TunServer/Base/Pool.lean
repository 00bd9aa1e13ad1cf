import Mathlib.Data.List.Count

/-!
# Pools of threads

A pool is the list of the places that its threads have come to.

* `countP_goto`, `goto_get`, `begun_get`   one thread goes on, or is begun;
* `Guards`     whoever is at a place where a mutex is held is the one who owns it;
* `Guards.goto`, `Guards.free`, `Guards.leave`, `Guards.other`   it is kept, taken and given back.
-/

set_option linter.unusedVariables false

namespace TunServer

section
variable {α β : Type*} {pool : List α} {j k : Nat} {a b c : α}

/-- counting again behind one change -/
theorem countP_goto {p : α → Bool} (h : pool[k]? = some a) :
    (pool.set k b).countP p + (p a).toNat = pool.countP p + (p b).toNat := by
  obtain ⟨hk, rfl⟩ := List.getElem?_eq_some_iff.mp h
  have h1 := List.boole_getElem_le_countP (p := p) hk
  have h2 : ∀ c : Bool, c.toNat = if c then 1 else 0 := fun c => by cases c <;> rfl
  rw [List.countP_set hk, h2, h2]
  omega

/-- a thread is where it has gone, or where it was -/
theorem goto_get (h : (pool.set k b)[j]? = some c) : j = k ∧ c = b ∨ j ≠ k ∧ pool[j]? = some c := by
  rw [List.getElem?_set] at h
  split_ifs at h with hjk hlt
  · exact .inl ⟨hjk.symm, (Option.some.inj h).symm⟩
  · exact .inr ⟨fun e => hjk e.symm, h⟩

theorem begun_get (h : (pool ++ [b])[j]? = some c) : pool[j]? = some c ∨ j = pool.length ∧ c = b := by
  rw [List.getElem?_append] at h
  split_ifs at h with hlt
  · exact .inl h
  · have h1 : j - pool.length < 1 := (List.getElem?_eq_some_iff.mp h).1
    exact .inr ⟨by omega, List.mem_singleton.mp (List.mem_of_getElem? h)⟩

/-- the others are where they were -/
theorem mem_goto (hc : c ∈ pool) (hk : pool[k]? = some a) (hne : c ≠ a) : c ∈ pool.set k b := by
  obtain ⟨j, hj, rfl⟩ := List.mem_iff_getElem.mp hc
  have hjk : k ≠ j := fun e => by
    subst e
    exact hne (Option.some.inj ((List.getElem?_eq_getElem hj).symm.trans hk))
  exact List.mem_of_getElem? ((List.getElem?_set_ne hjk).trans (List.getElem?_eq_getElem hj))

/-- the last of several that count is the only one -/
theorem eq_of_countP_le_one {p : α → Bool} (h : pool.countP p ≤ 1) (hj : pool[j]? = some a)
    (hk : pool[k]? = some b) (ha : p a = true) (hb : p b = true) : j = k := by
  induction pool generalizing j k with
  | nil => cases hj
  | cons c pool ih =>
    rw [List.countP_cons] at h
    cases j with
    | zero =>
      cases k with
      | zero => rfl
      | succ k =>
        cases hj
        rw [if_pos ha] at h
        have h1 : 0 < pool.countP p := List.countP_pos_iff.mpr ⟨b, List.mem_of_getElem? hk, hb⟩
        omega
    | succ j =>
      cases k with
      | zero =>
        cases hk
        rw [if_pos hb] at h
        have h1 : 0 < pool.countP p := List.countP_pos_iff.mpr ⟨a, List.mem_of_getElem? hj, ha⟩
        omega
      | succ k => rw [ih (by omega) hj hk]

/-! ## mutexes -/

/-- `holding` tells the places where the mutex is held; thread `k` owns it as `owner k`. -/
def Guards (holding : α → Bool) (owner : Nat → β) (mtx : Option β) (pool : List α) : Prop :=
  ∀ (k : Nat) a, pool[k]? = some a → holding a = true → mtx = some (owner k)

variable {holding : α → Bool} {owner : Nat → β} {mtx mtx' : Option β}

theorem Guards.nil : Guards holding owner mtx ([] : List α) := fun k a h => by simp at h

theorem Guards.goto (h : Guards holding owner mtx pool)
    (hb : holding b = true → mtx = some (owner k)) : Guards holding owner mtx (pool.set k b) := by
  intro j c hj hc
  rcases goto_get hj with ⟨rfl, rfl⟩ | ⟨_, hj⟩
  · exact hb hc
  · exact h j c hj hc

theorem Guards.begun (h : Guards holding owner mtx pool) (hb : holding b = false) :
    Guards holding owner mtx (pool ++ [b]) := by
  intro j c hj hc
  rcases begun_get hj with hj | ⟨_, rfl⟩
  · exact h j c hj hc
  · rw [hb] at hc
    cases hc

/-- a mutex that nobody holds can be taken -/
theorem Guards.free (h : Guards holding owner none pool) : Guards holding owner mtx pool :=
  fun k a hk ha => by cases h k a hk ha

/-- The owner leaves the mutex, for anyone to take. -/
theorem Guards.leave (h : Guards holding owner (some (owner k)) pool)
    (hinj : Function.Injective owner) (hb : holding b = false) :
    Guards holding owner mtx (pool.set k b) := by
  intro j c hj hc
  rcases goto_get hj with ⟨_, rfl⟩ | ⟨hjk, hj⟩
  · rw [hb] at hc
    cases hc
  · exact absurd (hinj (Option.some.inj (h j c hj hc))).symm hjk

/-- What is held by someone else is held by none of the pool. -/
theorem Guards.other {o : β} (h : Guards holding owner (some o) pool) (ho : ∀ k, o ≠ owner k) :
    Guards holding owner mtx pool :=
  fun k a hk ha => absurd (Option.some.inj (h k a hk ha)) (ho k)

end

end TunServer
