import Mathlib

/-!
# Lists with a counted front

A list is kept together with a number: that many elements at its front are in use.  An element that
is not used any more moves to the end.

* `toEnd xs k x`   the element at `k` moves to the end, where it is `x`;
* `Within P n xs`  an element that meets `P` stands among the first `n`;
* `Fills P n xs`   the first `n` elements are there, and meet `P`.

Both are kept when an element in front moves to the end, an element is changed in place, or one is
appended behind the front.  Two lists that are related place by place stay so when both are changed at
the same place (`forall₂_set`, `forall₂_toEnd`).
-/

namespace TunServer

section
variable {α : Type*} {P : α → Prop} {xs : List α} {n k : Nat} {x y : α}

/-- the element at `k` moves to the end, where it is `x` -/
def toEnd (xs : List α) (k : Nat) (x : α) : List α := xs.eraseIdx k ++ [x]

theorem length_toEnd (hk : k < xs.length) : (toEnd xs k x).length = xs.length := by
  unfold toEnd
  rw [List.length_append, List.length_eraseIdx_of_lt hk, List.length_singleton]
  omega

theorem mem_toEnd (h : y ∈ toEnd xs k x) : y ∈ xs ∨ y = x := by
  rcases List.mem_append.mp h with h | h
  · exact .inl (List.mem_of_mem_eraseIdx h)
  · exact .inr (List.mem_singleton.mp h)

theorem toEnd_perm (hx : xs[k]? = some x) : (toEnd xs k x).Perm xs := by
  obtain ⟨hlt, rfl⟩ := List.getElem?_eq_some_iff.mp hx
  exact List.perm_append_comm.trans (List.getElem_cons_eraseIdx_perm hlt)

/-- an element that moves is replaced -/
theorem toEnd_set (xs : List α) (k : Nat) (y x : α) : toEnd (xs.set k y) k x = toEnd xs k x := by
  unfold toEnd
  rw [List.eraseIdx_set_eq]

/-- where the elements come from -/
theorem get_toEnd (hk : k < xs.length) {j : Nat} (h : (toEnd xs k x)[j]? = some y) :
    j < k ∧ xs[j]? = some y ∨ k ≤ j ∧ xs[j + 1]? = some y ∨ j + 1 = xs.length ∧ y = x := by
  have hlen := List.length_eraseIdx_of_lt hk
  unfold toEnd at h
  by_cases hj : j < (xs.eraseIdx k).length
  · rw [List.getElem?_append_left hj, List.getElem?_eraseIdx] at h
    split_ifs at h with hjk
    · exact .inl ⟨hjk, h⟩
    · exact .inr (.inl ⟨by omega, h⟩)
  · rw [List.getElem?_append_right (by omega)] at h
    have hlt := (List.getElem?_eq_some_iff.mp h).1
    rw [List.length_singleton] at hlt
    have h0 : j - (xs.eraseIdx k).length = 0 := by omega
    rw [h0] at h
    exact .inr (.inr ⟨by omega, (Option.some.inj h).symm⟩)

/-- the elements in front of `k` and behind it -/
theorem toEnd_get {j : Nat} (hj : j < k) (hk : k < xs.length) : (toEnd xs k x)[j]? = xs[j]? := by
  have hlen := List.length_eraseIdx_of_lt hk
  unfold toEnd
  rw [List.getElem?_append_left (by omega), List.getElem?_eraseIdx, if_pos hj]

theorem toEnd_get_succ {j : Nat} (hj : k ≤ j) (hlt : j + 1 < xs.length) :
    (toEnd xs k x)[j]? = xs[j + 1]? := by
  have hlen := List.length_eraseIdx_of_lt (show k < xs.length by omega)
  unfold toEnd
  rw [List.getElem?_append_left (by omega), List.getElem?_eraseIdx, if_neg (by omega)]

/-- an element that meets `P` stands among the first `n` -/
def Within (P : α → Prop) (n : Nat) (xs : List α) : Prop := ∀ k x, xs[k]? = some x → P x → k < n

theorem Within.nil : Within P n [] := fun k x h => by cases h

theorem Within.mono {m : Nat} (h : Within P n xs) (hm : n ≤ m) : Within P m xs :=
  fun k x hk hx => (h k x hk hx).trans_le hm

/-- an element in front moves to the end, and does not meet `P` any more -/
theorem Within.toEnd (h : Within P n xs) (hk : k < xs.length) (hn : k < n) (hx : ¬ P x) :
    Within P (n - 1) (toEnd xs k x) := by
  intro j y hj hy
  rcases get_toEnd hk hj with ⟨h1, h2⟩ | ⟨h1, h2⟩ | ⟨_, rfl⟩
  · omega
  · have h3 := h (j + 1) y h2 hy
    omega
  · exact absurd hy hx

/-- an element in front may meet `P` afterwards, one behind it only if it did before -/
theorem Within.set (h : Within P n xs) (hy : xs[k]? = some y) (hx : P x → P y ∨ k < n) :
    Within P n (xs.set k x) := by
  intro j z hj hz
  rw [List.getElem?_set] at hj
  split_ifs at hj with hkj hlt
  · subst hkj
    cases hj
    rcases hx hz with h1 | h1
    · exact h k y hy h1
    · exact h1
  · exact h j z hj hz

theorem Within.modify {f : α → α} (h : Within P n xs) (hf : ∀ x, P (f x) → P x) :
    Within P n (xs.modify k f) := by
  intro j y hj hy
  rw [List.getElem?_modify] at hj
  obtain ⟨x, hx, rfl⟩ := Option.map_eq_some_iff.mp hj
  refine h j x hx ?_
  split_ifs at hy with hkj
  · exact hf x hy
  · exact hy

theorem Within.append (h : Within P n xs) (hx : P x → xs.length < n) : Within P n (xs ++ [x]) := by
  intro j y hj hy
  by_cases hlt : j < xs.length
  · rw [List.getElem?_append_left hlt] at hj
    exact h j y hj hy
  · rw [List.getElem?_append_right (by omega)] at hj
    have h1 := (List.getElem?_eq_some_iff.mp hj).1
    rw [List.length_singleton] at h1
    have h0 : j - xs.length = 0 := by omega
    rw [h0] at hj
    cases hj
    have h2 := hx hy
    omega

/-- elements changed where they stand do not meet `P` unless they did before -/
theorem Within.forall₂ {ys : List α} (h : Within P n xs)
    (hxy : List.Forall₂ (fun x y => P y → P x) xs ys) : Within P n ys := by
  intro j y hj hy
  have hlt : j < xs.length := by
    rw [hxy.length_eq]
    exact (List.getElem?_eq_some_iff.mp hj).1
  have hrel := List.Forall₂.get hxy hlt (by rw [← hxy.length_eq]; exact hlt)
  have hget : ys.get ⟨j, by rw [← hxy.length_eq]; exact hlt⟩ = y :=
    Option.some.inj ((List.getElem?_eq_getElem _).symm.trans hj)
  rw [hget] at hrel
  exact h j _ (List.getElem?_eq_getElem hlt) (hrel hy)

/-- if all elements meet `P`, they all stand in front -/
theorem Within.all (h : Within P n xs) (hall : ∀ x ∈ xs, P x) : xs.length ≤ n := by
  by_contra hlt
  have hn : n < xs.length := by omega
  have h1 := h n xs[n] (List.getElem?_eq_getElem hn) (hall _ (List.getElem_mem hn))
  omega

/-- the first `n` elements are there, and meet `P` -/
def Fills (P : α → Prop) (n : Nat) (xs : List α) : Prop := ∀ k < n, ∃ x, xs[k]? = some x ∧ P x

theorem Fills.zero : Fills P 0 xs := fun k hk => absurd hk (Nat.not_lt_zero k)

theorem Fills.length_le (h : Fills P n xs) : n ≤ xs.length := by
  by_contra hlt
  obtain ⟨x, hx, _⟩ := h xs.length (by omega)
  rw [List.getElem?_eq_none (le_refl _)] at hx
  cases hx

theorem Fills.toEnd (h : Fills P n xs) (hk : k < n) : Fills P (n - 1) (toEnd xs k x) := by
  have hlen := h.length_le
  intro j hj
  by_cases hjk : j < k
  · rw [toEnd_get hjk (by omega)]
    exact h j (by omega)
  · rw [toEnd_get_succ (by omega) (by omega)]
    exact h (j + 1) (by omega)

theorem Fills.modify {f : α → α} (h : Fills P n xs) (hf : ∀ x, P x → P (f x)) :
    Fills P n (xs.modify k f) := by
  intro j hj
  obtain ⟨y, hy, hP⟩ := h j hj
  rw [List.getElem?_modify, hy]
  refine ⟨_, rfl, ?_⟩
  split_ifs
  · exact hf y hP
  · exact hP

theorem Fills.push (h : Fills P n xs) (hn : n = xs.length) (hx : P x) :
    Fills P (n + 1) (xs ++ [x]) := by
  intro j hj
  by_cases hlt : j < xs.length
  · rw [List.getElem?_append_left hlt]
    exact h j (by omega)
  · have hj' : j = xs.length := by omega
    subst hj'
    exact ⟨x, List.getElem?_concat_length, hx⟩

/-- the elements that meet `p` are the first `n` -/
theorem countP_front {p : α → Bool} (hw : Within (p · = true) n xs) (hf : Fills (p · = true) n xs) :
    xs.countP p = n := by
  have hlen := hf.length_le
  have hfront : (xs.take n).countP p = (xs.take n).length := by
    rw [List.countP_eq_length]
    intro x hx
    obtain ⟨j, hj⟩ := List.mem_iff_getElem?.mp hx
    rw [List.getElem?_take] at hj
    split_ifs at hj with hjn
    obtain ⟨y, hy, hp⟩ := hf j hjn
    cases hy.symm.trans hj
    exact hp
  have hback : (xs.drop n).countP p = 0 := by
    rw [List.countP_eq_zero]
    intro x hx hp
    obtain ⟨j, hj⟩ := List.mem_iff_getElem?.mp hx
    rw [List.getElem?_drop] at hj
    have h1 := hw (n + j) x hj hp
    omega
  have hsum : xs.countP p = (xs.take n).countP p + (xs.drop n).countP p := by
    rw [← List.countP_append, List.take_append_drop]
  rw [hsum, hfront, hback, List.length_take]
  omega

end

/-! ## what the elements hold -/

section
variable {α β : Type*} {g : α → Option β} {xs : List α} {k : Nat} {x y : α} {b : β}

/-- two elements that hold the same are one, if nothing is held twice -/
theorem index_eq_of_nodup {j : Nat} (h : (xs.filterMap g).Nodup) (hj : xs[j]? = some x)
    (hk : xs[k]? = some y) (hx : g x = some b) (hy : g y = some b) : j = k := by
  have hmem : ∀ {zs : List α} {m : Nat} {z : α}, zs[m]? = some z → g z = some b →
      b ∈ zs.filterMap g := fun hm hz => List.mem_filterMap.mpr ⟨_, List.mem_of_getElem? hm, hz⟩
  induction xs generalizing j k with
  | nil => cases hj
  | cons z xs ih =>
    have htail : (xs.filterMap g).Nodup := h.sublist ((List.sublist_cons_self z xs).filterMap g)
    cases j with
    | zero =>
      cases hj
      cases k with
      | zero => rfl
      | succ k =>
        rw [List.filterMap_cons_some hx, List.nodup_cons] at h
        rw [List.getElem?_cons_succ] at hk
        exact absurd (hmem hk hy) h.1
    | succ j =>
      cases k with
      | zero =>
        cases hk
        rw [List.filterMap_cons_some hy, List.nodup_cons] at h
        rw [List.getElem?_cons_succ] at hj
        exact absurd (hmem hj hx) h.1
      | succ k => rw [ih htail hj hk]

/-- what the element at `k` holds, and what the others hold -/
theorem filterMap_perm (hx : xs[k]? = some x) :
    (xs.filterMap g).Perm ((g x).toList ++ (xs.eraseIdx k).filterMap g) := by
  obtain ⟨hlt, rfl⟩ := List.getElem?_eq_some_iff.mp hx
  have h1 := ((List.getElem_cons_eraseIdx_perm hlt).symm).filterMap g
  rw [List.filterMap_cons] at h1
  cases hg : g xs[k] with
  | none =>
    rw [hg] at h1
    exact h1
  | some b =>
    rw [hg] at h1
    exact h1

theorem filterMap_set_perm (hk : k < xs.length) (y : α) :
    ((xs.set k y).filterMap g).Perm ((g y).toList ++ (xs.eraseIdx k).filterMap g) := by
  have h1 := @filterMap_perm _ _ g (xs.set k y) k y (List.getElem?_set_self hk)
  rwa [List.eraseIdx_set_eq] at h1

theorem filterMap_toEnd_perm (xs : List α) (k : Nat) (y : α) :
    ((toEnd xs k y).filterMap g).Perm ((g y).toList ++ (xs.eraseIdx k).filterMap g) := by
  unfold toEnd
  rw [List.filterMap_append]
  refine List.perm_append_comm.trans (List.Perm.append_right _ ?_)
  rw [List.filterMap_cons]
  cases g y with
  | none => exact List.Perm.refl _
  | some b => exact List.Perm.refl _

/-- one holding is exchanged for another, which nobody has -/
theorem nodup_of_exchange {o o' : Option β} {hs hs' rest : List β} (h : hs.Nodup)
    (hperm : hs.Perm (o.toList ++ rest)) (hperm' : hs'.Perm (o'.toList ++ rest))
    (hnew : ∀ b, o' = some b → o = some b ∨ b ∉ hs) : hs'.Nodup := by
  have hn := (hperm.nodup_iff).mp h
  have hrest : rest.Nodup := hn.sublist (List.sublist_append_right _ _)
  rw [hperm'.nodup_iff]
  cases o' with
  | none => exact hrest
  | some b =>
    rcases hnew b rfl with rfl | hb
    · exact hn
    · show (b :: rest).Nodup
      refine List.nodup_cons.mpr ⟨fun hr => hb ?_, hrest⟩
      exact hperm.mem_iff.mpr (List.mem_append_right _ hr)

end

/-! ## folds that grow with every element -/

section
variable {α β : Type*} [Preorder β] {f : β → α → β} {b : β} {x : α} {xs : List α}

theorem le_foldl (hgrow : ∀ r x, r ≤ f r x) (xs : List α) (r : β) : r ≤ xs.foldl f r := by
  induction xs generalizing r with
  | nil => exact le_refl r
  | cons x xs ih => exact (hgrow r x).trans (ih _)

/-- what an element brings, the fold has -/
theorem le_foldl_of_mem (hgrow : ∀ r x, r ≤ f r x) (hx : x ∈ xs) (hb : ∀ r, b ≤ f r x) (r : β) :
    b ≤ xs.foldl f r := by
  induction xs generalizing r with
  | nil => cases hx
  | cons y xs ih =>
    rcases List.mem_cons.mp hx with rfl | hx
    · exact (hb r).trans (le_foldl hgrow xs _)
    · exact ih hx _

/-- the same for one fold that goes on where another has stopped -/
theorem le_foldl_foldl {γ : Type*} {g : β → γ → β} {ys : List γ} (hf : ∀ r x, r ≤ f r x)
    (hg : ∀ r y, r ≤ g r y)
    (hb : (∃ x ∈ xs, ∀ r, b ≤ f r x) ∨ ∃ y ∈ ys, ∀ r, b ≤ g r y) (r : β) :
    b ≤ ys.foldl g (xs.foldl f r) := by
  rcases hb with ⟨x, hx, hb⟩ | ⟨y, hy, hb⟩
  · exact (le_foldl_of_mem hf hx hb r).trans (le_foldl hg ys _)
  · exact le_foldl_of_mem hg hy hb _

end

/-! ## two lists, place by place -/

section
variable {α β : Type*} {R : α → β → Prop} {xs : List α} {ys : List β} {x : α} {y : β}

theorem forall₂_set (h : List.Forall₂ R xs ys) (k : Nat) (hxy : R x y) :
    List.Forall₂ R (xs.set k x) (ys.set k y) := by
  induction h generalizing k with
  | nil => exact .nil
  | cons hd ht ih =>
    cases k with
    | zero => exact .cons hxy ht
    | succ k => exact .cons hd (ih k)

theorem forall₂_eraseIdx (h : List.Forall₂ R xs ys) (k : Nat) :
    List.Forall₂ R (xs.eraseIdx k) (ys.eraseIdx k) := by
  induction h generalizing k with
  | nil => exact .nil
  | cons hd ht ih =>
    cases k with
    | zero => exact ht
    | succ k => exact .cons hd (ih k)

theorem forall₂_concat (h : List.Forall₂ R xs ys) (hxy : R x y) :
    List.Forall₂ R (xs ++ [x]) (ys ++ [y]) := List.rel_append h (.cons hxy .nil)

theorem forall₂_toEnd (h : List.Forall₂ R xs ys) (k : Nat) (hxy : R x y) :
    List.Forall₂ R (toEnd xs k x) (toEnd ys k y) := forall₂_concat (forall₂_eraseIdx h k) hxy

theorem forall₂_get? (h : List.Forall₂ R xs ys) {k : Nat} (hx : xs[k]? = some x) :
    ∃ y, ys[k]? = some y ∧ R x y := by
  obtain ⟨hlt, rfl⟩ := List.getElem?_eq_some_iff.mp hx
  have hlt' : k < ys.length := by rwa [← h.length_eq]
  exact ⟨ys[k], List.getElem?_eq_getElem hlt', List.Forall₂.get h hlt hlt'⟩

end

end TunServer
