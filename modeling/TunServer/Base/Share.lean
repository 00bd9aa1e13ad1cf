import TunServer.Base.Run

/-!
# Components that share a resource

Any number of components (`ι`) take calls (`κ`), one call at a time.  A call works on a state of the
component's own (`σ`) and on a resource that all of them share (`χ`); it can fail, which ends the run.

* `Share`, `Share.call`   the components with the resource, and one call of one of them;
* `callsOf`, `heard`      the calls a component gets in a run, and what they read of the resource;
* `Follows`               one component without the others: it is told what it reads;
* `ReadsOnly`             nothing else of the resource matters to a call;
* `own_determined`        a component that gets the same calls and reads the same ends the same.
-/

namespace TunServer

structure Share (ι σ χ : Type*) where
  own : ι → σ
  res : χ

section
variable {ι σ χ κ α ε : Type*} [DecidableEq ι]

/-- one call of one component -/
def Share.call (f : χ → σ → κ → Except ε (χ × σ)) (w : Share ι σ χ) (c : ι × κ) :
    Except ε (Share ι σ χ) :=
  (f w.res (w.own c.1) c.2).map fun r => ⟨Function.update w.own c.1 r.2, r.1⟩

/-- the calls of the component `i` -/
def callsOf (i : ι) (l : List (ι × κ)) : List κ :=
  l.filterMap fun c => if c.1 = i then some c.2 else none

/-- what the calls of the component `i` read of the resource -/
def heard (f : χ → σ → κ → Except ε (χ × σ)) (ask : χ → σ → κ → α) (i : ι) :
    Share ι σ χ → List (ι × κ) → List α
  | _, [] => []
  | w, c :: l =>
    (if c.1 = i then [ask w.res (w.own i) c.2] else []) ++
      match w.call f c with
      | .ok w' => heard f ask i w' l
      | .error _ => []

theorem Share.call_ok {f : χ → σ → κ → Except ε (χ × σ)} {w w' : Share ι σ χ} {c : ι × κ} :
    w.call f c = .ok w' ↔
      ∃ y t, f w.res (w.own c.1) c.2 = .ok (y, t) ∧ w' = ⟨Function.update w.own c.1 t, y⟩ := by
  unfold Share.call
  cases hf : f w.res (w.own c.1) c.2 with
  | error e => exact ⟨fun h => (by cases h), fun ⟨y, t, h, _⟩ => (by cases h)⟩
  | ok r =>
    constructor
    · intro h
      cases h
      exact ⟨r.1, r.2, rfl, rfl⟩
    · rintro ⟨y, t, h, rfl⟩
      cases h
      rfl

/-- one component, told what its calls read -/
inductive Follows (f : χ → σ → κ → Except ε (χ × σ)) (ask : χ → σ → κ → α) :
    σ → List κ → List α → σ → Prop where
  | nil (s : σ) : Follows f ask s [] [] s
  | cons {x y : χ} {s t u : σ} {k : κ} {ks : List κ} {a : α} {as : List α} (ha : ask x s k = a)
      (hf : f x s k = .ok (y, t)) (ht : Follows f ask t ks as u) : Follows f ask s (k :: ks) (a :: as) u

/-- In a run of all the components each of them follows its own calls. -/
theorem follows_run {f : χ → σ → κ → Except ε (χ × σ)} (ask : χ → σ → κ → α) (i : ι)
    {w w' : Share ι σ χ} {l : List (ι × κ)} (h : runM (Share.call f) w l = .ok w') :
    Follows f ask (w.own i) (callsOf i l) (heard f ask i w l) (w'.own i) := by
  induction l generalizing w with
  | nil =>
    cases h
    exact .nil _
  | cons c l ih =>
    obtain ⟨w1, h1, h2⟩ := bind_ok.mp h
    have ih1 := ih h2
    obtain ⟨y, t, hf, rfl⟩ := Share.call_ok.mp h1
    dsimp only at ih1
    unfold heard callsOf
    rw [h1, List.filterMap_cons]
    by_cases hc : c.1 = i
    · subst hc
      rw [if_pos rfl, if_pos rfl]
      rw [Function.update_self] at ih1
      exact .cons rfl hf ih1
    · rw [if_neg hc, if_neg hc]
      rw [Function.update_of_ne (Ne.symm hc)] at ih1
      exact ih1

/-- What a call does to the component's own state depends on the resource only through what it
reads. -/
def ReadsOnly (f : χ → σ → κ → Except ε (χ × σ)) (ask : χ → σ → κ → α) : Prop :=
  ∀ x x' y y' s t t' k, ask x s k = ask x' s k → f x s k = .ok (y, t) → f x' s k = .ok (y', t') → t' = t

theorem Follows.unique {f : χ → σ → κ → Except ε (χ × σ)} {ask : χ → σ → κ → α}
    (hf : ReadsOnly f ask) {s t t' : σ} {ks : List κ} {as : List α} (h : Follows f ask s ks as t)
    (h' : Follows f ask s ks as t') : t' = t := by
  induction h with
  | nil s =>
    cases h'
    rfl
  | cons ha hfs ht ih =>
    cases h' with
    | cons ha' hfs' ht' =>
      obtain rfl := hf _ _ _ _ _ _ _ _ (ha.trans ha'.symm) hfs hfs'
      exact ih ht'

/-- **A component is determined by its calls and by what they read.** -/
theorem own_determined {f : χ → σ → κ → Except ε (χ × σ)} {ask : χ → σ → κ → α}
    (hf : ReadsOnly f ask) {i : ι} {v w v' w' : Share ι σ χ} {l l' : List (ι × κ)} (hown : w.own i = v.own i)
    (hl : runM (Share.call f) v l = .ok v') (hl' : runM (Share.call f) w l' = .ok w')
    (hcalls : callsOf i l' = callsOf i l) (hheard : heard f ask i w l' = heard f ask i v l) :
    w'.own i = v'.own i := by
  have h := follows_run ask i hl
  have h' := follows_run ask i hl'
  rw [hown, hcalls, hheard] at h'
  exact h.unique hf h'

end

end TunServer
