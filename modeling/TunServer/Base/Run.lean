import Mathlib

/-!
# Deterministic machines: runs, conditions along a run, audited logs

A machine is a step function `step : σ → ι → σ` on states and inputs.  `run step s l` feeds it the
inputs of `l`, and `Along step ok s l` says that `ok` holds of every state of that run together
with the input it is fed.

* `run_inv`      an invariant kept by every step that meets `ok` holds after a run along `ok`;
* `along_good`   the condition on the steps of the runs that go through good states only;
* `run_yields`   the same with a ledger of what the steps yield;
* `run_sim`      two runs stay related when every pair of steps does;
* `run_matched`  the same with a run of the other machine for each step;
* `both`         two runs with the same inputs as one;
* `Ends`         what a call that can fail ends in;
* `runM`, `AlongM`, `runM_ends`   runs and the invariant rule for machines whose steps can fail;
* `alongM_iff`   two conditions on the steps that are the same under the invariant;
* `EndsLike`, `runM_sim`   two such runs side by side, `ite_rel` for their tests;
* `Adds`         a log that grew by entries of one kind;
* `Audited`      a log each of whose entries is good for the entries before it;
* `audited_snoc` what one more entry asks for.
-/

namespace TunServer

section
variable {σ τ ι κ : Type*}

/-- the state after the inputs `l` (the head of the list comes first) -/
def run (step : σ → ι → σ) : σ → List ι → σ
  | s, [] => s
  | s, i :: l => run step (step s i) l

/-- every step of the run of `l` from `s` meets `ok` -/
def Along (step : σ → ι → σ) (ok : σ → ι → Prop) : σ → List ι → Prop
  | _, [] => True
  | s, i :: l => ok s i ∧ Along step ok (step s i) l

instance decidableAlong (step : σ → ι → σ) (ok : σ → ι → Prop) [∀ s i, Decidable (ok s i)] :
    ∀ s l, Decidable (Along step ok s l)
  | _, [] => .isTrue trivial
  | s, i :: l =>
    have := decidableAlong step ok (step s i) l
    inferInstanceAs (Decidable (ok s i ∧ Along step ok (step s i) l))

theorem run_cons (step : σ → ι → σ) (s : σ) (i : ι) (l : List ι) :
    run step s (i :: l) = run step (step s i) l := rfl
theorem run_append (step : σ → ι → σ) (s : σ) (l l' : List ι) :
    run step s (l ++ l') = run step (run step s l) l' := by
  induction l generalizing s with
  | nil => rfl
  | cons i l ih => exact ih (step s i)

theorem along_append (step : σ → ι → σ) (ok : σ → ι → Prop) (s : σ) (l l' : List ι) :
    Along step ok s (l ++ l') ↔ Along step ok s l ∧ Along step ok (run step s l) l' := by
  induction l generalizing s with
  | nil => exact ⟨fun h => ⟨trivial, h⟩, fun h => h.2⟩
  | cons i l ih =>
    show (ok s i ∧ Along step ok (step s i) (l ++ l'))
      ↔ (ok s i ∧ Along step ok (step s i) l) ∧ Along step ok (run step (step s i) l) l'
    rw [ih (step s i), and_assoc]

theorem Along.mono {step : σ → ι → σ} {ok ok' : σ → ι → Prop} (h : ∀ s i, ok s i → ok' s i)
    {s : σ} {l : List ι} (hl : Along step ok s l) : Along step ok' s l := by
  induction l generalizing s with
  | nil => trivial
  | cons i l ih => exact ⟨h s i hl.1, ih hl.2⟩

/-- steps that meet one condition exactly when they meet the other -/
theorem Along.congr {step : σ → ι → σ} {ok ok' : σ → ι → Prop} {s : σ} {l : List ι}
    (h : Along step (fun s i => ok s i ↔ ok' s i) s l) : Along step ok s l ↔ Along step ok' s l := by
  induction l generalizing s with
  | nil => exact Iff.rfl
  | cons i l ih => exact and_congr h.1 (ih h.2)

theorem Along.and {step : σ → ι → σ} {ok ok' : σ → ι → Prop} {s : σ} {l : List ι}
    (h : Along step ok s l) (h' : Along step ok' s l) :
    Along step (fun s i => ok s i ∧ ok' s i) s l := by
  induction l generalizing s with
  | nil => trivial
  | cons i l ih => exact ⟨⟨h.1, h'.1⟩, ih h.2 h'.2⟩

theorem along_true (step : σ → ι → σ) (s : σ) (l : List ι) :
    Along step (fun _ _ => True) s l := by
  induction l generalizing s with
  | nil => trivial
  | cons i l ih => exact ⟨trivial, ih _⟩

/-- **The invariant rule.** -/
theorem run_inv {step : σ → ι → σ} {ok : σ → ι → Prop} (Inv : σ → Prop)
    (hstep : ∀ s i, Inv s → ok s i → Inv (step s i)) {s : σ} {l : List ι} (hs : Inv s)
    (hl : Along step ok s l) : Inv (run step s l) := by
  induction l generalizing s with
  | nil => exact hs
  | cons i l ih => exact ih (hstep s i hs hl.1) hl.2

/-- An invariant turns a condition that is enough on its states into a condition along runs. -/
theorem along_inv {step : σ → ι → σ} {ok ok' : σ → ι → Prop} (Inv : σ → Prop)
    (hstep : ∀ s i, Inv s → ok s i → Inv (step s i)) (hok : ∀ s i, Inv s → ok s i → ok' s i)
    {s : σ} {l : List ι} (hs : Inv s) (hl : Along step ok s l) : Along step ok' s l := by
  induction l generalizing s with
  | nil => trivial
  | cons i l ih => exact ⟨hok s i hs hl.1, ih (hstep s i hs hl.1) hl.2⟩

/-- A condition under which, and only under which, a step goes from a good state to a good one: it holds
along a run when all the states of the run are good. -/
theorem along_good {step : σ → ι → σ} {ok : σ → ι → Prop} (Inv Good : σ → Prop)
    (hstep : ∀ s i, Inv s → Inv (step s i))
    (hok : ∀ s i, Inv s → Good s → (Good (step s i) ↔ ok s i)) {s : σ} (hs : Inv s) (hg : Good s)
    (l : List ι) : (∀ n, Good (run step s (l.take n))) ↔ Along step ok s l := by
  induction l generalizing s with
  | nil => exact ⟨fun _ => trivial, fun _ n => by rw [List.take_nil]; exact hg⟩
  | cons i l ih =>
    constructor
    · intro h
      have hi : Good (step s i) := h 1
      exact ⟨(hok s i hs hg).mp hi, (ih (hstep s i hs) hi).mp fun n => h (n + 1)⟩
    · rintro ⟨hi, hl⟩ n
      have hi' : Good (step s i) := (hok s i hs hg).mpr hi
      cases n with
      | zero => exact hg
      | succ n => exact (ih (hstep s i hs) hi').mpr hl n

/-- what the steps of a run yield, one after the other -/
def yields {α : Type*} (step : σ → ι → σ) (f : σ → ι → List α) : σ → List ι → List α
  | _, [] => []
  | s, i :: l => f s i ++ yields step f (step s i) l

theorem yields_append {α : Type*} (step : σ → ι → σ) (f : σ → ι → List α) (s : σ) (l l' : List ι) :
    yields step f s (l ++ l') = yields step f s l ++ yields step f (run step s l) l' := by
  induction l generalizing s with
  | nil => rfl
  | cons i l ih =>
    show f s i ++ yields step f (step s i) (l ++ l') = _
    rw [ih (step s i), ← List.append_assoc]
    rfl

/-- The invariant rule with a ledger: what the steps yield is entered at its end. -/
theorem run_yields {α : Type*} {step : σ → ι → σ} {ok : σ → ι → Prop} {f : σ → ι → List α}
    (Inv : σ → List α → Prop) (hstep : ∀ s a i, Inv s a → ok s i → Inv (step s i) (a ++ f s i))
    {s : σ} {a : List α} {l : List ι} (hs : Inv s a) (hl : Along step ok s l) :
    Inv (run step s l) (a ++ yields step f s l) := by
  induction l generalizing s a with
  | nil =>
    show Inv s (a ++ [])
    rwa [List.append_nil]
  | cons i l ih =>
    show Inv (run step (step s i) l) (a ++ (f s i ++ yields step f (step s i) l))
    rw [← List.append_assoc]
    exact ih (hstep s a i hs hl.1) hl.2

/-- **The simulation rule**: related states fed related inputs stay related. -/
theorem run_sim {step : σ → ι → σ} {step' : τ → κ → τ} {f : ι → κ} (R : σ → τ → Prop)
    (hstep : ∀ s t i, R s t → R (step s i) (step' t (f i))) {s : σ} {t : τ} (hst : R s t)
    (l : List ι) : R (run step s l) (run step' t (l.map f)) := by
  induction l generalizing s t with
  | nil => exact hst
  | cons i l ih => exact ih (hstep s t i hst)

/-- **The simulation rule** with several steps for one: every run is matched by a run of the other
machine. -/
theorem run_matched {step : σ → ι → σ} {step' : τ → κ → τ} {ok' : τ → κ → Prop} (R : σ → τ → Prop)
    (hstep : ∀ s t i, R s t → ∃ ks, Along step' ok' t ks ∧ R (step s i) (run step' t ks)) {s : σ} {t : τ}
    (hst : R s t) (l : List ι) : ∃ ks, Along step' ok' t ks ∧ R (run step s l) (run step' t ks) := by
  induction l generalizing s t with
  | nil => exact ⟨[], trivial, hst⟩
  | cons i l ih =>
    obtain ⟨ks, h1, h2⟩ := hstep s t i hst
    obtain ⟨ks', h3, h4⟩ := ih h2
    refine ⟨ks ++ ks', (along_append step' ok' t ks ks').mpr ⟨h1, h3⟩, ?_⟩
    rw [run_append]
    exact h4

/-- one machine in two states, fed the same inputs -/
def both (step : σ → ι → σ) (w : σ × σ) (i : ι) : σ × σ := (step w.1 i, step w.2 i)

theorem run_both (step : σ → ι → σ) (w : σ × σ) (l : List ι) :
    run (both step) w l = (run step w.1 l, run step w.2 l) := by
  induction l generalizing w with
  | nil => rfl
  | cons i l ih => exact ih (both step w i)

end

/-! ## machines whose steps can fail -/

section
variable {σ ι ε : Type*}

theorem bind_ok.{u, v} {ε : Type u} {α β : Type v} {x : Except ε α} {f : α → Except ε β} {b : β} :
    (x >>= f) = .ok b ↔ ∃ a, x = .ok a ∧ f a = .ok b := by
  cases x with
  | error e => exact ⟨fun h => (by cases h), fun ⟨a, h, _⟩ => (by cases h)⟩
  | ok a => exact ⟨fun h => ⟨a, rfl, h⟩, fun ⟨a', h, h'⟩ => by cases h; exact h'⟩

theorem bind_error.{u, v} {ε : Type u} {α β : Type v} {x : Except ε α} {f : α → Except ε β} {e : ε} :
    (x >>= f) = .error e ↔ x = .error e ∨ ∃ a, x = .ok a ∧ f a = .error e := by
  cases x with
  | error e' =>
    refine ⟨fun h => .inl (by cases h; rfl), fun h => ?_⟩
    rcases h with h | ⟨a, h, _⟩
    · cases h
      rfl
    · cases h
  | ok a =>
    refine ⟨fun h => .inr ⟨a, rfl, h⟩, fun h => h.elim (fun h' => by cases h') ?_⟩
    rintro ⟨a', h', h''⟩
    cases h'
    exact h''

/-- the result meets `P`, or the failure meets `E` -/
def Ends {α : Type*} (E : ε → Prop) (P : α → Prop) : Except ε α → Prop
  | .ok a => P a
  | .error e => E e

instance {α : Type*} (E : ε → Prop) (P : α → Prop) [∀ e, Decidable (E e)] [∀ a, Decidable (P a)] :
    ∀ r, Decidable (Ends E P r)
  | .ok a => inferInstanceAs (Decidable (P a))
  | .error e => inferInstanceAs (Decidable (E e))

theorem Ends.ok {α : Type*} {E : ε → Prop} {P : α → Prop} {r : Except ε α} (h : Ends E P r) {a : α}
    (hr : r = .ok a) : P a := by
  cases hr
  exact h

theorem Ends.error {α : Type*} {E : ε → Prop} {P : α → Prop} {r : Except ε α} (h : Ends E P r)
    {e : ε} (hr : r = .error e) : E e := by
  cases hr
  exact h

theorem Ends.mono {α : Type*} {E : ε → Prop} {P Q : α → Prop} {r : Except ε α} (h : Ends E P r)
    (hPQ : ∀ a, P a → Q a) : Ends E Q r := by
  cases r with
  | ok a => exact hPQ a h
  | error e => exact h

theorem Ends.imp {α : Type*} {E E' : ε → Prop} {P Q : α → Prop} {r : Except ε α} (h : Ends E P r)
    (hE : ∀ e, E e → E' e) (hPQ : ∀ a, P a → Q a) : Ends E' Q r := by
  cases r with
  | ok a => exact hPQ a h
  | error e => exact hE e h

theorem Ends.and {α : Type*} {E : ε → Prop} {P Q : α → Prop} {r : Except ε α} (h : Ends E P r)
    (h' : ∀ a, r = .ok a → Q a) : Ends E (fun a => P a ∧ Q a) r := by
  cases r with
  | ok a => exact ⟨h, h' a rfl⟩
  | error e => exact h

/-- what a sequence of two calls ends in -/
theorem Ends.bind.{u, v} {ε : Type u} {α β : Type v} {E : ε → Prop} {P : α → Prop} {Q : β → Prop}
    {x : Except ε α} {f : α → Except ε β} (h : Ends E P x) (hf : ∀ a, P a → Ends E Q (f a)) :
    Ends E Q (x >>= f) := by
  cases x with
  | ok a => exact hf a h
  | error e => exact h

/-- the state after the inputs `l`, or the first failure -/
def runM (step : σ → ι → Except ε σ) : σ → List ι → Except ε σ
  | s, [] => .ok s
  | s, i :: l => step s i >>= fun s' => runM step s' l

/-- every step of the run of `l` from `s`, as far as it gets, meets `ok` -/
def AlongM (step : σ → ι → Except ε σ) (ok : σ → ι → Prop) : σ → List ι → Prop
  | _, [] => True
  | s, i :: l => ok s i ∧ Ends (fun _ => True) (fun s' => AlongM step ok s' l) (step s i)

instance decidableAlongM (step : σ → ι → Except ε σ) (ok : σ → ι → Prop)
    [∀ s i, Decidable (ok s i)] : ∀ s l, Decidable (AlongM step ok s l)
  | _, [] => .isTrue trivial
  | s, i :: l =>
    have := fun s' => decidableAlongM step ok s' l
    inferInstanceAs (Decidable (ok s i ∧ Ends _ (fun s' => AlongM step ok s' l) (step s i)))

theorem AlongM.and {step : σ → ι → Except ε σ} {ok ok' : σ → ι → Prop} {s : σ} {l : List ι}
    (h : AlongM step ok s l) (h' : AlongM step ok' s l) :
    AlongM step (fun s i => ok s i ∧ ok' s i) s l := by
  induction l generalizing s with
  | nil => trivial
  | cons i l ih =>
    refine ⟨⟨h.1, h'.1⟩, ?_⟩
    have h2 := h.2
    have h3 := h'.2
    cases hs : step s i with
    | ok s' => exact ih (h2.ok hs) (h3.ok hs)
    | error e => trivial

theorem AlongM.mono {step : σ → ι → Except ε σ} {ok ok' : σ → ι → Prop} (h : ∀ s i, ok s i → ok' s i)
    {s : σ} {l : List ι} (hl : AlongM step ok s l) : AlongM step ok' s l := by
  induction l generalizing s with
  | nil => trivial
  | cons i l ih =>
    refine ⟨h s i hl.1, ?_⟩
    exact hl.2.mono fun s' hs' => ih hs'

theorem alongM_true (step : σ → ι → Except ε σ) (s : σ) (l : List ι) :
    AlongM step (fun _ _ => True) s l := by
  induction l generalizing s with
  | nil => trivial
  | cons i l ih =>
    refine ⟨trivial, ?_⟩
    cases step s i with
    | ok t => exact ih t
    | error e => trivial

/-- a step that keeps the invariant and meets `ok` meets `ok'`, so a run does -/
theorem alongM_inv {step : σ → ι → Except ε σ} {ok ok' : σ → ι → Prop} (Inv : σ → Prop)
    (hstep : ∀ s i, Inv s → Ends (fun _ => True) Inv (step s i))
    (h : ∀ s i, Inv s → ok s i → ok' s i) {s : σ} {l : List ι} (hs : Inv s)
    (hl : AlongM step ok s l) : AlongM step ok' s l := by
  induction l generalizing s with
  | nil => trivial
  | cons i l ih =>
    refine ⟨h s i hs hl.1, ?_⟩
    have hkeep := hstep s i hs
    have hrest := hl.2
    cases hi : step s i with
    | ok s' => exact ih (hkeep.ok hi) (hrest.ok hi)
    | error e => trivial

/-- From the invariant the two conditions are the same, and a step that meets them keeps it. -/
theorem alongM_iff {step : σ → ι → Except ε σ} {ok ok' : σ → ι → Prop} (Inv : σ → Prop)
    (hstep : ∀ s i, Inv s → ok s i → Ends (fun _ => True) Inv (step s i))
    (h : ∀ s i, Inv s → (ok s i ↔ ok' s i)) {s : σ} (hs : Inv s) (l : List ι) :
    AlongM step ok s l ↔ AlongM step ok' s l := by
  induction l generalizing s with
  | nil => exact Iff.rfl
  | cons i l ih =>
    have hi := h s i hs
    constructor
    · rintro ⟨ho, hl⟩
      refine ⟨hi.mp ho, ?_⟩
      exact Ends.mono (hl.and fun t ht => (hstep s i hs ho).ok ht) fun t ht => (ih ht.2).mp ht.1
    · rintro ⟨ho, hl⟩
      refine ⟨hi.mpr ho, ?_⟩
      exact Ends.mono (hl.and fun t ht => (hstep s i hs (hi.mpr ho)).ok ht)
        fun t ht => (ih ht.2).mpr ht.1

/-- the last step of a run that does not fail before it -/
theorem AlongM.last {step : σ → ι → Except ε σ} {ok : σ → ι → Prop} {s t : σ} {l : List ι} {i : ι}
    (h : AlongM step ok s (l ++ [i])) (hr : runM step s l = .ok t) : ok t i := by
  induction l generalizing s with
  | nil =>
    cases hr
    exact h.1
  | cons j l ih =>
    obtain ⟨s', hs, hr⟩ := bind_ok.mp hr
    exact ih (h.2.ok hs) hr

/-- **The invariant rule** for machines whose steps can fail: from the invariant, a step that meets
`ok` keeps it, or fails in a way that meets `E`. -/
theorem runM_ends {step : σ → ι → Except ε σ} {ok : σ → ι → Prop} (Inv : σ → Prop) {E : ε → Prop}
    (hstep : ∀ s i, Inv s → ok s i → Ends E Inv (step s i)) {s : σ} {l : List ι} (hs : Inv s)
    (hl : AlongM step ok s l) : Ends E Inv (runM step s l) := by
  induction l generalizing s with
  | nil => exact hs
  | cons i l ih =>
    have h1 := hstep s i hs hl.1
    have h2 := hl.2
    show Ends E Inv (step s i >>= fun s' => runM step s' l)
    cases hi : step s i with
    | ok s' => exact ih (h1.ok hi) (h2.ok hi)
    | error e => exact h1.error hi

/-- the results are related, or the failures are the same -/
def EndsLike {α β : Type*} (R : α → β → Prop) : Except ε α → Except ε β → Prop
  | .ok a, .ok b => R a b
  | .error e, .error e' => e = e'
  | _, _ => False

theorem EndsLike.mono {α β : Type*} {R R' : α → β → Prop} {r : Except ε α} {r' : Except ε β}
    (h : EndsLike R r r') (hR : ∀ a b, R a b → R' a b) : EndsLike R' r r' := by
  cases r with
  | ok a =>
    cases r' with
    | ok b => exact hR a b h
    | error e => exact h.elim
  | error e =>
    cases r' with
    | ok b => exact h.elim
    | error e' => exact h

/-- what the one ends in and what the other ends in -/
theorem EndsLike.ends_iff {α β : Type*} {R : α → β → Prop} {E : ε → Prop} {P : α → Prop} {Q : β → Prop}
    {r : Except ε α} {r' : Except ε β} (h : EndsLike R r r') (hR : ∀ a b, R a b → (P a ↔ Q b)) :
    Ends E P r ↔ Ends E Q r' := by
  cases r with
  | ok a =>
    cases r' with
    | ok b => exact hR a b h
    | error e => exact h.elim
  | error e =>
    cases r' with
    | ok b => exact h.elim
    | error e' =>
      cases h
      exact Iff.rfl

theorem EndsLike.and {α β : Type*} {R R' : α → β → Prop} {r : Except ε α} {r' : Except ε β}
    (h : EndsLike R r r') (hR : ∀ a b, r = .ok a → r' = .ok b → R a b → R' a b) :
    EndsLike (fun a b => R a b ∧ R' a b) r r' := by
  cases r with
  | ok a =>
    cases r' with
    | ok b => exact ⟨h, hR a b rfl rfl h⟩
    | error e => exact h.elim
  | error e =>
    cases r' with
    | ok b => exact h.elim
    | error e' => exact h

theorem EndsLike.bind.{u, v} {ε : Type u} {α β γ δ : Type v} {R : α → β → Prop} {R' : γ → δ → Prop}
    {r : Except ε α} {r' : Except ε β} {f : α → Except ε γ} {f' : β → Except ε δ}
    (h : EndsLike R r r')
    (hf : ∀ a b, r = .ok a → r' = .ok b → R a b → EndsLike R' (f a) (f' b)) :
    EndsLike R' (r >>= f) (r' >>= f') := by
  cases r with
  | ok a =>
    cases r' with
    | ok b => exact hf a b rfl rfl h
    | error e => exact h.elim
  | error e =>
    cases r' with
    | ok b => exact h.elim
    | error e' => exact h

/-- related branches under tests that agree -/
theorem ite_rel {α β : Type*} {R : α → β → Prop} {c c' : Prop} [Decidable c] [Decidable c']
    {r q : α} {r' q' : β} (hc : c' ↔ c) (h : c → R r r') (h' : ¬ c → R q q') :
    R (if c then r else q) (if c' then r' else q') := by
  by_cases hp : c
  · rw [if_pos hp, if_pos (hc.mpr hp)]
    exact h hp
  · rw [if_neg hp, if_neg fun hq => hp (hc.mp hq)]
    exact h' hp

theorem EndsLike.ite {α β : Type*} {R : α → β → Prop} {c : Prop} [Decidable c] {r q : Except ε α}
    {r' q' : Except ε β} (h : c → EndsLike R r r') (h' : ¬ c → EndsLike R q q') :
    EndsLike R (if c then r else q) (if c then r' else q') := ite_rel Iff.rfl h h'

/-- **The simulation rule** for machines whose steps can fail. -/
theorem runM_sim {τ κ : Type*} {step : σ → ι → Except ε σ} {step' : τ → κ → Except ε τ} {f : ι → κ}
    {ok : σ → ι → Prop} {ok' : τ → κ → Prop} (R : σ → τ → Prop)
    (hstep : ∀ s t i, R s t → ok s i → ok' t (f i) → EndsLike R (step s i) (step' t (f i)))
    {s : σ} {t : τ} {l : List ι} (hst : R s t) (hl : AlongM step ok s l)
    (hl' : AlongM step' ok' t (l.map f)) : EndsLike R (runM step s l) (runM step' t (l.map f)) := by
  induction l generalizing s t with
  | nil => exact hst
  | cons i l ih =>
    have h := hstep s t i hst hl.1 hl'.1
    have h1 := hl.2
    have h2 := hl'.2
    show EndsLike R (step s i >>= fun s' => runM step s' l)
      (step' t (f i) >>= fun t' => runM step' t' (l.map f))
    cases hs : step s i with
    | ok s' =>
      cases ht : step' t (f i) with
      | ok t' =>
        rw [hs, ht] at h
        exact ih h (h1.ok hs) (h2.ok ht)
      | error e =>
        rw [hs, ht] at h
        exact h.elim
    | error e =>
      cases ht : step' t (f i) with
      | ok t' =>
        rw [hs, ht] at h
        exact h.elim
      | error e' =>
        rw [hs, ht] at h
        exact h

end

section
variable {ε : Type*}

/-- the log `l` grew to `l'` by entries that meet `P` -/
def Adds (P : ε → Prop) (l l' : List ε) : Prop := ∃ es, l' = l ++ es ∧ ∀ e ∈ es, P e

theorem Adds.refl (P : ε → Prop) (l : List ε) : Adds P l l := ⟨[], by simp⟩

theorem Adds.one {P : ε → Prop} (l : List ε) {e : ε} (he : P e) : Adds P l (l ++ [e]) :=
  ⟨[e], rfl, by simpa using he⟩

theorem Adds.trans {P : ε → Prop} {l l' l'' : List ε} (h : Adds P l l') (h' : Adds P l' l'') :
    Adds P l l'' := by
  obtain ⟨es, rfl, hes⟩ := h
  obtain ⟨es', rfl, hes'⟩ := h'
  refine ⟨es ++ es', by simp, ?_⟩
  intro e he
  rcases List.mem_append.mp he with he | he
  · exact hes e he
  · exact hes' e he

theorem Adds.mono {P Q : ε → Prop} (hPQ : ∀ e, P e → Q e) {l l' : List ε} (h : Adds P l l') :
    Adds Q l l' := by
  obtain ⟨es, rfl, hes⟩ := h
  exact ⟨es, rfl, fun e he => hPQ e (hes e he)⟩

/-- what was added is good -/
theorem Adds.drop {P : ε → Prop} {l l' : List ε} (h : Adds P l l') : ∀ e ∈ l'.drop l.length, P e := by
  obtain ⟨es, rfl, hes⟩ := h
  rwa [List.drop_left]

theorem Adds.length_le {P : ε → Prop} {l l' : List ε} (h : Adds P l l') :
    l.length ≤ l'.length := by
  obtain ⟨es, rfl, _⟩ := h
  rw [List.length_append]
  omega

/-- every entry of the log is good for the entries before it -/
def Audited (Good : List ε → ε → Prop) (log : List ε) : Prop :=
  ∀ pre e post, log = pre ++ e :: post → Good pre e

theorem audited_nil (Good : List ε → ε → Prop) : Audited Good [] := by
  intro pre e post h
  exact absurd h.symm (by simp)

theorem audited_snoc {Good : List ε → ε → Prop} {log : List ε} {e : ε} :
    Audited Good (log ++ [e]) ↔ Audited Good log ∧ Good log e := by
  constructor
  · intro h
    refine ⟨fun pre e' post hl => h pre e' (post ++ [e]) (by rw [hl]; simp), h log e [] rfl⟩
  · rintro ⟨hlog, he⟩ pre e' post hl
    rcases List.eq_nil_or_concat post with rfl | ⟨post', e'', rfl⟩
    · obtain ⟨rfl, h1⟩ := List.append_inj' hl rfl
      obtain rfl : e = e' := by simpa using h1
      exact he
    · refine hlog pre e' post' ?_
      have h1 : log ++ [e] = (pre ++ e' :: post') ++ [e''] := by rw [hl]; simp
      exact (List.append_inj' h1 rfl).1

end

end TunServer
