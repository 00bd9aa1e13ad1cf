import TunServer.Base.Run

/-!
# Refinement of an abstract machine

An abstract machine is a partial function `next : α → κ → Option α`: the state behind a label, where
the label is allowed.  An observer sees of a label what `shows` tells.

* `path next a ls`   the state behind the labels `ls`, if each of them is allowed where it stands;
* `Explained`        labels of the abstract machine lead from one state to another and show what was seen;
* `run_explained`    a run is explained when its steps are;
* `Explained.ledger`     what the labels keep with what they show, an explained run keeps with what was seen.
-/

set_option linter.unusedVariables false

namespace TunServer

section
variable {α κ ο : Type*}

/-- the state behind the labels, if they are allowed -/
def path (next : α → κ → Option α) : α → List κ → Option α
  | a, [] => some a
  | a, l :: ls => (next a l).bind fun b => path next b ls

theorem path_cons (next : α → κ → Option α) (a : α) (l : κ) (ls : List κ) :
    path next a (l :: ls) = (next a l).bind fun b => path next b ls := rfl

theorem path_append (next : α → κ → Option α) (a : α) (ls ls' : List κ) :
    path next a (ls ++ ls') = (path next a ls).bind fun b => path next b ls' := by
  induction ls generalizing a with
  | nil => rfl
  | cons l ls ih =>
    rw [List.cons_append, path_cons, path_cons, Option.bind_assoc]
    congr 1
    funext b
    exact ih b

/-- Labels that meet `ok` lead from `a` to `b`, and show `seen`. -/
def Explained (next : α → κ → Option α) (shows : κ → List ο) (ok : κ → Prop) (a : α) (seen : List ο)
    (b : α) : Prop :=
  ∃ ls, path next a ls = some b ∧ ls.flatMap shows = seen ∧ ∀ l ∈ ls, ok l

variable {next : α → κ → Option α} {shows : κ → List ο} {ok ok' : κ → Prop} {a b c : α}
  {seen seen' : List ο}

theorem Explained.refl (next : α → κ → Option α) (shows : κ → List ο) (ok : κ → Prop) (a : α) :
    Explained next shows ok a [] a :=
  ⟨[], rfl, rfl, by simp⟩

theorem Explained.one {l : κ} (h : next a l = some b) (hok : ok l) :
    Explained next shows ok a (shows l) b := by
  refine ⟨[l], ?_, ?_, ?_⟩
  · show (next a l).bind _ = _
    rw [h]
    rfl
  · rw [List.flatMap_cons, List.flatMap_nil, List.append_nil]
  · intro l' hl'
    rw [List.mem_singleton.mp hl']
    exact hok

theorem Explained.trans (h : Explained next shows ok a seen b)
    (h' : Explained next shows ok b seen' c) : Explained next shows ok a (seen ++ seen') c := by
  obtain ⟨ls, h1, h2, h3⟩ := h
  obtain ⟨ls', k1, k2, k3⟩ := h'
  refine ⟨ls ++ ls', ?_, ?_, ?_⟩
  · rw [path_append, h1]
    exact k1
  · rw [List.flatMap_append, h2, k2]
  · intro l hl
    rcases List.mem_append.mp hl with hl | hl
    · exact h3 l hl
    · exact k3 l hl

theorem Explained.mono (h : Explained next shows ok a seen b) (hok : ∀ l, ok l → ok' l) :
    Explained next shows ok' a seen b := by
  obtain ⟨ls, h1, h2, h3⟩ := h
  exact ⟨ls, h1, h2, fun l hl => hok l (h3 l hl)⟩

theorem Explained.congr_right (h : Explained next shows ok a seen b) (hc : b = c) :
    Explained next shows ok a seen c := hc ▸ h

/-- **What the labels keep together with what they show**, an explained run keeps with what was seen. -/
theorem Explained.ledger {Inv : α → List ο → Prop}
    (hstep : ∀ a l b os, Inv a os → ok l → next a l = some b → Inv b (os ++ shows l))
    (h : Explained next shows ok a seen b) {os : List ο} (ha : Inv a os) : Inv b (os ++ seen) := by
  obtain ⟨ls, h1, rfl, h3⟩ := h
  induction ls generalizing a os with
  | nil =>
    cases h1
    rwa [List.flatMap_nil, List.append_nil]
  | cons l ls ih =>
    obtain ⟨a', h2, h4⟩ := Option.bind_eq_some_iff.mp h1
    have h5 := ih (hstep a l a' os ha (h3 l List.mem_cons_self) h2) h4
      fun l' hl' => h3 l' (List.mem_cons_of_mem _ hl')
    rwa [List.append_assoc, ← List.flatMap_cons] at h5

end

/-- **The refinement rule**: `abs` reads off the abstract state, `seen` what was seen so far. -/
theorem run_explained {σ ι α κ ο : Type*} {step : σ → ι → σ} {okStep : σ → ι → Prop}
    {next : α → κ → Option α} {shows : κ → List ο} {ok : κ → Prop} (abs : σ → α) (seen : σ → List ο)
    (Inv : σ → Prop)
    (hinv : ∀ s i, Inv s → okStep s i → Inv (step s i))
    (hstep : ∀ s i, Inv s → okStep s i →
      ∃ os, seen (step s i) = seen s ++ os ∧ Explained next shows ok (abs s) os (abs (step s i)))
    {s : σ} {l : List ι} (hs : Inv s) (hl : Along step okStep s l) :
    ∃ os, seen (run step s l) = seen s ++ os ∧
      Explained next shows ok (abs s) os (abs (run step s l)) := by
  induction l generalizing s with
  | nil => exact ⟨[], (List.append_nil _).symm, Explained.refl _ _ _ _⟩
  | cons i l ih =>
    obtain ⟨os, h1, h2⟩ := hstep s i hs hl.1
    obtain ⟨os', h3, h4⟩ := ih (hinv s i hs hl.1) hl.2
    refine ⟨os ++ os', ?_, h2.trans h4⟩
    rw [run_cons, h3, h1, List.append_assoc]

end TunServer
