import Mathlib

/-!
# Watchdogs

A watchdog looks after a party that may have gone.  It sends to it, hears from it, and while there is
nothing to send it probes: each probe makes it wait for one more period.  Times are in any ordered
group.

* `Watchdog`     the marks of time, and how many periods are waited for;
* `Turn`         what a turn does that is made at the time `t`: it sends, it probes, or it waits;
* `Sound`        the marks are not ahead of the clock, and no probe came before its time;
* `Attended`     the time from the last sign of life to the last turn is within what is waited for;
* `Attended.behind_of_expired`   so if its turns come in time, it gives up only on a party that it sent
                 to behind a silence;
* `Overdue`      and behind a long silence it always gives up.
-/

set_option linter.unusedVariables false

namespace TunServer

/-- when something new was last sent, when the party was last heard, and how long a probe waits -/
structure Watchdog (G : Type*) where
  sent : G
  heard : G
  waits : ℕ
  period : G

namespace Watchdog

section
variable {G : Type*} [AddCommGroup G] [LinearOrder G] [IsOrderedAddMonoid G]

def send (w : Watchdog G) (t : G) : Watchdog G := { w with sent := t, waits := 1 }

def probe (w : Watchdog G) : Watchdog G := { w with waits := w.waits + 1 }

/-- the party is heard, which may change the period -/
def hear (w : Watchdog G) (t period : G) : Watchdog G := { w with heard := t, period := period }

/-- it is time for a probe -/
def Due (w : Watchdog G) (t : G) : Prop := w.waits • w.period < t - w.sent

/-- the party counts as gone, with a grace of `k` periods -/
def Expired (w : Watchdog G) (k : ℕ) (t : G) : Prop := (w.waits + k) • w.period < t - w.heard

inductive Turn (w : Watchdog G) (t : G) : Watchdog G → Prop where
  | sent : Turn w t (w.send t)
  | probed (h : w.Due t) : Turn w t w.probe
  | waited (h : ¬ w.Due t) : Turn w t w

/-- `least` is the shortest period, `last` the clock -/
structure Sound (least last : G) (w : Watchdog G) : Prop where
  period : least ≤ w.period
  sent : w.sent ≤ last
  heard : w.heard ≤ last
  waits : w.waits • least ≤ last - w.sent + least

/-- the last turn was made at `turned` -/
def Attended (w : Watchdog G) (turned : G) : Prop :=
  turned - max w.heard w.sent ≤ w.waits • w.period

/-- something new was sent behind a silence of more than `k` periods -/
def Behind (w : Watchdog G) (k : ℕ) : Prop := k • w.period < w.sent - w.heard

variable {w w' : Watchdog G} {least last t turned period : G} {k : ℕ}

/-! ## soundness -/

theorem Sound.later (h : Sound least last w) (ht : last ≤ t) : Sound least t w where
  period := h.period
  sent := h.sent.trans ht
  heard := h.heard.trans ht
  waits := h.waits.trans (by gcongr)

theorem Sound.hear (h : Sound least last w) (ht : last ≤ t) (hp : least ≤ period) :
    Sound least t (w.hear t period) where
  period := hp
  sent := h.sent.trans ht
  heard := le_refl t
  waits := (h.later ht).waits

theorem Sound.turn (h : Sound least last w) (ht : last ≤ t) (hw : Turn w t w') :
    Sound least t w' := by
  cases hw with
  | sent =>
    refine ⟨h.period, le_refl t, h.heard.trans ht, ?_⟩
    show 1 • least ≤ t - t + least
    rw [one_nsmul, sub_self, zero_add]
  | probed hdue =>
    refine ⟨h.period, h.sent.trans ht, h.heard.trans ht, ?_⟩
    have h1 : w.waits • least ≤ t - w.sent :=
      (nsmul_le_nsmul_right h.period w.waits).trans hdue.le
    show (w.waits + 1) • least ≤ t - w.sent + least
    rw [succ_nsmul]
    gcongr
  | waited => exact h.later ht

omit [IsOrderedAddMonoid G] in
theorem Turn.sent_eq (h : Turn w t w') : w'.sent = w.sent ∨ w'.sent = t := by
  cases h with
  | sent => exact .inr rfl
  | probed hdue => exact .inl rfl
  | waited hdue => exact .inl rfl

/-- A watchdog that has just sent does not probe. -/
theorem Turn.of_send (hperiod : 0 ≤ w.period) (h : Turn (w.send t) t w') : Turn w t w' := by
  cases h with
  | sent => exact .sent
  | probed hdue =>
    have h1 : 1 • w.period < t - t := hdue
    rw [sub_self] at h1
    exact absurd h1 (not_lt.mpr (nsmul_nonneg hperiod 1))
  | waited => exact .sent

/-! ## turns in time -/

theorem Attended.hear (hp : 0 ≤ period) (hturned : turned ≤ t) :
    (w.hear t period).Attended turned := by
  have h1 : turned - max t w.sent ≤ 0 := sub_nonpos.mpr (hturned.trans (le_max_left _ _))
  exact h1.trans (nsmul_nonneg hp _)

/-- A turn that comes within a period of the last one. -/
theorem Attended.turn (h : w.Attended turned) (hperiod : 0 ≤ w.period)
    (hprompt : t - turned ≤ w.period) (hw : Turn w t w') : w'.Attended t := by
  unfold Attended at h ⊢
  cases hw with
  | sent =>
    have h1 : t - max w.heard t ≤ 0 := sub_nonpos.mpr (le_max_right _ _)
    exact h1.trans (nsmul_nonneg hperiod _)
  | probed hdue =>
    calc t - max w.heard w.sent = (turned - max w.heard w.sent) + (t - turned) := by abel
      _ ≤ w.waits • w.period + w.period := add_le_add h hprompt
      _ = (w.waits + 1) • w.period := (succ_nsmul _ _).symm
  | waited hdue =>
    have h1 : t - w.sent ≤ w.waits • w.period := not_lt.mp hdue
    exact (sub_le_sub_left (le_max_right _ _) t).trans h1

/-- **A watchdog whose turns come in time gives up only on a party that something new was sent to
behind a silence.** -/
theorem Attended.behind_of_expired (h : w.Attended turned) (hperiod : 0 ≤ w.period)
    (hprompt : t - turned ≤ w.period) (hexpired : w.Expired (k + 1) t) : w.Behind k := by
  unfold Attended at h
  unfold Expired at hexpired
  rw [add_nsmul, succ_nsmul] at hexpired
  have h1 : t - max w.heard w.sent ≤ w.waits • w.period + w.period := by
    calc t - max w.heard w.sent = (turned - max w.heard w.sent) + (t - turned) := by abel
      _ ≤ _ := add_le_add h hprompt
  have h2 : k • w.period < max w.heard w.sent - w.heard := by
    have h3 : w.waits • w.period + (k • w.period + w.period) <
        w.waits • w.period + w.period + (max w.heard w.sent - w.heard) := by
      calc w.waits • w.period + (k • w.period + w.period) < t - w.heard := hexpired
        _ = (t - max w.heard w.sent) + (max w.heard w.sent - w.heard) := by abel
        _ ≤ _ := by gcongr
    rw [add_comm (k • w.period), ← add_assoc] at h3
    exact lt_of_add_lt_add_left h3
  rcases le_total w.sent w.heard with hle | hle
  · rw [max_eq_left hle, sub_self] at h2
    exact absurd h2 (not_lt.mpr (nsmul_nonneg hperiod k))
  · rwa [max_eq_right hle] at h2

/-! ## behind a silence -/

/-- What was sent behind a long silence has expired already. -/
def Overdue (w : Watchdog G) (k : ℕ) (last : G) : Prop := w.Behind (k + 1) → w.Expired k last

theorem Overdue.later (h : w.Overdue k last) (ht : last ≤ t) : w.Overdue k t :=
  fun hb => (h hb).trans_le (by gcongr)

theorem Overdue.hear (hsound : Sound least last w) (hp : 0 ≤ period) (ht : last ≤ t) :
    (w.hear t period).Overdue k t := by
  intro hb
  have h1 : w.sent - t ≤ 0 := sub_nonpos.mpr (hsound.sent.trans ht)
  exact absurd hb (not_lt.mpr (h1.trans (nsmul_nonneg hp _)))

theorem Overdue.turn (h : w.Overdue k last) (ht : last ≤ t) (hw : Turn w t w') : w'.Overdue k t := by
  cases hw with
  | sent =>
    intro hb
    show (1 + k) • w.period < t - w.heard
    rw [add_comm]
    exact hb
  | probed hdue =>
    intro hb
    have h1 : (k + 1) • w.period < w.sent - w.heard := hb
    show (w.waits + 1 + k) • w.period < t - w.heard
    calc (w.waits + 1 + k) • w.period = w.waits • w.period + (k + 1) • w.period := by
          rw [← add_nsmul]
          congr 1
          omega
      _ < (t - w.sent) + (w.sent - w.heard) := add_lt_add hdue h1
      _ = t - w.heard := by abel
  | waited => exact h.later ht

end

end Watchdog

end TunServer
