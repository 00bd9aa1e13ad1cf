import TunServer.Base.Refine

/-!
# Pipes, and the relay made of two

A pipe takes what is put into it at one end and gives it away at the other, in order, and holds at most
`room` at a time.  Its writer may be done; its reader is told so after everything was taken.

* `Pipe`, `Pipe.next`    a pipe and what it allows;
* `Relay`, `Relay.next`  one pipe each way between two parties, while they are connected;
* `Pipe.next_told`       a reader that was told gets nothing any more.
-/

set_option linter.unusedVariables false

namespace TunServer

variable {β : Type*} [DecidableEq β]

structure Pipe (β : Type*) where
  content : List β
  /-- the writer is done -/
  ended : Bool
  /-- the reader was told -/
  told : Bool
  deriving DecidableEq, Repr

namespace Pipe

def empty : Pipe β := ⟨[], false, false⟩

inductive Label (β : Type*) where
  | put (bs : List β)
  | finish
  | take (bs : List β)
  | tell
  deriving DecidableEq, Repr

/-- what a pipe with room for `room` allows -/
def next (room : Nat) (p : Pipe β) : Label β → Option (Pipe β)
  | .put bs =>
    if p.ended = false ∧ p.content.length + bs.length ≤ room then
      some { p with content := p.content ++ bs }
    else none
  | .finish => if p.ended = false then some { p with ended := true } else none
  | .take bs =>
    if p.told = false ∧ bs <+: p.content then some { p with content := p.content.drop bs.length }
    else none
  | .tell =>
    if p.told = false ∧ p.ended = true ∧ p.content = [] then some { p with told := true } else none

/-- nothing is left to be taken, nor will be -/
def drained (p : Pipe β) : Prop := p.ended = true ∧ p.content = []

instance (p : Pipe β) : Decidable p.drained := inferInstanceAs (Decidable (_ ∧ _))

section
variable {room : Nat} {p p' : Pipe β} {bs : List β} {l : Label β}

theorem next_put (h : p.ended = false) (hr : p.content.length + bs.length ≤ room) :
    next room p (.put bs) = some { p with content := p.content ++ bs } := if_pos ⟨h, hr⟩

theorem next_finish (h : p.ended = false) :
    next room p .finish = some { p with ended := true } := if_pos h

/-- taking the first `n` that are held -/
theorem next_take (h : p.told = false) (n : Nat) :
    next room p (.take (p.content.take n)) = some { p with content := p.content.drop n } := by
  have h1 : next room p (.take (p.content.take n)) =
      some { p with content := p.content.drop (p.content.take n).length } :=
    if_pos ⟨h, List.take_prefix _ _⟩
  rw [h1, List.length_take]
  rcases Nat.le_total n p.content.length with h2 | h2
  · rw [min_eq_left h2]
  · rw [min_eq_right h2, List.drop_length, List.drop_of_length_le h2]

theorem next_tell (h : p.told = false) (hd : p.drained) :
    next room p .tell = some { p with told := true } := if_pos ⟨h, hd⟩

/-- A reader that was told has taken everything, takes nothing more and is not told again. -/
theorem next_told (hp : p.told = true → p.drained) (h : next room p l = some p') :
    (p'.told = true → p'.drained) ∧ (p.told = true → p'.told = true ∧ l ≠ .tell ∧ ∀ bs, l ≠ .take bs) := by
  cases l with
  | put bs =>
    obtain ⟨⟨h1, _⟩, h2⟩ := Option.ite_none_right_eq_some.mp h
    cases h2
    refine ⟨fun ht => ?_, fun ht => ?_⟩
    · exact absurd (h1.symm.trans (hp ht).1) (by decide)
    · exact absurd (h1.symm.trans (hp ht).1) (by decide)
  | finish =>
    obtain ⟨h1, h2⟩ := Option.ite_none_right_eq_some.mp h
    cases h2
    refine ⟨fun ht => ?_, fun ht => ?_⟩
    · exact absurd (h1.symm.trans (hp ht).1) (by decide)
    · exact absurd (h1.symm.trans (hp ht).1) (by decide)
  | take bs =>
    obtain ⟨⟨h1, _⟩, h2⟩ := Option.ite_none_right_eq_some.mp h
    cases h2
    exact ⟨fun ht => absurd (h1.symm.trans ht) (by decide),
      fun ht => absurd (h1.symm.trans ht) (by decide)⟩
  | tell =>
    obtain ⟨⟨h1, h3⟩, h2⟩ := Option.ite_none_right_eq_some.mp h
    cases h2
    exact ⟨fun _ => h3, fun ht => absurd (h1.symm.trans ht) (by decide)⟩

end

end Pipe

/-- two parties that are connected, with a pipe each way, or not connected -/
abbrev Relay (β : Type*) := Option (Pipe β × Pipe β)

namespace Relay

inductive Label (β : Type*) where
  | connect
  | up (l : Pipe.Label β)
  | down (l : Pipe.Label β)
  /-- both streams are at their end -/
  | leave
  /-- whatever there is of the streams is cut off -/
  | abort
  deriving DecidableEq, Repr

def next (room : Nat) : Relay β → Label β → Option (Relay β)
  | none, .connect => some (some (.empty, .empty))
  | some (u, d), .up l => (u.next room l).map fun u' => some (u', d)
  | some (u, d), .down l => (d.next room l).map fun d' => some (u, d')
  | some (u, d), .leave => if u.drained ∧ d.drained then some none else none
  | _, .abort => some none
  | _, _ => none

section
variable {room : Nat} {u d u' d' : Pipe β}

theorem next_up {l : Pipe.Label β} (h : u.next room l = some u') :
    next room (some (u, d)) (.up l) = some (some (u', d)) := by
  show (u.next room l).map _ = _
  rw [h]
  rfl

theorem next_down {l : Pipe.Label β} (h : d.next room l = some d') :
    next room (some (u, d)) (.down l) = some (some (u, d')) := by
  show (d.next room l).map _ = _
  rw [h]
  rfl

theorem next_leave (hu : u.drained) (hd : d.drained) :
    next room (some (u, d)) .leave = some none := if_pos ⟨hu, hd⟩

theorem next_abort (r : Relay β) : next room r .abort = some none := by
  cases r <;> rfl

end

end Relay

end TunServer
