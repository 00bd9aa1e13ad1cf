import TunServer.Base.Memory
import TunServer.Base.Word

/-!
# The response of a STUN server

`PerformStunRequest` sends a request and walks over the attributes of the response, of which one has the
address that the server has seen.  Fields of more than one byte are kept as the numbers that `htons`
makes of them.

* `byteAt`, `shortAt`   reads of `attributes_`, which has 1000 bytes;
* `walk`                the loop over the attributes;
* `performStunRequest`  what is returned, and what is stored in the caller's `ip_and_port`;
* `Visits`              the places the loop comes to;
* `walk_ok`, `walk_outside`   the loop ends, within the attributes if all these places are.
-/

set_option linter.unusedVariables false

namespace TunServer.Stun

def kBindingResponse : U16 := 0x0101
def kXorMappedAddress : U16 := 0x0020

/-- a read outside `attributes_`, or a loop that has not ended when the fuel has -/
inductive Fault where
  | outside
  | unfinished
  deriving DecidableEq, Repr

structure StunResponse where
  stun_message_type_ : U16
  message_length_ : U16
  transaction_id_ : List Byte
  attributes_ : Mem Byte

/-- The text `ip_` is made of the four numbers in `octets`, each with a dot behind it.  `port_` is
signed. -/
structure IPAndPort where
  octets : List Byte
  port_ : Int16
  deriving DecidableEq, Repr

def IPAndPort.ip_ (p : IPAndPort) : String :=
  p.octets.foldl (fun s o => s ++ toString o.toNat ++ ".") ""

example : (IPAndPort.mk [10, 0, 0, 7] 4321).ip_ = "10.0.0.7." := by decide

def attributesSize : Nat := 1000

def byteAt (a : Mem Byte) (i : Nat) : Except Fault Byte :=
  if i < attributesSize then .ok (a i) else .error .outside

/-- `htons(*(int16_t *) (&attributes[i]))` -/
def shortAt (a : Mem Byte) (i : Nat) : Except Fault U16 := do
  let high ← byteAt a i
  let low ← byteAt a (i + 1)
  return high ++ low

/-- what is read of the attribute that is looked for -/
def readMapped (attributes : Mem Byte) (i : Nat) : Except Fault IPAndPort := do
  let port ← shortAt attributes (i + 6)
  let o0 ← byteAt attributes (i + 8)
  let o1 ← byteAt attributes (i + 9)
  let o2 ← byteAt attributes (i + 10)
  let o3 ← byteAt attributes (i + 11)
  return ⟨[o0 ^^^ 0x21, o1 ^^^ 0x12, o2 ^^^ 0xA4, o3 ^^^ 0x42], .ofBitVec (port ^^^ 0x2112)⟩

/-- The loop; `fuel` bounds its turns. -/
def walk (attributes : Mem Byte) (attributes_length : Int) : Nat → Nat → Except Fault (Option IPAndPort)
  | 0, _ => .error .unfinished
  | fuel + 1, i =>
    if (i : Int) < attributes_length then do
      let attribute_type ← shortAt attributes i
      let attribute_length ← shortAt attributes (i + 2)
      if attribute_type = kXorMappedAddress then do
        let found ← readMapped attributes i
        return some found
      else walk attributes attributes_length fuel (i + (4 + attribute_length.toNat))
    else return none

/-- `std::min<int16_t>` takes the length as a signed number. -/
def attributesLength (r : StunResponse) : Int := min r.message_length_.toInt 1000

/-- `stored` is what the caller's `ip_and_port` is set to; `none` leaves it as it was. -/
structure Outcome where
  success : Bool
  stored : Option IPAndPort
  deriving DecidableEq, Repr

/-- how the calls of the socket end, with what `stun_response` holds then -/
structure Exchange where
  bound : Bool
  sent : Bool
  received : Option StunResponse

def performStunRequest (transaction_id_ : List Byte) (x : Exchange) : Except Fault Outcome :=
  if x.bound = false then .ok ⟨false, none⟩
  else if x.sent = false then .ok ⟨false, none⟩
  else
    match x.received with
    | none => .ok ⟨false, none⟩
    | some r =>
      if r.transaction_id_ = transaction_id_ then
        if r.stun_message_type_ ≠ kBindingResponse then .ok ⟨false, none⟩
        else do
          let stored ← walk r.attributes_ (attributesLength r) attributesSize 0
          return ⟨true, stored⟩
      else .ok ⟨false, none⟩

/-! ## where the loop comes -/

section
variable (a : Mem Byte) (length : Int)

/-- the 16 bit number at a place -/
def short (i : Nat) : U16 := a i ++ a (i + 1)

/-- the address and the port that the loop would take from a place -/
def mappedAt (i : Nat) : IPAndPort :=
  ⟨[a (i + 8) ^^^ 0x21, a (i + 9) ^^^ 0x12, a (i + 10) ^^^ 0xA4, a (i + 11) ^^^ 0x42],
    .ofBitVec (short a (i + 6) ^^^ 0x2112)⟩

/-- The loop comes from `i` to `j`, if headers stand there that are each directly behind the value of
the one before. -/
inductive Visits : Nat → Nat → Prop
  | here {i : Nat} (hi : (i : Int) < length) : Visits i i
  | next {i j : Nat} (hi : (i : Int) < length) (htype : short a i ≠ kXorMappedAddress)
      (hj : Visits (i + (4 + (short a (i + 2)).toNat)) j) : Visits i j

/-- what is read at `j` is within the attributes -/
def Inside (j : Nat) : Prop :=
  j + 4 ≤ attributesSize ∧ (short a j = kXorMappedAddress → j + 12 ≤ attributesSize)

/-- the loop finds `p` at `j` -/
def FoundAt (i j : Nat) (p : IPAndPort) : Prop :=
  Visits a length i j ∧ short a j = kXorMappedAddress ∧ mappedAt a j = p

theorem byteAt_lt {i : Nat} (h : i < attributesSize) : byteAt a i = .ok (a i) := if_pos h

theorem byteAt_ge {i : Nat} (h : attributesSize ≤ i) : byteAt a i = .error .outside :=
  if_neg (Nat.not_lt.mpr h)

theorem shortAt_lt {i : Nat} (h : i + 1 < attributesSize) : shortAt a i = .ok (short a i) := by
  unfold shortAt
  rw [byteAt_lt a (Nat.lt_of_succ_lt h), byteAt_lt a h]
  rfl

/-- a read that comes before one outside -/
theorem byteAt_bind {α : Type} {f : Byte → Except Fault α} (i : Nat) (h : ∀ b, f b = .error .outside) :
    (byteAt a i >>= f) = .error .outside := by
  unfold byteAt
  split_ifs
  · exact h (a i)
  · rfl

theorem shortAt_bind {α : Type} {f : U16 → Except Fault α} (i : Nat) (h : ∀ n, f n = .error .outside) :
    (shortAt a i >>= f) = .error .outside := by
  unfold shortAt
  rw [bind_assoc]
  refine byteAt_bind a i fun high => ?_
  rw [bind_assoc]
  exact byteAt_bind a (i + 1) fun low => h _

theorem shortAt_ge {i : Nat} (h : attributesSize ≤ i + 1) : shortAt a i = .error .outside := by
  unfold shortAt
  refine byteAt_bind a i fun high => ?_
  rw [byteAt_ge a h]
  rfl

theorem readMapped_lt {i : Nat} (h : i + 12 ≤ attributesSize) : readMapped a i = .ok (mappedAt a i) := by
  unfold readMapped
  rw [shortAt_lt a (by omega), byteAt_lt a (by omega), byteAt_lt a (by omega), byteAt_lt a (by omega),
    byteAt_lt a (by omega)]
  rfl

theorem readMapped_ge {i : Nat} (h : attributesSize < i + 12) : readMapped a i = .error .outside := by
  unfold readMapped
  refine shortAt_bind a _ fun port => byteAt_bind a _ fun o0 => byteAt_bind a _ fun o1 =>
    byteAt_bind a _ fun o2 => ?_
  rw [byteAt_ge a (Nat.le_of_lt_succ h)]
  rfl

variable {a length}

theorem Visits.head {i j : Nat} (h : Visits a length i j) : (i : Int) < length := by
  cases h with
  | here hi => exact hi
  | next hi htype hj => exact hi

/-- the loop goes forward -/
theorem Visits.le {i j : Nat} (h : Visits a length i j) : i ≤ j := by
  induction h with
  | here hi => exact le_refl _
  | next hi htype hj ih => omega

/-- where an address is found the loop is over -/
theorem Visits.stop {i j : Nat} (h : Visits a length i j) (htype : short a i = kXorMappedAddress) :
    j = i := by
  cases h with
  | here hi => rfl
  | next hi hno hj => exact absurd htype hno

/-- a place that the loop has passed, and the next one -/
theorem visits_next {i j : Nat} (hi : (i : Int) < length) (htype : short a i ≠ kXorMappedAddress) :
    Visits a length i j ↔ j = i ∨ Visits a length (i + (4 + (short a (i + 2)).toNat)) j := by
  constructor
  · intro h
    cases h with
    | here hi => exact .inl rfl
    | next hi htype hj => exact .inr hj
  · rintro (rfl | h)
    · exact .here hi
    · exact .next hi htype h

theorem walk_end {fuel i : Nat} (hi : ¬ (i : Int) < length) : walk a length (fuel + 1) i = .ok none := by
  unfold walk
  exact if_neg hi

theorem walk_next {fuel i : Nat} (hi : (i : Int) < length) (hin : i + 4 ≤ attributesSize)
    (htype : short a i ≠ kXorMappedAddress) :
    walk a length (fuel + 1) i = walk a length fuel (i + (4 + (short a (i + 2)).toNat)) := by
  rw [walk, if_pos hi, shortAt_lt a (by omega), shortAt_lt a (by omega)]
  exact if_neg htype

theorem walk_found {fuel i : Nat} (hi : (i : Int) < length) (hin : i + 12 ≤ attributesSize)
    (htype : short a i = kXorMappedAddress) :
    walk a length (fuel + 1) i = .ok (some (mappedAt a i)) := by
  rw [walk, if_pos hi, shortAt_lt a (by omega), shortAt_lt a (by omega), readMapped_lt a hin]
  exact if_pos htype

/-- the reads of a turn that are not inside -/
theorem walk_leaves {fuel i : Nat} (hi : (i : Int) < length) (hout : ¬ Inside a i) :
    walk a length (fuel + 1) i = .error .outside := by
  rw [walk, if_pos hi]
  by_cases hin : i + 4 ≤ attributesSize
  · have htype : short a i = kXorMappedAddress := by
      by_contra h
      exact hout ⟨hin, fun h' => absurd h' h⟩
    have hfar : attributesSize < i + 12 := by
      by_contra h
      exact hout ⟨hin, fun _ => Nat.not_lt.mp h⟩
    rw [shortAt_lt a (by omega), shortAt_lt a (by omega), readMapped_ge a hfar]
    exact if_pos htype
  · refine shortAt_bind a i fun type => ?_
    rw [shortAt_ge a (by omega)]
    rfl

/-- **The loop ends with what it finds** if all the places it comes to are inside. -/
theorem walk_ok {fuel i : Nat} (hfuel : length ≤ i + 4 * fuel)
    (hin : ∀ j, Visits a length i j → Inside a j) :
    ∃ o, walk a length (fuel + 1) i = .ok o ∧ ∀ p, o = some p ↔ ∃ j, FoundAt a length i j p := by
  induction fuel generalizing i with
  | zero =>
    have hend : ¬ (i : Int) < length := by omega
    exact ⟨none, walk_end hend, fun p => ⟨fun h => (by cases h), fun ⟨j, hj⟩ => absurd hj.1.head hend⟩⟩
  | succ fuel ih =>
    by_cases hi : (i : Int) < length
    · obtain ⟨hin4, hin12⟩ := hin i (.here hi)
      by_cases htype : short a i = kXorMappedAddress
      · refine ⟨some (mappedAt a i), walk_found hi (hin12 htype) htype, fun p => ⟨fun h => ?_, ?_⟩⟩
        · exact ⟨i, .here hi, htype, Option.some.inj h⟩
        · rintro ⟨j, hvisit, hj, hp⟩
          rw [hvisit.stop htype] at hp
          exact congrArg some hp
      · obtain ⟨o, ho, hfound⟩ := @ih (i + (4 + (short a (i + 2)).toNat)) (by omega)
          fun j hj => hin j (.next hi htype hj)
        refine ⟨o, ?_, fun p => (hfound p).trans ⟨?_, ?_⟩⟩
        · rw [walk_next hi hin4 htype]
          exact ho
        · rintro ⟨j, hvisit, hj⟩
          exact ⟨j, .next hi htype hvisit, hj⟩
        · rintro ⟨j, hvisit, hj, hp⟩
          rcases (visits_next hi htype).mp hvisit with rfl | hvisit
          · exact absurd hj htype
          · exact ⟨j, hvisit, hj, hp⟩
    · exact ⟨none, walk_end hi, fun p => ⟨fun h => (by cases h), fun ⟨j, hj⟩ => absurd hj.1.head hi⟩⟩

/-- **The loop reads outside the attributes** if it comes to a place that is not inside. -/
theorem walk_outside {fuel i j : Nat} (hfuel : length ≤ i + 4 * fuel) (hj : Visits a length i j)
    (hout : ¬ Inside a j) : walk a length (fuel + 1) i = .error .outside := by
  induction fuel generalizing i with
  | zero =>
    have hi := hj.head
    omega
  | succ fuel ih =>
    have hi := hj.head
    by_cases hin : Inside a i
    · have htype : short a i ≠ kXorMappedAddress := by
        intro htype
        exact hout (hj.stop htype ▸ hin)
      rw [walk_next hi hin.1 htype]
      rcases (visits_next hi htype).mp hj with rfl | hj
      · exact absurd hin hout
      · exact ih (by omega) hj
    · exact walk_leaves hi hin

end

end TunServer.Stun
