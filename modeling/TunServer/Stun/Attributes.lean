import TunServer.Stun.Response

/-!
# What a response says, and what is taken from it

The attributes of a message are padded to multiples of four bytes, which the loop does not skip; and
a port is stored as a signed number.

* `Attribute`, `encode`   the attributes as they are sent, `encode_injective`;
* `mapped`      the address of an attribute that has one, the inverse of `xorMappedAddress`;
* `Carries`     a response has these attributes;
* `Parses`      the loop stays inside, and a message with attributes gives the first address in them;
* `KeepsTrack`  the loop goes from attribute to attribute;
* `Plain`       no attribute in front of the address needs padding, and the port is small;
* `parses_iff`  the responses that are parsed on track;
* `parses_astray`  off track the address may be met by accident.
-/

set_option linter.unusedVariables false

namespace TunServer.Stun

/-! ## messages -/

def high (n : U16) : Byte := n.extractLsb' 8 8

def low (n : U16) : Byte := n.extractLsb' 0 8

theorem high_low (n : U16) : high n ++ low n = n := by
  unfold high low
  ext i hi
  rw [BitVec.getElem_append]
  split_ifs with h
  · rw [BitVec.getElem_extractLsb', Nat.zero_add, BitVec.getElem_eq_testBit_toNat]
    rfl
  · rw [BitVec.getElem_extractLsb', Nat.add_sub_cancel' (Nat.not_lt.mp h),
      BitVec.getElem_eq_testBit_toNat]
    rfl

/-- an attribute; `padding` may be any bytes up to the next multiple of four -/
structure Attribute where
  type : U16
  value : List Byte
  padding : List Byte
  fits : value.length < 2 ^ 16
  padded : padding.length = (4 - value.length % 4) % 4

def Attribute.bytes (x : Attribute) : List Byte :=
  high x.type :: low x.type :: high (BitVec.ofNat 16 x.value.length) ::
    low (BitVec.ofNat 16 x.value.length) :: (x.value ++ x.padding)

def encode (xs : List Attribute) : List Byte := xs.flatMap Attribute.bytes

theorem Attribute.bytes_length (x : Attribute) :
    x.bytes.length = x.value.length + x.padding.length + 4 := by
  unfold Attribute.bytes
  rw [List.length_cons, List.length_cons, List.length_cons, List.length_cons, List.length_append]

theorem high_low_inj {n n' : U16} (h : high n = high n') (h' : low n = low n') : n = n' := by
  rw [← high_low n, ← high_low n', h, h']

/-- an attribute is told from what is behind it -/
theorem Attribute.bytes_inj {x x' : Attribute} {l l' : List Byte} (h : x.bytes ++ l = x'.bytes ++ l') :
    x = x' ∧ l = l' := by
  obtain ⟨t, v, p, hfit, hpad⟩ := x
  obtain ⟨t', v', p', hfit', hpad'⟩ := x'
  obtain ⟨h0, h⟩ := List.cons.inj h
  obtain ⟨h1, h⟩ := List.cons.inj h
  obtain ⟨h2, h⟩ := List.cons.inj h
  obtain ⟨h3, h⟩ := List.cons.inj h
  dsimp only at h0 h1 h2 h3
  have ht : t = t' := high_low_inj h0 h1
  have hn : BitVec.ofNat 16 v.length = BitVec.ofNat 16 v'.length := high_low_inj h2 h3
  have hlen : v.length = v'.length := by
    have hnat := congrArg BitVec.toNat hn
    rwa [BitVec.toNat_ofNat, BitVec.toNat_ofNat, Nat.mod_eq_of_lt hfit, Nat.mod_eq_of_lt hfit'] at hnat
  have hplen : p.length = p'.length := by rw [hpad, hpad', hlen]
  have h : (v ++ p) ++ l = (v' ++ p') ++ l' := h
  rw [List.append_assoc, List.append_assoc] at h
  obtain ⟨hv, h⟩ := List.append_inj h hlen
  obtain ⟨hp, hl⟩ := List.append_inj h hplen
  subst ht hv hp
  exact ⟨rfl, hl⟩

/-- **A message has the attributes of one list only.** -/
theorem encode_injective : Function.Injective encode := by
  intro xs
  induction xs with
  | nil =>
    intro xs' h
    cases xs' with
    | nil => rfl
    | cons x' xs' => cases h
  | cons x xs ih =>
    intro xs' h
    cases xs' with
    | nil => cases h
    | cons x' xs' =>
      obtain ⟨rfl, hrest⟩ := Attribute.bytes_inj h
      rw [ih hrest]

/-- the address that a server tells -/
structure Address where
  octets : List Byte
  port : U16
  deriving DecidableEq, Repr

/-- What is stored is this address. -/
def IPAndPort.Holds (q : IPAndPort) (p : Address) : Prop :=
  q.octets = p.octets ∧ q.port_.toInt = p.port.toNat

instance (q : IPAndPort) (p : Address) : Decidable (q.Holds p) := inferInstanceAs (Decidable (_ ∧ _))

/-- the address in an attribute, if it is an IPv4 one -/
def mapped (x : Attribute) : Option Address :=
  if x.type = kXorMappedAddress then
    match x.value with
    | [_, family, p0, p1, o0, o1, o2, o3] =>
      if family = 1 then
        some ⟨[o0 ^^^ 0x21, o1 ^^^ 0x12, o2 ^^^ 0xA4, o3 ^^^ 0x42], (p0 ++ p1) ^^^ 0x2112⟩
      else none
    | _ => none
  else none

theorem fits_of {v : List Byte} (n : Nat) (hv : v.length = n) (h : n < 2 ^ 16) :
    v.length < 2 ^ 16 := by
  rw [hv]
  exact h

theorem padded_of {v p : List Byte} (n k : Nat) (hv : v.length = n) (hp : p.length = k)
    (h : k = (4 - n % 4) % 4) : p.length = (4 - v.length % 4) % 4 := by
  rw [hv, hp]
  exact h

/-- how a server encodes an address -/
def xorMappedAddress (port : U16) (o0 o1 o2 o3 : Byte) : Attribute where
  type := kXorMappedAddress
  value := [0, 1, high (port ^^^ 0x2112), low (port ^^^ 0x2112),
    o0 ^^^ 0x21, o1 ^^^ 0x12, o2 ^^^ 0xA4, o3 ^^^ 0x42]
  padding := []
  fits := fits_of 8 rfl (Nat.le_of_ble_eq_true rfl)
  padded := padded_of 8 0 rfl rfl rfl

theorem mapped_xorMappedAddress (port : U16) (o0 o1 o2 o3 : Byte) :
    mapped (xorMappedAddress port o0 o1 o2 o3) = some ⟨[o0, o1, o2, o3], port⟩ := by
  unfold mapped xorMappedAddress
  dsimp only
  rw [if_pos rfl, if_pos rfl, high_low, BitVec.xor_assoc, BitVec.xor_assoc, BitVec.xor_assoc,
    BitVec.xor_assoc, BitVec.xor_assoc]
  simp

/-- An attribute with an address is twelve bytes long. -/
theorem mapped_some {x : Attribute} {p : Address} (h : mapped x = some p) :
    x.type = kXorMappedAddress ∧ ∃ zero p0 p1 o0 o1 o2 o3, x.value = [zero, 1, p0, p1, o0, o1, o2, o3] ∧
      p = ⟨[o0 ^^^ 0x21, o1 ^^^ 0x12, o2 ^^^ 0xA4, o3 ^^^ 0x42], (p0 ++ p1) ^^^ 0x2112⟩ := by
  unfold mapped at h
  split_ifs at h with htype
  refine ⟨htype, ?_⟩
  split at h
  · rename_i zero family p0 p1 o0 o1 o2 o3 hvalue
    split_ifs at h with hfamily
    refine ⟨zero, p0, p1, o0, o1, o2, o3, ?_, (Option.some.inj h).symm⟩
    rw [hvalue, hfamily]
  · cases h

/-! ## responses -/

/-- The response is the well-formed message with the attributes `xs`. -/
structure Carries (r : StunResponse) (xs : List Attribute) : Prop where
  small : (encode xs).length ≤ attributesSize
  length : r.message_length_.toNat = (encode xs).length
  bytes : r.attributes_.read 0 (encode xs).length = encode xs

/-- No read is outside the attributes and the loop ends; for a well-formed message the call succeeds if
and only if there is an address in it, and then it is the first that is stored. -/
def Parses (r : StunResponse) : Prop :=
  Ends (fun _ => False)
    (fun o => ∀ xs, Carries r xs → (o.success = true ↔ ∃ x ∈ xs, mapped x ≠ none) ∧
      ∀ p, xs.findSome? mapped = some p → ∃ q, o.stored = some q ∧ q.Holds p)
    (performStunRequest r.transaction_id_ ⟨true, true, some r⟩)

/-- An attribute begins at `j`, the first of them at `i`; if it is taken for an address, it is one. -/
def StartsAt (i : Nat) (xs : List Attribute) (j : Nat) : Prop :=
  ∃ pre y post, xs = pre ++ y :: post ∧ j = i + (encode pre).length ∧
    (y.type = kXorMappedAddress → mapped y ≠ none)

/-- the loop comes to attributes of the message only -/
def KeepsTrack (r : StunResponse) : Prop :=
  ∀ xs, Carries r xs → ∀ j, Visits r.attributes_ (attributesLength r) 0 j → StartsAt 0 xs j

/-- The first attribute of the type that is looked for is an IPv4 address with a port below `2^15`, and
none in front of it needs padding. -/
def Plain : List Attribute → Prop
  | [] => False
  | x :: xs =>
    if x.type = kXorMappedAddress then ∃ p ∈ mapped x, p.port.toNat < 2 ^ 15
    else x.padding = [] ∧ Plain xs

/-- A well-formed message is plain; of any other response the bytes are such that the headers, each behind
the value of the one before, are inside. -/
def Readable (r : StunResponse) : Prop :=
  (∀ xs, Carries r xs → Plain xs) ∧ ((∀ xs, ¬ Carries r xs) →
    ∀ j, Visits r.attributes_ (attributesLength r) 0 j → Inside r.attributes_ j)

/-- a response of the type that is waited for -/
theorem perform_eq {r : StunResponse} (h : r.stun_message_type_ = kBindingResponse) :
    performStunRequest r.transaction_id_ ⟨true, true, some r⟩ =
      walk r.attributes_ (attributesLength r) attributesSize 0 >>= fun stored => .ok ⟨true, stored⟩ := by
  show (if r.transaction_id_ = r.transaction_id_ then
    if r.stun_message_type_ ≠ kBindingResponse then _ else _ else _) = _
  rw [if_pos rfl, if_neg fun h' => h' h]
  rfl

theorem attributesLength_le (r : StunResponse) : attributesLength r ≤ (0 : Nat) + 4 * (999 : Nat) := by
  unfold attributesLength
  omega

/-! ## attributes in the memory -/

section
variable {m : Mem Byte} {i : Nat}

/-- an attribute in the memory, with what is behind it -/
theorem read_attribute {x : Attribute} {l : List Byte}
    (h : m.read i (x.bytes ++ l).length = x.bytes ++ l) :
    short m i = x.type ∧ (short m (i + 2)).toNat = x.value.length ∧
      m.read i x.bytes.length = x.bytes ∧ m.read (i + x.bytes.length) l.length = l := by
  rw [List.length_append, Mem.read_add] at h
  obtain ⟨hx, hl⟩ := List.append_inj h (Mem.read_length _ _ _)
  have hlen := x.bytes_length
  have h0 : m (i + 0) = high x.type := Mem.of_read hx (by omega) 0
  have h1 : m (i + 1) = low x.type := Mem.of_read hx (by omega) 0
  have h2 : m (i + 2) = high (BitVec.ofNat 16 x.value.length) := Mem.of_read hx (by omega) 0
  have h3 : m (i + 3) = low (BitVec.ofNat 16 x.value.length) := Mem.of_read hx (by omega) 0
  refine ⟨?_, ?_, hx, hl⟩
  · show m (i + 0) ++ m (i + 1) = x.type
    rw [h0, h1, high_low]
  · show (m (i + 2) ++ m (i + 3)).toNat = x.value.length
    rw [h2, h3, high_low, BitVec.toNat_ofNat, Nat.mod_eq_of_lt x.fits]

theorem holds_iff {octets : List Byte} {port : U16} :
    (IPAndPort.mk octets (.ofBitVec port)).Holds ⟨octets, port⟩ ↔ port.toNat < 2 ^ 15 := by
  have hport := port.isLt
  unfold IPAndPort.Holds
  rw [and_iff_right rfl]
  show port.toInt = port.toNat ↔ _
  rw [BitVec.toInt_eq_toNat_cond]
  split_ifs <;> omega

/-- the address of an attribute in the memory -/
theorem mappedAt_attribute {x : Attribute} {p : Address} (hx : m.read i x.bytes.length = x.bytes)
    (hp : mapped x = some p) :
    x.bytes.length = 12 ∧ ((mappedAt m i).Holds p ↔ p.port.toNat < 2 ^ 15) := by
  obtain ⟨htype, zero, p0, p1, o0, o1, o2, o3, hvalue, rfl⟩ := mapped_some hp
  have height : x.value.length = 8 := congrArg List.length hvalue
  have hpadded : x.padding.length = 0 := by rw [x.padded, height]
  have hpad : x.padding = [] := List.length_eq_zero_iff.mp hpadded
  have hlen : x.bytes.length = 12 := by
    rw [x.bytes_length, height, hpad]
    rfl
  refine ⟨hlen, ?_⟩
  have hcell : ∀ k < 8, m (i + (k + 4)) = [zero, 1, p0, p1, o0, o1, o2, o3].getD k 0 := by
    intro k hk
    rw [Mem.of_read hx (by omega) 0, ← hvalue]
    show (x.value ++ x.padding).getD k 0 = _
    rw [hpad, List.append_nil]
  have h2 : m (i + 6) = p0 := hcell 2 (by decide)
  have h3 : m (i + 6 + 1) = p1 := hcell 3 (by decide)
  have h4 : m (i + 8) = o0 := hcell 4 (by decide)
  have h5 : m (i + 9) = o1 := hcell 5 (by decide)
  have h6 : m (i + 10) = o2 := hcell 6 (by decide)
  have h7 : m (i + 11) = o3 := hcell 7 (by decide)
  unfold mappedAt short
  rw [h2, h3, h4, h5, h6, h7]
  exact holds_iff

variable {length : Int}

theorem startsAt_zero (x : Attribute) (xs : List Attribute)
    (hx : x.type = kXorMappedAddress → mapped x ≠ none) : StartsAt i (x :: xs) i :=
  ⟨[], x, xs, rfl, rfl, hx⟩

theorem StartsAt.cons {x : Attribute} {xs : List Attribute} {j : Nat}
    (h : StartsAt (i + x.bytes.length) xs j) : StartsAt i (x :: xs) j := by
  obtain ⟨pre, y, post, rfl, rfl, hy⟩ := h
  refine ⟨x :: pre, y, post, rfl, ?_, hy⟩
  rw [Nat.add_assoc]
  exact congrArg (i + ·) List.length_append.symm

/-- an attribute begins here, or at or behind the end of this one -/
theorem startsAt_cons {x : Attribute} {xs : List Attribute} {j : Nat} (h : StartsAt i (x :: xs) j) :
    j = i ∧ (x.type = kXorMappedAddress → mapped x ≠ none) ∨ StartsAt (i + x.bytes.length) xs j := by
  obtain ⟨pre, y, post, he, rfl, hy⟩ := h
  cases pre with
  | nil =>
    cases he
    exact .inl ⟨rfl, hy⟩
  | cons z pre =>
    cases he
    refine .inr ⟨pre, y, post, rfl, ?_, hy⟩
    rw [Nat.add_assoc]
    exact congrArg (i + ·) List.length_append

theorem StartsAt.le {xs : List Attribute} {j : Nat} (h : StartsAt i xs j) : i ≤ j := by
  obtain ⟨pre, y, post, _, rfl, _⟩ := h
  exact Nat.le_add_right _ _

/-- the loop over the attributes `xs`, which stand from `i` to the end -/
structure Stands (m : Mem Byte) (length : Int) (i : Nat) (xs : List Attribute) : Prop where
  ends : length = ((i + (encode xs).length : Nat) : Int)
  fits : length ≤ attributesSize
  bytes : m.read i (encode xs).length = encode xs

/-- what the loop reads of the first attribute -/
theorem Stands.cons {x : Attribute} {xs : List Attribute} (h : Stands m length i (x :: xs)) :
    short m i = x.type ∧ (short m (i + 2)).toNat = x.value.length ∧
      m.read i x.bytes.length = x.bytes ∧ (i : Int) + x.bytes.length ≤ length ∧
      Stands m length (i + x.bytes.length) xs := by
  have hlen : (encode (x :: xs)).length = x.bytes.length + (encode xs).length := List.length_append
  obtain ⟨htype, hvalue, hx, hrest⟩ := read_attribute h.bytes
  have hends := h.ends
  rw [hlen] at hends
  exact ⟨htype, hvalue, hx, by omega, by omega, h.fits, hrest⟩

/-- **The loop comes to the first address of a plain message**, from attribute to attribute. -/
theorem plain_found {xs : List Attribute} (h : Stands m length i xs) (hplain : Plain xs) :
    (∃ p ∈ xs.findSome? mapped, ∃ j q, FoundAt m length i j q ∧ q.Holds p) ∧
      ∀ j, Visits m length i j → Inside m j ∧ StartsAt i xs j := by
  induction xs generalizing i with
  | nil => exact hplain.elim
  | cons x xs ih =>
    obtain ⟨htype, hvalue, hx, hend, hrest⟩ := h.cons
    have hbytes := x.bytes_length
    have hfits := h.fits
    unfold Plain at hplain
    split_ifs at hplain with hxor
    · obtain ⟨p, hp, hport⟩ := hplain
      obtain ⟨h12, hholds⟩ := mappedAt_attribute hx hp
      have hfirst : (x :: xs).findSome? mapped = some p := by
        rw [List.findSome?_cons, hp]
      have hsome : mapped x ≠ none := by
        rw [hp]
        exact Option.some_ne_none p
      have hfound : FoundAt m length i i (mappedAt m i) := ⟨.here (by omega), htype.trans hxor, rfl⟩
      refine ⟨⟨p, hfirst, i, _, hfound, hholds.mpr hport⟩, fun j hj => ?_⟩
      rw [hj.stop (htype.trans hxor)]
      exact ⟨⟨by omega, fun _ => by omega⟩, startsAt_zero x xs fun _ => hsome⟩
    · have hno : short m i ≠ kXorMappedAddress := fun h' => hxor (htype.symm.trans h')
      rw [hplain.1, List.length_nil, Nat.add_zero] at hbytes
      have hstep : i + (4 + (short m (i + 2)).toNat) = i + x.bytes.length := by
        rw [hvalue, hbytes, Nat.add_comm 4]
      have hi : (i : Int) < length := by omega
      obtain ⟨⟨p, hp, j, q, hfound, hq⟩, hin⟩ := ih hrest hplain.2
      have hfirst : (x :: xs).findSome? mapped = xs.findSome? mapped := by
        rw [List.findSome?_cons, show mapped x = none from if_neg hxor]
      refine ⟨⟨p, by rwa [hfirst], j, q, ⟨.next hi hno ?_, hfound.2⟩, hq⟩, fun j hj => ?_⟩
      · rw [hstep]
        exact hfound.1
      · rcases (visits_next hi hno).mp hj with rfl | hj
        · exact ⟨⟨by omega, fun h' => absurd h' hno⟩, startsAt_zero x xs fun h' => absurd h' hxor⟩
        · rw [hstep] at hj
          exact ⟨(hin j hj).1, (hin j hj).2.cons⟩

/-- **A message that is parsed on track is plain.** -/
theorem found_plain {xs : List Attribute} (h : Stands m length i xs)
    (htrack : ∀ j, Visits m length i j → StartsAt i xs j) {j : Nat} {p : Address} {q : IPAndPort}
    (hfound : FoundAt m length i j q) (hp : xs.findSome? mapped = some p) (hq : q.Holds p) :
    Plain xs := by
  induction xs generalizing i with
  | nil => cases hp
  | cons x xs ih =>
    obtain ⟨htype, hvalue, hx, hend, hrest⟩ := h.cons
    have hbytes := x.bytes_length
    have hi : (i : Int) < length := hfound.1.head
    unfold Plain
    split_ifs with hxor
    · have hsome : mapped x ≠ none := by
        rcases startsAt_cons (htrack i (.here hi)) with ⟨_, hsome⟩ | hlater
        · exact hsome hxor
        · have hle := hlater.le
          omega
      obtain ⟨p', hp'⟩ := Option.ne_none_iff_exists'.mp hsome
      rw [List.findSome?_cons, hp'] at hp
      cases hp
      refine ⟨p, hp', (mappedAt_attribute hx hp').2.mp ?_⟩
      have hj := hfound.1.stop (htype.trans hxor)
      rw [← hj, hfound.2.2]
      exact hq
    · have hno : short m i ≠ kXorMappedAddress := fun h' => hxor (htype.symm.trans h')
      rw [List.findSome?_cons, show mapped x = none from if_neg hxor] at hp
      have hvisit : Visits m length (i + (4 + (short m (i + 2)).toNat)) j := by
        rcases (visits_next hi hno).mp hfound.1 with rfl | hvisit
        · exact absurd hfound.2.1 hno
        · exact hvisit
      -- the loop goes on where the next attribute begins, so there is no padding
      have hnext := htrack _ (.next hi hno (.here hvisit.head))
      have hpad : x.padding.length = 0 := by
        rcases startsAt_cons hnext with ⟨he, _⟩ | hlater
        · omega
        · have hle := hlater.le
          omega
      have hstep : i + (4 + (short m (i + 2)).toNat) = i + x.bytes.length := by omega
      rw [hstep] at hvisit
      refine ⟨List.length_eq_zero_iff.mp hpad, ih hrest (fun k hk => ?_) ⟨hvisit, hfound.2⟩ hp⟩
      have hk' : StartsAt i (x :: xs) k := htrack k (.next hi hno (by rwa [hstep]))
      rcases startsAt_cons hk' with ⟨rfl, _⟩ | hlater
      · have hle := hk.le
        omega
      · exact hlater

end

/-- a message is not longer than the signed length that the loop takes -/
theorem Carries.attributesLength {r : StunResponse} {xs : List Attribute} (h : Carries r xs) :
    attributesLength r = (encode xs).length := by
  have hsmall := h.small
  have hlen := h.length
  unfold attributesSize at hsmall
  unfold Stun.attributesLength
  rw [BitVec.toInt_eq_toNat_of_lt (by omega), hlen]
  omega

theorem Carries.unique {r : StunResponse} {xs xs' : List Attribute} (h : Carries r xs)
    (h' : Carries r xs') : xs = xs' := by
  have hlen := h.length.symm.trans h'.length
  have hbytes := h.bytes
  rw [hlen, h'.bytes] at hbytes
  exact encode_injective hbytes.symm

theorem Carries.stands {r : StunResponse} {xs : List Attribute} (h : Carries r xs) :
    Stands r.attributes_ (Stun.attributesLength r) 0 xs := by
  have hsmall := h.small
  have hlen := h.attributesLength
  refine ⟨?_, ?_, h.bytes⟩
  · rw [hlen, Nat.zero_add]
  · rw [hlen]
    exact Int.ofNat_le.mpr hsmall

/-! ## when a response is parsed -/

/-- a response is parsed if the places the loop comes to are inside, and the first address is found -/
theorem parses_of_found {r : StunResponse} (h : r.stun_message_type_ = kBindingResponse)
    (hin : ∀ j, Visits r.attributes_ (attributesLength r) 0 j → Inside r.attributes_ j) :
    Parses r ↔ ∀ xs, Carries r xs → ∃ p ∈ xs.findSome? mapped,
      ∃ j q, FoundAt r.attributes_ (attributesLength r) 0 j q ∧ q.Holds p := by
  obtain ⟨stored, hwalk, hstored⟩ := walk_ok (attributesLength_le r) hin
  have hsize : attributesSize = 999 + 1 := rfl
  unfold Parses
  rw [perform_eq h, hsize, hwalk]
  refine forall₂_congr fun xs hxs => ⟨?_, ?_⟩
  · rintro ⟨hsuccess, hfirst⟩
    have hsome : (xs.findSome? mapped).isSome := by
      rw [List.findSome?_isSome_iff]
      obtain ⟨x, hx, hmapped⟩ := hsuccess.mp rfl
      exact ⟨x, hx, Option.isSome_iff_ne_none.mpr hmapped⟩
    obtain ⟨p, hp⟩ := Option.isSome_iff_exists.mp hsome
    obtain ⟨q, hq, hholds⟩ := hfirst p hp
    obtain ⟨j, hj⟩ := (hstored q).mp hq
    exact ⟨p, hp, j, q, hj, hholds⟩
  · rintro ⟨p, hp, j, q, hfound, hholds⟩
    refine ⟨⟨fun _ => ?_, fun _ => rfl⟩, fun p' hp' => ?_⟩
    · obtain ⟨x, hx, hmapped⟩ := List.exists_of_findSome?_eq_some hp
      exact ⟨x, hx, by rw [hmapped]; exact Option.some_ne_none p⟩
    · have he : p = p' := Option.some.inj (hp.symm.trans hp')
      exact ⟨q, (hstored q).mpr ⟨j, hfound⟩, he ▸ hholds⟩

/-- no place is outside in a response that is parsed -/
theorem Parses.inside {r : StunResponse} (h : r.stun_message_type_ = kBindingResponse) (hp : Parses r) :
    ∀ j, Visits r.attributes_ (attributesLength r) 0 j → Inside r.attributes_ j := by
  intro j hvisit
  by_contra hout
  have hwalk := walk_outside (attributesLength_le r) hvisit hout
  have hsize : attributesSize = 999 + 1 := rfl
  unfold Parses at hp
  rw [perform_eq h, hsize, hwalk] at hp
  exact hp.elim

/-- **When a response is parsed**, the loop keeping to the attributes: a well-formed message has an IPv4
address with a port below `2^15` for the first of its type, and no attribute in front of it needs padding;
any other response has its headers inside. -/
theorem parses_iff (r : StunResponse) (h : r.stun_message_type_ = kBindingResponse) :
    Parses r ∧ KeepsTrack r ↔ Readable r := by
  constructor
  · rintro ⟨hparses, htrack⟩
    have hin := hparses.inside h
    refine ⟨fun xs hxs => ?_, fun _ => hin⟩
    obtain ⟨p, hp, j, q, hfound, hholds⟩ := (parses_of_found h hin).mp hparses xs hxs
    exact found_plain hxs.stands (htrack xs hxs) hfound hp hholds
  · rintro ⟨hplain, hother⟩
    have hin : ∀ j, Visits r.attributes_ (attributesLength r) 0 j → Inside r.attributes_ j := by
      by_cases hc : ∃ xs, Carries r xs
      · obtain ⟨xs, hxs⟩ := hc
        exact fun j hj => ((plain_found hxs.stands (hplain xs hxs)).2 j hj).1
      · exact hother (not_exists.mp hc)
    refine ⟨(parses_of_found h hin).mpr fun xs hxs => ?_, fun xs hxs j hj => ?_⟩
    · exact (plain_found hxs.stands (hplain xs hxs)).1
    · exact ((plain_found hxs.stands (hplain xs hxs)).2 j hj).2

/-! ## some messages -/

/-- the response with the attributes `xs`, and zeros behind them -/
def response (xs : List Attribute) : StunResponse :=
  ⟨kBindingResponse, BitVec.ofNat 16 (encode xs).length, [], Mem.write (fun _ => 0) 0 (encode xs)⟩

theorem carries_response {xs : List Attribute} (h : (encode xs).length ≤ attributesSize) :
    Carries (response xs) xs := by
  refine ⟨h, ?_, Mem.read_write_same _ 0 _⟩
  unfold attributesSize at h
  show (BitVec.ofNat 16 (encode xs).length).toNat = (encode xs).length
  rw [BitVec.toNat_ofNat, Nat.mod_eq_of_lt (by omega)]

/-- the name of a server, five bytes and three behind them -/
def software : Attribute where
  type := 0x8022
  value := [115, 116, 117, 110, 100]
  padding := [0, 0, 0]
  fits := fits_of 5 rfl (Nat.le_of_ble_eq_true rfl)
  padded := padded_of 5 3 rfl rfl rfl

def address : Attribute := xorMappedAddress 4321 10 0 0 7

/-- a fingerprint, which needs no padding -/
def fingerprint : Attribute where
  type := 0x8028
  value := [1, 2, 3, 4]
  padding := []
  fits := fits_of 4 rfl (Nat.le_of_ble_eq_true rfl)
  padded := padded_of 4 0 rfl rfl rfl

theorem parses_address :
    Parses (response [fingerprint, address]) ∧ KeepsTrack (response [fingerprint, address]) := by
  have hcarries : Carries (response [fingerprint, address]) [fingerprint, address] :=
    carries_response (by decide)
  refine (parses_iff (response [fingerprint, address]) rfl).mpr ⟨fun xs hxs => ?_, fun hno => ?_⟩
  · rw [hxs.unique hcarries]
    exact ⟨rfl, _, mapped_xorMappedAddress 4321 10 0 0 7, by decide⟩
  · exact absurd hcarries (hno _)

/-- The name in front of it hides the address. -/
theorem not_parses : ¬ Parses (response [software, address]) := by
  intro h
  have hcarries : Carries (response [software, address]) [software, address] :=
    carries_response (by decide)
  have hrun : performStunRequest [] ⟨true, true, some (response [software, address])⟩ = .ok ⟨true, none⟩ :=
    rfl
  have hends : Ends _ _ (performStunRequest [] ⟨true, true, some (response [software, address])⟩) := h
  obtain ⟨q, hq, _⟩ := ((hends.ok hrun) _ hcarries).2 _ rfl
  cases hq

/-- a name with two bytes behind it, which the loop does not skip -/
def shortName : Attribute where
  type := 0x8022
  value := [115, 116]
  padding := [0, 0]
  fits := fits_of 2 rfl (Nat.le_of_ble_eq_true rfl)
  padded := padded_of 2 2 rfl rfl rfl

/-- the loop takes the type of this one for the length of one that begins at the padding in front -/
def username : Attribute where
  type := 0x0006
  value := [117, 115, 101, 114]
  padding := []
  fits := fits_of 4 rfl (Nat.le_of_ble_eq_true rfl)
  padded := padded_of 4 0 rfl rfl rfl

/-- The loop leaves the attributes, and comes back to the address by accident. -/
theorem parses_astray :
    Parses (response [shortName, username, address]) ∧
      ¬ Readable (response [shortName, username, address]) := by
  have hcarries : Carries (response [shortName, username, address]) [shortName, username, address] :=
    carries_response (by decide)
  have hrun : performStunRequest [] ⟨true, true, some (response [shortName, username, address])⟩ =
      .ok ⟨true, some ⟨[10, 0, 0, 7], 4321⟩⟩ := rfl
  constructor
  · show Ends _ _ (performStunRequest [] ⟨true, true, some (response [shortName, username, address])⟩)
    rw [hrun]
    intro xs hxs
    rw [hxs.unique hcarries]
    have hmem : address ∈ [shortName, username, address] :=
      List.mem_cons_of_mem _ (List.mem_cons_of_mem _ List.mem_cons_self)
    refine ⟨⟨fun _ => ⟨address, hmem, by decide⟩, fun _ => rfl⟩, fun p hp => ?_⟩
    cases hp
    exact ⟨_, rfl, by decide⟩
  · intro h
    have hplain := h.1 _ hcarries
    unfold Plain at hplain
    rw [if_neg (by decide)] at hplain
    cases hplain.1

end TunServer.Stun
