import TunServer.Raw.Packet

/-!
# What a created packet says to its receiver

* `checksum_toNat`    the checksum is the complement of the one's complement sum;
* `TcpVerifies`, `IpVerifies`   the tests of a receiver, on the bytes of the packet alone;
* `Created`           the packets of the three functions, with what they are to say;
* `created_checks`    the segment passes its test, the IP header next to never;
* `received_created`  behind any packets for others, what was created is received and read back.
-/

set_option linter.unusedVariables false

namespace TunServer.Raw

/-! ## words in memory -/

theorem htonl_htonl (v : U32) : htonl (htonl v) = v := by
  unfold htonl
  ext i hi
  simp only [BitVec.getElem_append, BitVec.getElem_extractLsb', BitVec.getLsbD_append,
    BitVec.getLsbD_extractLsb']
  grind

/-- the bytes of a word make the word -/
theorem bytes_word (v : U32) : (v.extractLsb' 24 8 ++ v.extractLsb' 16 8 ++ v.extractLsb' 8 8 ++
    v.extractLsb' 0 8 : U32) = v := by
  ext i hi
  simp only [BitVec.getElem_append, BitVec.getElem_extractLsb']
  grind

theorem bytes_short (v : U16) : (v.extractLsb' 8 8 ++ v.extractLsb' 0 8 : U16) = v := by
  ext i hi
  simp only [BitVec.getElem_append, BitVec.getElem_extractLsb']
  grind

theorem store16_sum (v : U16) : wordSum 1 256 (store16 v) = v.toNat := by
  have h := v.isLt
  show 1 * (v.extractLsb' 0 8).toNat + 256 * (v.extractLsb' 8 8).toNat + 0 = _
  rw [BitVec.extractLsb'_toNat, BitVec.extractLsb'_toNat, Nat.shiftRight_eq_div_pow,
    Nat.shiftRight_eq_div_pow]
  omega

/-! ## the checksum -/

theorem wordSum_le (l : List Byte) : wordSum 1 256 l ≤ 65535 * l.length := by
  induction l using wordSum.induct with
  | case1 => exact le_refl 0
  | case2 a =>
    have ha := a.isLt
    show 1 * a.toNat ≤ 65535 * 1
    omega
  | case3 a b l ih =>
    have ha := a.isLt
    have hb := b.isLt
    show 1 * a.toNat + 256 * b.toNat + wordSum 1 256 l ≤ 65535 * (l.length + 1 + 1)
    omega

/-- a sum that does not overflow -/
theorem accumulate_toNat (l : List Byte) {sum : U32} (h : sum.toNat + wordSum 1 256 l < 2 ^ 32) :
    (accumulate sum l).toNat = sum.toNat + wordSum 1 256 l := by
  induction l using wordSum.induct generalizing sum with
  | case1 => rfl
  | case2 a =>
    have ha := a.isLt
    have h' : sum.toNat + 1 * a.toNat < 2 ^ 32 := h
    show (sum + a.setWidth 32).toNat = sum.toNat + 1 * a.toNat
    rw [BitVec.toNat_add, BitVec.toNat_setWidth]
    omega
  | case3 a b l ih =>
    have ha := a.isLt
    have hb := b.isLt
    have h' : sum.toNat + (1 * a.toNat + 256 * b.toNat + wordSum 1 256 l) < 2 ^ 32 := h
    have hword : ((b ++ a : U16).setWidth 32).toNat = a.toNat + 256 * b.toNat := by
      rw [BitVec.toNat_setWidth, BitVec.toNat_append, ← Nat.shiftLeft_add_eq_or_of_lt ha,
        Nat.shiftLeft_eq]
      omega
    have hsum : (sum + (b ++ a : U16).setWidth 32).toNat = sum.toNat + (a.toNat + 256 * b.toNat) := by
      rw [BitVec.toNat_add, hword]
      omega
    show (accumulate (sum + (b ++ a : U16).setWidth 32) l).toNat =
      sum.toNat + (1 * a.toNat + 256 * b.toNat + wordSum 1 256 l)
    rw [ih (by omega), hsum]
    omega

/-- one turn of the second loop -/
theorem fold_turn (sum : U32) : ((sum &&& (0xFFFF : U32)) + sum >>> 16).toNat =
    sum.toNat % 65536 + sum.toNat / 65536 := by
  have h := sum.isLt
  have hand : (sum &&& (0xFFFF : U32)).toNat = sum.toNat % 65536 := by
    rw [BitVec.toNat_and]
    exact Nat.and_two_pow_sub_one_eq_mod sum.toNat 16
  have hshift : (sum >>> 16).toNat = sum.toNat / 65536 := by
    rw [BitVec.toNat_ushiftRight, Nat.shiftRight_eq_div_pow]
  rw [BitVec.toNat_add, hand, hshift]
  omega

theorem shift_eq_zero {sum : U32} : sum >>> 16 = 0 ↔ sum.toNat < 65536 := by
  have hshift : (sum >>> 16).toNat = sum.toNat / 65536 := by
    rw [BitVec.toNat_ushiftRight, Nat.shiftRight_eq_div_pow]
  rw [← BitVec.toNat_inj, hshift]
  show sum.toNat / 65536 = 0 ↔ _
  omega

theorem fold_value (turns : Nat) (sum : U32) : ocValue (fold turns sum).toNat = ocValue sum.toNat := by
  induction turns generalizing sum with
  | zero => rfl
  | succ turns ih =>
    unfold fold
    split_ifs
    · rfl
    · rw [ih, fold_turn, ocValue_fold]

/-- The second loop ends after two turns at most. -/
theorem fold_settled (sum : U32) : fold 2 sum >>> 16 = 0 := by
  have h := sum.isLt
  unfold fold
  split_ifs with h1
  · exact h1
  · unfold fold
    split_ifs with h2
    · exact h2
    · rw [shift_eq_zero] at h1 h2 ⊢
      show ((_ : U32) + _).toNat < 65536
      rw [fold_turn] at h2 ⊢
      rw [fold_turn]
      omega

/-- **The checksum** of a buffer whose sum does not overflow. -/
theorem checksum_toNat {l : List Byte} (h : wordSum 1 256 l < 2 ^ 32) :
    (checksum l).toNat = 65535 - ocValue (wordSum 1 256 l) := by
  have hsum : (accumulate 0 l).toNat = wordSum 1 256 l := by
    rw [accumulate_toNat l (by simpa using h)]
    exact Nat.zero_add _
  have hsettled := shift_eq_zero.mp (fold_settled (accumulate 0 l))
  have hvalue := fold_value 2 (accumulate 0 l)
  rw [ocValue_of_lt hsettled, hsum] at hvalue
  unfold checksum
  rw [BitVec.toNat_not, BitVec.toNat_setWidth, hvalue]
  have hle := ocValue_le (wordSum 1 256 l)
  omega

/-! ## the tests of a receiver -/

/-- the pseudo header that a receiver makes of a packet -/
def seenPseudoHeader (l : List Byte) : List Byte :=
  (l.drop 12).take 8 ++ [0, l.getD 9 0] ++ store16 (htons (BitVec.ofNat 16 (l.length - 20)))

def TcpVerifies (l : List Byte) : Prop := Verifies (seenPseudoHeader l ++ l.drop 20)

def IpVerifies (l : List Byte) : Prop := Verifies (l.take 20)

instance (l : List Byte) : Decidable (TcpVerifies l) := inferInstanceAs (Decidable (Verifies _))
instance (l : List Byte) : Decidable (IpVerifies l) := inferInstanceAs (Decidable (Verifies _))

section
variable {src dst : SockaddrIn} {tcph : TcpHdr} {r : U32} {options data : List Byte}

/-- the segment of a packet, with its checksum -/
def segment (src dst : SockaddrIn) (tcph : TcpHdr) (options data : List Byte) : List Byte :=
  { tcph with check := checksum ((pseudoHeader src dst data.length).bytes ++
    (tcph.bytes ++ options ++ data)) }.bytes ++ options ++ data

/-- the header in front of it -/
def header (src dst : SockaddrIn) (tcph : TcpHdr) (r : U32) (options data : List Byte) : List Byte :=
  { ipHeader src dst data.length r with check := checksum ((ipHeader src dst data.length r).bytes ++
    segment src dst tcph options data) }.bytes

theorem create_packet_eq : create_packet src dst tcph r options data =
    header src dst tcph r options data ++ segment src dst tcph options data := rfl

theorem segment_length (ho : options.length = OPT_SIZE) :
    (segment src dst tcph options data).length = 40 + data.length := by
  show (TcpHdr.bytes _ ++ options ++ data).length = _
  rw [List.length_append, List.length_append, ho]
  rfl

theorem take_packet : (create_packet src dst tcph r options data).take 20 =
    header src dst tcph r options data := rfl

theorem drop_packet : (create_packet src dst tcph r options data).drop 20 =
    segment src dst tcph options data := rfl

theorem packet_length (ho : options.length = OPT_SIZE) :
    (create_packet src dst tcph r options data).length = 60 + data.length := by
  rw [create_packet_eq, List.length_append, segment_length ho]
  show 20 + (40 + data.length) = _
  omega

/-- the receiver makes the pseudo header that the checksum was taken with -/
theorem seenPseudoHeader_packet (ho : options.length = OPT_SIZE) :
    seenPseudoHeader (create_packet src dst tcph r options data) =
      (pseudoHeader src dst data.length).bytes := by
  unfold seenPseudoHeader
  rw [packet_length ho, show 60 + data.length - 20 = 20 + OPT_SIZE + data.length by
    unfold OPT_SIZE
    omega]
  rfl

/-- a buffer that holds what fits in a packet does not overflow the sum -/
theorem sum_fits {l : List Byte} (h : l.length ≤ 65536) : wordSum 1 256 l < 2 ^ 32 := by
  have hle := wordSum_le l
  omega

theorem segment_verifies (hcheck : tcph.check = 0) (ho : options.length = OPT_SIZE)
    (hdata : 60 + data.length ≤ DATAGRAM_LEN) :
    Verifies ((pseudoHeader src dst data.length).bytes ++ segment src dst tcph options data) := by
  let buf := (pseudoHeader src dst data.length).bytes ++ (tcph.bytes ++ options ++ data)
  let pre := (pseudoHeader src dst data.length).bytes ++ tcph.front
  let post := store16 tcph.urg_ptr ++ options ++ data
  have hbuf : buf = pre ++ [0, 0] ++ post := by
    show _ ++ ((tcph.front ++ store16 tcph.check ++ store16 tcph.urg_ptr) ++ options ++ data) = _
    rw [hcheck]
    simp only [pre, post, List.append_assoc]
    rfl
  have hlen : buf.length ≤ 65536 := by
    show ((pseudoHeader src dst data.length).bytes ++ (tcph.bytes ++ options ++ data)).length ≤ 65536
    rw [List.length_append, List.length_append, List.length_append, ho]
    show 12 + (20 + OPT_SIZE + data.length) ≤ 65536
    unfold DATAGRAM_LEN at hdata
    unfold OPT_SIZE
    omega
  have hword : 1 * ((checksum buf).extractLsb' 0 8).toNat + 256 * ((checksum buf).extractLsb' 8 8).toNat + 0 =
      (checksum buf).toNat := store16_sum (checksum buf)
  rw [checksum_toNat (sum_fits hlen), hbuf, Nat.one_mul, Nat.add_zero] at hword
  have hverifies := @verifies_stored pre post _ _ (show 2 ∣ 28 by decide) hword
  have hsegment : (pseudoHeader src dst data.length).bytes ++ segment src dst tcph options data =
      pre ++ store16 (checksum buf) ++ post := by
    show _ ++ ((tcph.front ++ store16 (checksum buf) ++ store16 tcph.urg_ptr) ++ options ++ data) = _
    simp only [pre, post, List.append_assoc]
  rw [hsegment, hbuf]
  exact hverifies

/-- The checksum of the header takes in the segment as well, so that the header alone has the complement
of what the segment adds: the sum of the pseudo header. -/
theorem header_verifies_iff (hcheck : tcph.check = 0) (ho : options.length = OPT_SIZE)
    (hdata : 60 + data.length ≤ DATAGRAM_LEN) :
    Verifies (header src dst tcph r options data) ↔
      65535 ∣ wordSum 1 256 (pseudoHeader src dst data.length).bytes := by
  let seg := segment src dst tcph options data
  let iph := ipHeader src dst data.length r
  let psh := (pseudoHeader src dst data.length).bytes
  have hseg : 65535 ∣ wordSum 1 256 psh + wordSum 1 256 seg := by
    rw [← wordSum_append (by show 2 ∣ 12; decide)]
    exact ((verifies_iff _).mp (segment_verifies hcheck ho hdata)).2
  have hlen : (iph.bytes ++ seg).length ≤ 65536 := by
    rw [List.length_append, segment_length ho]
    show 20 + (40 + data.length) ≤ 65536
    unfold DATAGRAM_LEN at hdata
    omega
  have hall : wordSum 1 256 (iph.bytes ++ seg) = wordSum 1 256 iph.bytes + wordSum 1 256 seg :=
    wordSum_append (by show 2 ∣ 20; decide) seg
  -- the checksum is added to a header that has none
  have hstored : ∀ c : U16, wordSum 1 256 { iph with check := c }.bytes =
      wordSum 1 256 iph.front + (c.toNat + wordSum 1 256 (store32 iph.saddr ++ store32 iph.daddr)) := by
    intro c
    have hbytes : { iph with check := c }.bytes =
        iph.front ++ (store16 c ++ (store32 iph.saddr ++ store32 iph.daddr)) := rfl
    rw [hbytes, wordSum_append (by show 2 ∣ 10; decide), wordSum_append (by show 2 ∣ 2; decide),
      store16_sum]
  have hzero : wordSum 1 256 iph.bytes =
      wordSum 1 256 iph.front + (0 + wordSum 1 256 (store32 iph.saddr ++ store32 iph.daddr)) := hstored 0
  have hfirst : 0 < wordSum 1 256 iph.front := by
    refine Nat.pos_of_ne_zero fun h => ?_
    have hnone := (wordSum_eq_zero (by decide) (by decide) _).mp h (4#4 ++ 5#4) List.mem_cons_self
    exact absurd hnone (by decide)
  have hdvd := ocValue_dvd (wordSum 1 256 (iph.bytes ++ seg))
  rw [verifies_iff, show header src dst tcph r options data =
    { iph with check := checksum (iph.bytes ++ seg) }.bytes from rfl, hstored,
    checksum_toNat (sum_fits hlen)]
  rw [hall] at hdvd ⊢
  rw [hzero] at hdvd ⊢
  show _ ↔ 65535 ∣ wordSum 1 256 psh
  constructor
  · rintro ⟨_, h⟩
    omega
  · intro h
    exact ⟨by omega, by omega⟩

end

/-! ## the three functions -/

/-- a packet of one of the functions, with its numbers and its data -/
inductive Created (src dst : SockaddrIn) : U32 → U32 → List Byte → List Byte → Prop where
  | syn (r r' : U32) : Created src dst (r' % 4294967295) 0 [] (create_syn_packet src dst r r')
  | ack (seq ack_seq r : U32) : Created src dst seq ack_seq [] (create_ack_packet src dst seq ack_seq r)
  | data {seq ack_seq : U32} {data : List Byte} {r : U32} {l : List Byte}
      (h : create_data_packet src dst seq ack_seq data r = some l) : Created src dst seq ack_seq data l

section
variable {src dst : SockaddrIn} {seq ack_seq : U32} {data l : List Byte}

/-- what they have in common -/
theorem Created.packet (h : Created src dst seq ack_seq data l) : ∃ tcph r options,
    l = create_packet src dst tcph r options data ∧ options.length = OPT_SIZE ∧
      60 + data.length ≤ DATAGRAM_LEN ∧ tcph.check = 0 ∧ tcph.dest = dst.sin_port ∧
      tcph.seq = htonl seq ∧ tcph.ack_seq = htonl ack_seq := by
  cases h with
  | syn r r' => exact ⟨_, _, _, rfl, rfl, by decide, rfl, rfl, rfl, rfl⟩
  | ack seq ack_seq r => exact ⟨_, _, _, rfl, rfl, by decide, rfl, rfl, rfl, rfl⟩
  | data h =>
    obtain ⟨hfits, h⟩ := Option.ite_none_right_eq_some.mp h
    cases h
    exact ⟨_, _, _, rfl, rfl, hfits, rfl, rfl, rfl, rfl⟩

/-- the drawn number is in the other half of the word -/
theorem id_eq_zero (r : U32) : (htonl (r % 65535)).setWidth 16 = 0#16 := by
  have hlt : (r % 65535).toNat < 65535 := Nat.mod_lt _ (by decide)
  generalize r % 65535 = v at hlt
  have hhalf : (htonl v).setWidth 16 = (v.extractLsb' 16 8 ++ v.extractLsb' 24 8 : U16) := by
    unfold htonl
    ext i hi
    simp only [BitVec.getElem_setWidth, BitVec.getLsbD_append, BitVec.getLsbD_extractLsb']
    grind
  have hzero : ∀ k, 16 ≤ k → v.extractLsb' k 8 = 0 := by
    intro k hk
    refine BitVec.eq_of_toNat_eq ?_
    rw [BitVec.extractLsb'_toNat, Nat.shiftRight_eq_div_pow]
    have hle : 2 ^ 16 ≤ 2 ^ k := Nat.pow_le_pow_right (by decide) hk
    rw [Nat.div_eq_of_lt (by omega)]
    rfl
  rw [hhalf, hzero 16 (le_refl 16), hzero 24 (by decide)]
  rfl

/-- **What a receiver finds.**  The segment of every created packet passes its test; the IP header passes
exactly when the pseudo header sums up to zero; and the id of the packet is zero. -/
theorem created_checks (h : Created src dst seq ack_seq data l) :
    TcpVerifies l ∧ (IpVerifies l ↔ 65535 ∣ wordSum 1 256 (seenPseudoHeader l)) ∧
      (l.drop 4).take 2 = [0, 0] := by
  obtain ⟨tcph, r, options, rfl, ho, hdata, hcheck, _⟩ := h.packet
  unfold TcpVerifies IpVerifies
  rw [seenPseudoHeader_packet ho, take_packet, drop_packet]
  refine ⟨segment_verifies hcheck ho hdata, header_verifies_iff hcheck ho hdata, ?_⟩
  show store16 ((htonl (r % 65535)).setWidth 16) = [0, 0]
  rw [id_eq_zero]
  rfl

/-- 127.0.0.1:3333 and 127.0.0.2:80 -/
def loopback : SockaddrIn := ⟨htons 3333, 0x0100007f⟩
def webServer : SockaddrIn := ⟨htons 80, 0x0200007f⟩

theorem created_checks_syn :
    let l := create_syn_packet loopback webServer 40000 0x7ffffff0
    TcpVerifies l ∧ (IpVerifies l ↔ 65535 ∣ wordSum 1 256 (seenPseudoHeader l)) ∧
      (l.drop 4).take 2 = [0, 0] :=
  created_checks (.syn 40000 0x7ffffff0)

/-- the segment with another word in one place -/
def damaged (l : List Byte) (k : Nat) (a b : Byte) : List Byte := l.take k ++ [a, b] ++ l.drop (k + 2)

/-- the pseudo header does not tell the damage -/
theorem damaged_seen {k : Nat} (hk : 20 ≤ k) (hlen : k + 2 ≤ l.length) (a b : Byte) :
    seenPseudoHeader (damaged l k a b) = seenPseudoHeader l := by
  have hsize : (damaged l k a b).length = l.length := by
    unfold damaged
    rw [List.length_append, List.length_append, List.length_take, List.length_drop]
    show min k l.length + 2 + _ = _
    omega
  have htake : ∀ n ≤ 20, (damaged l k a b).take n = l.take n := by
    intro n hn
    unfold damaged
    rw [List.append_assoc, List.take_append_of_le_length (by rw [List.length_take]; omega),
      List.take_take, min_eq_left (by omega)]
  have hends : ∀ p : List Byte, (p.drop 12).take 8 = (p.take 20).drop 12 := fun p => List.take_drop
  have hprotocol : ∀ p : List Byte, p.getD 9 0 = (p.take 20).getD 9 0 := by
    intro p
    rw [List.getD_eq_getElem?_getD, List.getD_eq_getElem?_getD, List.getElem?_take_of_lt (by decide)]
  unfold seenPseudoHeader
  rw [hsize, hends, hends, hprotocol, hprotocol l, htake 20 (le_refl 20)]

theorem damaged_drop {k : Nat} (hk : 20 ≤ k) (hlen : k + 2 ≤ l.length) {a b : Byte} :
    (damaged l k a b).drop 20 = (l.take k).drop 20 ++ [a, b] ++ l.drop (k + 2) := by
  unfold damaged
  rw [List.append_assoc, List.append_assoc, List.drop_append_of_le_length (by rw [List.length_take]; omega)]

theorem undamaged {k : Nat} (hlen : k + 2 ≤ l.length) :
    damaged l k (l.getD k 0) (l.getD (k + 1) 0) = l := by
  have h0 : k < l.length := by omega
  have h1 : k + 1 < l.length := by omega
  unfold damaged
  rw [List.getD_eq_getElem _ _ h0, List.getD_eq_getElem _ _ h1, List.append_assoc]
  show l.take k ++ (l[k] :: l[k + 1] :: l.drop (k + 2)) = l
  rw [← List.drop_eq_getElem_cons h1, ← List.drop_eq_getElem_cons h0, List.take_append_drop]

/-- **Damage to one word is noticed**, unless it makes "zero" of "minus zero" or the other way. -/
theorem created_damaged (h : Created src dst seq ack_seq data l) {k : Nat} (hk : 20 ≤ k)
    (heven : 2 ∣ k) (hlen : k + 2 ≤ l.length) (a b : Byte) :
    TcpVerifies (damaged l k a b) ↔
      (a.toNat + 256 * b.toNat) % 65535 =
        ((l.getD k 0).toNat + 256 * (l.getD (k + 1) 0).toNat) % 65535 := by
  obtain ⟨tcph, r, options, rfl, ho, hdata, hcheck, _⟩ := h.packet
  have hgood : TcpVerifies (create_packet src dst tcph r options data) := by
    unfold TcpVerifies
    rw [seenPseudoHeader_packet ho, drop_packet]
    exact segment_verifies hcheck ho hdata
  have hseen := damaged_seen hk hlen a b
  unfold TcpVerifies at hgood ⊢
  rw [hseen, damaged_drop hk hlen]
  rw [seenPseudoHeader_packet ho] at hgood ⊢
  generalize create_packet src dst tcph r options data = p at hgood hlen ⊢
  have hdrop := @damaged_drop p k hk hlen (p.getD k 0) (p.getD (k + 1) 0)
  rw [undamaged hlen] at hdrop
  let psh := (pseudoHeader src dst data.length).bytes
  have hsplit : ∀ c d : Byte, psh ++ ((p.take k).drop 20 ++ [c, d] ++ p.drop (k + 2)) =
      (psh ++ (p.take k).drop 20) ++ [c, d] ++ p.drop (k + 2) := by
    intro c d
    simp only [List.append_assoc]
  have hpre : 2 ∣ (psh ++ (p.take k).drop 20).length := by
    rw [List.length_append, List.length_drop, List.length_take]
    show 2 ∣ 12 + (min k p.length - 20)
    omega
  have hpost : ∀ t : List Byte, 0 < wordSum 1 256 (psh ++ t) := by
    intro t
    refine Nat.pos_of_ne_zero fun h0 => ?_
    have hmem : IPPROTO_TCP ∈ psh ++ t :=
      List.mem_append_left _ (by simp [psh, PseudoHeader.bytes, pseudoHeader])
    exact absurd ((wordSum_eq_zero (by decide) (by decide) _).mp h0 _ hmem) (by decide)
  rw [hdrop, hsplit] at hgood
  have hpost' := hpost ((p.take k).drop 20 ++ [a, b] ++ p.drop (k + 2))
  rw [hsplit] at hpost' ⊢
  exact verifies_changed hpre hgood hpost'

/-- the FIN flag of an acknowledgement is turned on -/
theorem created_damaged_flags :
    let l := create_ack_packet loopback webServer 1 2 0
    TcpVerifies (damaged l 32 0xa0 0x11) ↔
      ((0xa0#8).toNat + 256 * (0x11#8).toNat) % 65535 =
        ((l.getD 32 0).toNat + 256 * (l.getD (32 + 1) 0).toNat) % 65535 :=
  created_damaged (.ack 1 2 0) (by decide) (by decide) (by decide) 0xa0 0x11

/-! ## what is read of them -/

theorem write_get (m : Mem Byte) (l : List Byte) (j : Nat) : m.write 0 l j = l.getD j (m j) := by
  unfold Mem.write
  rw [if_pos (Nat.zero_le j), Nat.sub_zero]

theorem packet_port (m : Mem Byte) (tcph : TcpHdr) (r : U32) (options : List Byte) :
    load16 (m.write 0 (create_packet src dst tcph r options data)) 22 = tcph.dest := by
  unfold load16
  rw [write_get, write_get]
  exact bytes_short tcph.dest

theorem packet_numbers (m : Mem Byte) (tcph : TcpHdr) (r : U32) (options : List Byte) :
    read_seq_and_ack (m.write 0 (create_packet src dst tcph r options data)) =
      (ntohl tcph.seq, ntohl tcph.ack_seq) := by
  unfold read_seq_and_ack load32
  simp only [write_get]
  exact Prod.ext (congrArg ntohl (bytes_word tcph.seq)) (congrArg ntohl (bytes_word tcph.ack_seq))

/-- a packet for another port -/
def ForOther (dst : SockaddrIn) (p : List Byte) : Prop :=
  24 ≤ p.length ∧ load16 (fun k => p.getD k 0) 22 ≠ dst.sin_port

/-- **Round trip.**  Behind any packets for others, a created packet is what is received; its numbers are
read back, and its data stand behind the headers. -/
theorem received_created (h : Created src dst seq ack_seq data l) {buffer_length : Nat}
    (hlen : l.length ≤ buffer_length) {others : List (List Byte)} (hothers : ∀ p ∈ others, ForOther dst p)
    (buffer : Mem Byte) (answers : List (Option (List Byte))) :
    ∃ b, receive_from buffer_length dst buffer (others.map some ++ some l :: answers) =
        some ((l.length : Int), b) ∧
      read_seq_and_ack b = (seq, ack_seq) ∧ b.read 60 data.length = data := by
  obtain ⟨tcph, r, options, rfl, ho, hdata, hcheck, hdest, hseq, hack⟩ := h.packet
  have hsize := @packet_length src dst tcph r options data ho
  induction others generalizing buffer with
  | nil =>
    refine ⟨buffer.write 0 (create_packet src dst tcph r options data), ?_, ?_, ?_⟩
    · show receive_from buffer_length dst buffer (some _ :: answers) = _
      unfold receive_from
      dsimp only
      rw [List.take_of_length_le hlen, if_pos ((packet_port buffer tcph r options).trans hdest)]
    · rw [packet_numbers, hseq, hack]
      exact Prod.ext (htonl_htonl seq) (htonl_htonl ack_seq)
    · have hread := Mem.read_write_same buffer 0 (create_packet src dst tcph r options data)
      rw [hsize, Mem.read_add, create_packet_eq] at hread
      unfold segment at hread
      rw [← List.append_assoc] at hread
      refine (List.append_inj hread ?_).2
      rw [Mem.read_length, List.length_append, List.length_append, ho]
      rfl
  | cons p others ih =>
    obtain ⟨hp, hport⟩ := hothers p List.mem_cons_self
    obtain ⟨b, h1, h2⟩ := ih (fun q hq => hothers q (List.mem_cons_of_mem _ hq))
      (buffer.write 0 (p.take buffer_length))
    refine ⟨b, ?_, h2⟩
    rw [← h1]
    show receive_from buffer_length dst buffer (some p :: (others.map some ++ _)) = _
    conv_lhs => unfold receive_from
    dsimp only
    have hbyte : ∀ k < 24, buffer.write 0 (p.take buffer_length) k = p.getD k 0 := by
      intro k hk
      rw [write_get, List.getD_eq_getElem _ _ (by rw [List.length_take]; omega), List.getElem_take,
        List.getD_eq_getElem _ _ (by omega)]
    have hload : load16 (buffer.write 0 (p.take buffer_length)) 22 = load16 (fun k => p.getD k 0) 22 := by
      unfold load16
      rw [hbyte 22 (by decide), hbyte 23 (by decide)]
    rw [hload, if_neg hport]

/-- an acknowledgement for another port comes first -/
theorem received_created_data :
    let l := create_packet webServer loopback
      { tcpHeader webServer loopback 7 8 with psh := 1, ack := 1 } 0 noOptions [72, 105]
    ∃ b, receive_from 4096 loopback (fun _ => 0)
        ([create_ack_packet webServer webServer 1 2 0].map some ++ some l :: []) =
          some ((l.length : Int), b) ∧
      read_seq_and_ack b = (7, 8) ∧ b.read 60 [72#8, 105#8].length = [72, 105] :=
  received_created (.data (r := 0) (if_pos (by decide))) (by decide)
    (fun p hp => by rw [List.mem_singleton.mp hp]; exact ⟨by decide, by decide⟩) (fun _ => 0) []

end

end TunServer.Raw
