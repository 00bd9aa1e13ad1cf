import TunServer.Session.Frame

/-!
# The client's stream in the receive buffer

`x` is the sequence number of the SYN.  What was accepted and not yet handed over is `pending`.

* `Uploading`   the counters: `receiveNext` counts what was accepted, `receiveUser` what was handed
                over, and both count the FIN;
* `Held`        the pending bytes stand in the receive buffer from `receiveUser` on;
* `Behind`      a trim that left `receiveUser` behind `receiveSequence`: the next access faults;
* `Kept`        the counters, with the bytes held or lost, which every call that returns keeps.
-/

set_option linter.unusedVariables false

namespace TunServer.Session

/-! ## what is pending -/

/-- the bytes accepted and not yet handed over -/
def pending (log : List Event) : List Byte := (acceptedBytes log).drop (handedBytes log).length

/-- the server is told that the client's stream has ended -/
def Event.isShutdown : Event → Bool
  | .shutdownWrite => true
  | _ => false

/-- the entries are not about the client's stream -/
def OffUpload (e : Event) : Prop :=
  e.acceptedPart = [] ∧ e.handedPart = [] ∧ e.isShutdown = false

theorem offUpload_adds {l l' : List Event} (h : Adds OffUpload l l') :
    acceptedBytes l' = acceptedBytes l ∧ handedBytes l' = handedBytes l := by
  obtain ⟨es, rfl, hes⟩ := h
  rw [acceptedBytes_append, handedBytes_append]
  have h1 : acceptedBytes es = [] := List.flatMap_eq_nil_iff.mpr fun e he => (hes e he).1
  have h2 : handedBytes es = [] := List.flatMap_eq_nil_iff.mpr fun e he => (hes e he).2.1
  rw [h1, h2, List.append_nil, List.append_nil]
  exact ⟨rfl, rfl⟩

/-! ## the invariant -/

structure Uploading (x : U32) (d : Data) (log : List Event) : Prop where
  handed : handedBytes log <+: acceptedBytes log
  next : d.receiveNext =
    x + 1 + BitVec.ofNat 32 (acceptedBytes log).length + b32 d.clientReadFinished
  user : d.receiveUser = x + 1 + BitVec.ofNat 32 (handedBytes log).length ∨
    d.clientReadFinished = true ∧ pending log = [] ∧ d.receiveUser = d.receiveNext

/-- the bytes `P` stand in the receive buffer from `receiveUser` on -/
structure Held (d : Data) (P : List Byte) : Prop where
  room : (d.receiveUser - d.receiveSequence).toNat + (d.receiveNext - d.receiveUser).toNat ≤
    RECEIVE_BUFFER_SIZE + (b32 d.clientReadFinished).toNat
  bytes_room : P ≠ [] → (d.receiveUser - d.receiveSequence).toNat + P.length ≤ RECEIVE_BUFFER_SIZE
  bytes : d.receiveBuffer.read (d.receiveUser - d.receiveSequence).toNat P.length = P

/-- `receiveUser` is behind `receiveSequence`, with bytes to hand over -/
structure Behind (d : Data) (P : List Byte) : Prop where
  nonempty : P ≠ []
  room : (d.receiveNext - d.receiveSequence).toNat ≤
    RECEIVE_BUFFER_SIZE + (b32 d.clientReadFinished).toNat
  few : P.length ≤ RECEIVE_BUFFER_SIZE + (d.receiveNext - d.receiveSequence).toNat
  behind : 2 ^ 32 ≤ (d.receiveUser - d.receiveSequence).toNat + RECEIVE_BUFFER_SIZE

/-- the buffer is in order, or it is not used any more without a fault -/
def HeldOrLost (d : Data) (P : List Byte) : Prop := Held d P ∨ Behind d P ∨ d.state = .CLOSED

section
variable {x : U32} {d : Data} {log : List Event}

theorem Uploading.length (h : Uploading x d log) :
    (acceptedBytes log).length = (handedBytes log).length + (pending log).length := by
  have h1 := List.IsPrefix.length_le h.handed
  unfold pending
  rw [List.length_drop]
  omega

theorem Uploading.append (h : Uploading x d log) :
    handedBytes log ++ pending log = acceptedBytes log := by
  obtain ⟨r, hr⟩ := h.handed
  unfold pending
  rw [← hr, List.drop_left]

/-- the distance of the two counters -/
theorem Uploading.dist (h : Uploading x d log) :
    d.receiveNext - d.receiveUser =
        BitVec.ofNat 32 (pending log).length + b32 d.clientReadFinished ∨
      d.clientReadFinished = true ∧ pending log = [] ∧ d.receiveUser = d.receiveNext := by
  have hlen := h.length
  rcases h.user with hu | hu
  · left
    rw [h.next, hu, hlen, count_dist]
  · exact .inr hu

/-- without the FIN the distance is what is pending -/
theorem Uploading.dist_open (h : Uploading x d log) (hf : d.clientReadFinished = false) :
    d.receiveNext - d.receiveUser = BitVec.ofNat 32 (pending log).length := by
  rcases h.dist with hd | ⟨hf', _⟩
  · rw [hd, hf]
    simp
  · exact absurd (hf.symm.trans hf') (by decide)

theorem Held.few {P : List Byte} (h : Held d P) : P.length ≤ RECEIVE_BUFFER_SIZE := by
  by_cases hP : P = []
  · rw [hP]
    exact Nat.zero_le _
  · have h1 := h.bytes_room hP
    omega

/-- the marks are in order -/
theorem Held.ordered {P : List Byte} (h : Held d P) :
    d.receiveUser - d.receiveSequence ≤ d.receiveNext - d.receiveSequence := by
  have h1 := h.room
  have h2 := b32_le d.clientReadFinished
  have hsum : d.receiveNext - d.receiveSequence =
      (d.receiveUser - d.receiveSequence) + (d.receiveNext - d.receiveUser) := by bv_omega
  unfold RECEIVE_BUFFER_SIZE at h1
  rw [hsum, BitVec.le_def, BitVec.toNat_add]
  omega

theorem Held.room_open {P : List Byte} (h : Held d P) (hf : d.clientReadFinished = false) :
    (d.receiveUser - d.receiveSequence).toNat + P.length ≤ RECEIVE_BUFFER_SIZE := by
  by_cases hP : P = []
  · have h1 := h.room
    rw [hf] at h1
    rw [hP]
    exact le_trans (Nat.le_add_right _ _) h1
  · exact h.bytes_room hP

end

section
variable {x : U32}

/-- the part of the state the upload lives in -/
structure KeepsUp (d d' : Data) : Prop where
  clientReadFinished : d'.clientReadFinished = d.clientReadFinished
  receiveBuffer : d'.receiveBuffer = d.receiveBuffer
  receiveSequence : d'.receiveSequence = d.receiveSequence
  receiveUser : d'.receiveUser = d.receiveUser
  receiveNext : d'.receiveNext = d.receiveNext
  state : d.state = .CLOSED → d'.state = .CLOSED

theorem KeepsUp.refl (d : Data) : KeepsUp d d := ⟨rfl, rfl, rfl, rfl, rfl, id⟩

theorem KeepsUp.trans {d d' d'' : Data} (h : KeepsUp d d') (h' : KeepsUp d' d'') : KeepsUp d d'' where
  clientReadFinished := h'.clientReadFinished.trans h.clientReadFinished
  receiveBuffer := h'.receiveBuffer.trans h.receiveBuffer
  receiveSequence := h'.receiveSequence.trans h.receiveSequence
  receiveUser := h'.receiveUser.trans h.receiveUser
  receiveNext := h'.receiveNext.trans h.receiveNext
  state := fun h0 => h'.state (h.state h0)

theorem Held.keep {d d' : Data} {P : List Byte} (h : Held d P) (hk : KeepsUp d d') : Held d' P := by
  constructor
  · rw [hk.receiveUser, hk.receiveSequence, hk.receiveNext, hk.clientReadFinished]; exact h.room
  · rw [hk.receiveUser, hk.receiveSequence]; exact h.bytes_room
  · rw [hk.receiveBuffer, hk.receiveUser, hk.receiveSequence]; exact h.bytes

theorem HeldOrLost.keep {d d' : Data} {P : List Byte} (h : HeldOrLost d P) (hk : KeepsUp d d') :
    HeldOrLost d' P := by
  rcases h with h | h | h
  · exact .inl (h.keep hk)
  · refine .inr (.inl ⟨h.nonempty, ?_, ?_, ?_⟩)
    · rw [hk.clientReadFinished, hk.receiveNext, hk.receiveSequence]; exact h.room
    · rw [hk.receiveNext, hk.receiveSequence]; exact h.few
    · rw [hk.receiveUser, hk.receiveSequence]; exact h.behind
  · exact .inr (.inr (hk.state h))

/-- a step that has nothing to do with the upload -/
structure AsideStep (s s' : St) : Prop where
  up : KeepsUp s.data s'.data
  log : Adds OffUpload s.log s'.log

theorem AsideStep.refl (s : St) : AsideStep s s := ⟨.refl _, Adds.refl _ _⟩

theorem AsideStep.trans {s s' s'' : St} (h : AsideStep s s') (h' : AsideStep s' s'') :
    AsideStep s s'' := ⟨h.up.trans h'.up, h.log.trans h'.log⟩

theorem AsideStep.pending {s s' : St} (h : AsideStep s s') : pending s'.log = pending s.log := by
  obtain ⟨h1, h2⟩ := offUpload_adds h.log
  unfold Session.pending
  rw [h1, h2]

theorem Uploading.aside {s s' : St} (h : Uploading x s.data s.log) (hk : AsideStep s s') :
    Uploading x s'.data s'.log := by
  obtain ⟨h1, h2⟩ := offUpload_adds hk.log
  have h3 := hk.pending
  refine ⟨by rw [h1, h2]; exact h.handed, ?_, ?_⟩
  · rw [h1, hk.up.receiveNext, hk.up.clientReadFinished]; exact h.next
  · rw [h2, h3, hk.up.receiveUser, hk.up.receiveNext, hk.up.clientReadFinished]; exact h.user

theorem closeSession_aside (s : St) : AsideStep s s.closeSession ∧ s.closeSession.data.state = .CLOSED := by
  unfold St.closeSession
  cases s.data.mSock with
  | some fd => exact ⟨⟨⟨rfl, rfl, rfl, rfl, rfl, fun _ => rfl⟩, Adds.one _ ⟨rfl, rfl, rfl⟩⟩, rfl⟩
  | none => exact ⟨⟨⟨rfl, rfl, rfl, rfl, rfl, fun _ => rfl⟩, Adds.one _ ⟨rfl, rfl, rfl⟩⟩, rfl⟩

theorem writePacket_aside (s : St) (p : Packet) : AsideStep s (s.writePacket p) :=
  ⟨.refl _, Adds.one _ ⟨rfl, rfl, rfl⟩⟩

/-! ## trimming -/

/-- The trim never faults on a buffer in order; it keeps it in order exactly if nothing stands
before `receiveUser` or nothing behind it. -/
theorem trim_held {s : St} (h : Uploading x s.data s.log) (hh : Held s.data (pending s.log))
    (hf : s.data.clientReadFinished = false) : ∃ b r,
      s._trimReceiveBuffer =
        .ok { s with data := { s.data with receiveBuffer := b, receiveSequence := r } } ∧
      HeldOrLost { s.data with receiveBuffer := b, receiveSequence := r } (pending s.log) ∧
      (s.data.receiveUser = s.data.receiveSequence ∨ s.data.receiveUser = s.data.receiveNext →
        Held { s.data with receiveBuffer := b, receiveSequence := r } (pending s.log)) := by
  have hdist := h.dist_open hf
  have hroom := hh.room_open hf
  have hbytes := hh.bytes
  unfold St._trimReceiveBuffer
  by_cases hUR : s.data.receiveUser = s.data.receiveSequence
  · dsimp only
    rw [if_pos hUR]
    exact ⟨s.data.receiveBuffer, s.data.receiveSequence, rfl, .inl hh, fun _ => hh⟩
  · dsimp only
    rw [if_neg hUR]
    generalize pending s.log = P at hdist hroom hbytes ⊢
    have hcount : (s.data.receiveNext - s.data.receiveUser).toNat = P.length := by
      unfold RECEIVE_BUFFER_SIZE at hroom
      rw [hdist, BitVec.toNat_ofNat]
      omega
    have hshift : shiftElements .receiveBuffer RECEIVE_BUFFER_SIZE s.data.receiveBuffer
        (s.data.receiveUser - s.data.receiveSequence) (s.data.receiveNext - s.data.receiveUser)
        (-(s.data.receiveUser - s.data.receiveSequence).toInt) =
          .ok (s.data.receiveBuffer.write 0 P) := by
      unfold RECEIVE_BUFFER_SIZE at hroom ⊢
      generalize s.data.receiveUser - s.data.receiveSequence = amt at hroom hbytes ⊢
      have hplaces : (amt.toNat : Int) + -amt.toInt = 0 := by
        rw [BitVec.toInt_eq_toNat_of_lt (by omega)]
        omega
      unfold shiftElements
      rw [hplaces, hcount, hbytes, if_pos]
      · rfl
      · unfold InRange
        omega
    rw [hshift]
    -- `receiveSequence` is now `receiveNext`, not `receiveUser`
    have hheld : s.data.receiveUser = s.data.receiveNext →
        Held { s.data with
          receiveBuffer := s.data.receiveBuffer.write 0 P
          receiveSequence := s.data.receiveNext } P := by
      intro hUN
      have hnil : P = [] := by
        rw [hUN, BitVec.sub_self] at hcount
        exact List.eq_nil_of_length_eq_zero hcount.symm
      refine ⟨?_, fun hne => absurd hnil hne, ?_⟩
      · show (s.data.receiveUser - s.data.receiveNext).toNat +
          (s.data.receiveNext - s.data.receiveUser).toNat ≤ _
        rw [hUN, BitVec.sub_self]
        exact Nat.zero_le _
      · rw [hnil]
        rfl
    refine ⟨_, _, rfl, ?_, fun hor => hheld (hor.resolve_left hUR)⟩
    by_cases hnil : P = []
    · refine .inl (hheld ?_)
      rw [hnil] at hcount
      have h0 : s.data.receiveNext - s.data.receiveUser = 0 := BitVec.eq_of_toNat_eq hcount
      bv_omega
    · refine .inr (.inl ⟨hnil, ?_, ?_, ?_⟩)
      · show (s.data.receiveNext - s.data.receiveNext).toNat ≤ _
        rw [BitVec.sub_self]
        exact Nat.zero_le _
      · exact le_trans (le_trans (Nat.le_add_left _ _) hroom) (Nat.le_add_right _ _)
      · show 2 ^ 32 ≤ (s.data.receiveUser - s.data.receiveNext).toNat + _
        unfold RECEIVE_BUFFER_SIZE at hroom ⊢
        have hpos : 0 < P.length := List.length_pos_iff.mpr hnil
        have hle : P.length ≤ 16384 := by omega
        clear hroom hbytes hdist hheld hshift
        bv_omega

/-! ## handing over -/

/-- the counters are in order, and so is the buffer, unless it is lost -/
def Kept (x : U32) (s : St) : Prop :=
  Uploading x s.data s.log ∧ HeldOrLost s.data (pending s.log)

/-- the counters and the buffer are in order -/
def InOrder (x : U32) (s : St) : Prop := Uploading x s.data s.log ∧ Held s.data (pending s.log)

theorem InOrder.kept {s : St} (h : InOrder x s) : Kept x s := ⟨h.1, .inl h.2⟩

theorem Kept.aside {s s' : St} (h : Kept x s) (hk : AsideStep s s') : Kept x s' :=
  ⟨h.1.aside hk, by rw [hk.pending]; exact h.2.keep hk.up⟩

theorem InOrder.aside {s s' : St} (h : InOrder x s) (hk : AsideStep s s') : InOrder x s' :=
  ⟨h.1.aside hk, by rw [hk.pending]; exact h.2.keep hk.up⟩

/-- an entry that accepts nothing and hands nothing over -/
theorem InOrder.emit {s : St} (h : InOrder x s) {e : Event} (ha : e.acceptedPart = [])
    (hh : e.handedPart = []) : InOrder x (s.emit e) := by
  have h1 : acceptedBytes (s.emit e).log = acceptedBytes s.log := by
    show acceptedBytes (s.log ++ [e]) = _
    rw [acceptedBytes_append]
    simp [acceptedBytes, ha]
  have h2 : handedBytes (s.emit e).log = handedBytes s.log := by
    show handedBytes (s.log ++ [e]) = _
    rw [handedBytes_append]
    simp [handedBytes, hh]
  have h3 : pending (s.emit e).log = pending s.log := by
    unfold pending
    rw [h1, h2]
  refine ⟨⟨by rw [h1, h2]; exact h.1.handed, by rw [h1]; exact h.1.next, ?_⟩, ?_⟩
  · rw [h2, h3]
    exact h.1.user
  · rw [h3]
    exact h.2

/-- the FIN slot is consumed when nothing is pending -/
theorem InOrder.finish {s : St} (h : InOrder x s) (hf : s.data.clientReadFinished = true)
    (hU : s.data.receiveUser = s.data.receiveNext - 1) : InOrder x s.finishUpStream := by
  obtain ⟨hup, hheld⟩ := h
  have hfew := hheld.few
  have hnil : pending s.log = [] := by
    rcases hup.dist with hd | ⟨_, hnil, _⟩
    · rw [hU, hf] at hd
      refine List.eq_nil_of_length_eq_zero ?_
      unfold RECEIVE_BUFFER_SIZE at hfew
      generalize (pending s.log).length = n at hd hfew
      clear hup hheld
      rw [b32_true] at hd
      bv_omega
    · exact hnil
  have hroom := hheld.room
  let t : St := { s with data := { s.data with receiveUser := s.data.receiveUser + 1 } }
  have ht : InOrder x t := by
    refine ⟨⟨hup.handed, hup.next, .inr ⟨hf, hnil, ?_⟩⟩, ?_, fun hne => absurd hnil hne, ?_⟩
    · show s.data.receiveUser + 1 = s.data.receiveNext
      rw [hU]
      bv_omega
    · show (s.data.receiveUser + 1 - s.data.receiveSequence).toNat +
        (s.data.receiveNext - (s.data.receiveUser + 1)).toNat ≤
          RECEIVE_BUFFER_SIZE + (b32 s.data.clientReadFinished).toNat
      rw [hU, hf, b32_true] at hroom ⊢
      unfold RECEIVE_BUFFER_SIZE at hroom ⊢
      generalize s.data.receiveNext = N at hroom ⊢
      generalize s.data.receiveSequence = R at hroom ⊢
      clear hup hheld hfew hnil hf hU
      bv_omega
    · rw [show pending t.log = [] from hnil]
      rfl
  unfold St.finishUpStream
  dsimp only
  split_ifs
  · exact ht.aside (closeSession_aside t).1
  · exact ht.emit rfl rfl

/-- a trim that has an effect leaves nothing behind -/
def TrimFine (d : Data) : Prop :=
  d.receiveUser = d.receiveSequence ∨ d.receiveUser = d.receiveNext

theorem InOrder.trim {s : St} (h : InOrder x s) (hf : s.data.clientReadFinished = false) :
    ∃ s', s._trimReceiveBuffer = .ok s' ∧ Kept x s' ∧ (TrimFine s.data → InOrder x s') := by
  obtain ⟨b, r, he, hlost, hheld⟩ := trim_held h.1 h.2 hf
  have hup : Uploading x { s.data with receiveBuffer := b, receiveSequence := r } s.log :=
    ⟨h.1.handed, h.1.next, h.1.user⟩
  exact ⟨_, he, ⟨hup, hlost⟩, fun hfine => ⟨hup, hheld hfine⟩⟩

theorem InOrder.taken {s : St} (h : InOrder x s)
    (huser : s.data.receiveUser = x + 1 + BitVec.ofNat 32 (handedBytes s.log).length) (n : Nat) :
    InOrder x (s.taken ((pending s.log).take n)) := by
  obtain ⟨hup, hheld⟩ := h
  have happ := hup.append
  have hlen := hup.length
  have hfew := hheld.few
  have hroom := hheld.room
  have hbroom := hheld.bytes_room
  have hbytes := hheld.bytes
  have hnext := hup.next
  generalize hP : pending s.log = P at happ hlen hfew hbroom hbytes ⊢
  have hH : handedBytes (s.taken (P.take n)).log = handedBytes s.log ++ P.take n := by
    show handedBytes (s.log ++ [Event.handed (P.take n)]) = _
    rw [handedBytes_append]
    exact congrArg _ (List.append_nil _)
  have hA : acceptedBytes (s.taken (P.take n)).log = acceptedBytes s.log := by
    show acceptedBytes (s.log ++ [Event.handed (P.take n)]) = _
    rw [acceptedBytes_append]
    exact List.append_nil _
  have hpend : pending (s.taken (P.take n)).log = P.drop (P.take n).length := by
    unfold pending at hP ⊢
    rw [hA, hH, List.length_append, ← List.drop_drop, hP]
  have hk : (P.take n).length ≤ P.length := by
    rw [List.length_take]
    exact min_le_right _ _
  generalize hkd : (P.take n).length = k at hk hpend
  -- the counters
  have hup' : Uploading x (s.taken (P.take n)).data (s.taken (P.take n)).log := by
    refine ⟨?_, ?_, .inl ?_⟩
    · rw [hA, hH, ← happ]
      exact (List.prefix_append_right_inj _).mpr (List.take_prefix _ _)
    · rw [hA]
      exact hnext
    · rw [hH, List.length_append, hkd]
      show s.data.receiveUser + BitVec.ofNat 32 (P.take n).length = _
      rw [huser, hkd, BitVec.ofNat_add, BitVec.add_assoc]
  -- the buffer
  have hdist : s.data.receiveNext - s.data.receiveUser =
      BitVec.ofNat 32 P.length + b32 s.data.clientReadFinished := by
    rw [hnext, huser, hlen, count_dist]
  have hNU : P.length ≤ (s.data.receiveNext - s.data.receiveUser).toNat := by
    have hf := b32_le s.data.clientReadFinished
    unfold RECEIVE_BUFFER_SIZE at hfew
    rw [hdist, BitVec.toNat_add, BitVec.toNat_ofNat]
    omega
  have hr : (s.data.receiveUser + BitVec.ofNat 32 (P.take n).length - s.data.receiveSequence).toNat =
      (s.data.receiveUser - s.data.receiveSequence).toNat + k := by
    have hf := b32_le s.data.clientReadFinished
    unfold RECEIVE_BUFFER_SIZE at hroom
    rw [hkd, sub_add_left, toNat_add_ofNat (by omega)]
  have hn : (s.data.receiveNext - (s.data.receiveUser + BitVec.ofNat 32 (P.take n).length)).toNat =
      (s.data.receiveNext - s.data.receiveUser).toNat - k := by
    rw [hkd, sub_add_right, toNat_sub_ofNat (by omega)]
  refine ⟨hup', ?_, ?_, ?_⟩
  · show (s.data.receiveUser + BitVec.ofNat 32 (P.take n).length - s.data.receiveSequence).toNat +
      (s.data.receiveNext - (s.data.receiveUser + BitVec.ofNat 32 (P.take n).length)).toNat ≤ _
    rw [hr, hn]
    exact le_trans (by omega) hroom
  · intro hne
    rw [hpend] at hne ⊢
    have h1 := hbroom fun hnil => hne (by rw [hnil, List.drop_nil])
    show (s.data.receiveUser + BitVec.ofNat 32 (P.take n).length - s.data.receiveSequence).toNat +
      (P.drop k).length ≤ _
    rw [hr, List.length_drop]
    exact le_trans (by omega) h1
  · rw [hpend]
    show s.data.receiveBuffer.read (s.data.receiveUser + BitVec.ofNat 32 (P.take n).length -
      s.data.receiveSequence).toNat (P.drop k).length = P.drop k
    have hsplit := Mem.read_add s.data.receiveBuffer
      (s.data.receiveUser - s.data.receiveSequence).toNat k (P.length - k)
    rw [show k + (P.length - k) = P.length by omega, hbytes] at hsplit
    have hdrop := congrArg (List.drop k) hsplit
    rw [List.drop_left' (Mem.read_length _ _ _)] at hdrop
    rw [hr, List.length_drop]
    exact hdrop.symm

/-- the trim after a send has nothing to lose, or it is put off -/
def SendFine (d : Data) : Prop :=
  d.clientReadFinished = false →
    d.mss.setWidth 32 ≤ d.receiveUser - d.receiveSequence → TrimFine d

theorem InOrder.finishSend {s : St} (h : InOrder x s) :
    ∃ s', s.finishSend = .ok s' ∧ Kept x s' ∧ (SendFine s.data → InOrder x s') := by
  by_cases hfin : s.data.clientReadFinished = true ∧ s.data.receiveUser = s.data.receiveNext - 1
  · have hdone := h.finish hfin.1 hfin.2
    exact ⟨_, if_pos hfin, hdone.kept, fun _ => hdone⟩
  · cases hf : s.data.clientReadFinished with
    | true =>
      refine ⟨s, ?_, h.kept, fun _ => h⟩
      unfold St.finishSend
      rw [if_neg hfin, if_neg (by simp [hf])]
    | false =>
      have he : s.finishSend = s.trimReceiveBuffer := by
        unfold St.finishSend
        rw [if_neg hfin, if_pos (by simp [hf])]
      rw [he]
      unfold St.trimReceiveBuffer
      by_cases hsmall : s.data.receiveUser - s.data.receiveSequence < s.data.mss.setWidth 32
      · exact ⟨s, if_pos hsmall, h.kept, fun _ => h⟩
      · obtain ⟨s', hs', hk, hfine⟩ := h.trim hf
        exact ⟨s', (if_neg hsmall).trans hs', hk,
          fun hok => hfine (hok hf (BitVec.not_lt.mp hsmall))⟩

/-- how many of the bytes that are offered a send takes -/
def took (d : Data) : SendResult → Nat
  | .accepted n => min n (St.offered d).toNat
  | _ => 0

/-- the members after a send, before any trim -/
def sent (d : Data) (r : SendResult) : Data :=
  { d with receiveUser := d.receiveUser + BitVec.ofNat 32 (took d r) }

theorem taken_data (s : St) (n : Nat) :
    (s.taken ((St.offeredBytes s.data).take n)).data = sent s.data (.accepted n) := by
  have hlen : ((St.offeredBytes s.data).take n).length = min n (St.offered s.data).toNat := by
    rw [List.length_take]
    exact congrArg _ (Mem.read_length _ _ _)
  show ({ s.data with receiveUser := _ } : Data) = _
  rw [hlen]
  rfl

/-- A call of `flushDataToServer` is fine: `receiveUser` is not behind 2^32, the FIN slot was not
consumed yet, and the trim after the send has nothing to lose. -/
def FlushFine (d : Data) (r : SendResult) : Prop :=
  d.state = .ESTABLISHED → d.isUpStreamComplete = false → St.offered d ≠ 0 →
    d.receiveSequence ≤ d.receiveUser ∧
    ¬ (d.clientReadFinished = true ∧ d.receiveUser = d.receiveNext) ∧
    (r.isAccepted = true → SendFine (sent d r))

theorem resetClient_aside (s : St) : AsideStep s s.resetClient :=
  (writePacket_aside s _).trans (closeSession_aside _).1

/-- the bytes that are offered are the pending ones -/
theorem InOrder.offered {s : St} (h : InOrder x s)
    (hnot : ¬ (s.data.clientReadFinished = true ∧ s.data.receiveUser = s.data.receiveNext)) :
    s.data.receiveUser = x + 1 + BitVec.ofNat 32 (handedBytes s.log).length ∧
      St.offered s.data = BitVec.ofNat 32 (pending s.log).length := by
  have hu : s.data.receiveUser = x + 1 + BitVec.ofNat 32 (handedBytes s.log).length :=
    h.1.user.resolve_right fun hc => hnot ⟨hc.1, hc.2.2⟩
  refine ⟨hu, ?_⟩
  unfold St.offered
  rw [h.1.next, hu, h.1.length, count_dist]
  exact add_sub_cancel_right _ _

/-- the bytes that are offered, when the pointer has not wrapped -/
theorem InOrder.offeredBytes {s : St} (h : InOrder x s)
    (hoff : St.offered s.data = BitVec.ofNat 32 (pending s.log).length)
    (hle : s.data.receiveSequence ≤ s.data.receiveUser) :
    St.offeredBytes s.data = pending s.log := by
  have hfew := h.2.few
  have hbytes := h.2.bytes
  unfold RECEIVE_BUFFER_SIZE at hfew
  unfold St.offeredBytes
  rw [offset_of_le hle, hoff, BitVec.toNat_ofNat, Nat.mod_eq_of_lt (by omega)]
  exact hbytes

/-- what a send from a buffer in order returns -/
theorem InOrder.sendToServer {s : St} (h : InOrder x s) (r : SendResult)
    (hne : St.offered s.data ≠ 0) :
    (∀ s', s.sendToServer r = .ok s' → Kept x s') ∧
      (s.data.receiveSequence ≤ s.data.receiveUser →
        ¬ (s.data.clientReadFinished = true ∧ s.data.receiveUser = s.data.receiveNext) →
        (r.isAccepted = true → SendFine (sent s.data r)) →
        ∃ s', s.sendToServer r = .ok s' ∧ InOrder x s') := by
  have hfew := h.2.few
  unfold RECEIVE_BUFFER_SIZE at hfew
  -- the send itself
  have hsend : s.data.receiveSequence ≤ s.data.receiveUser →
      ¬ (s.data.clientReadFinished = true ∧ s.data.receiveUser = s.data.receiveNext) → ∀ n,
      ∃ s', (s.taken ((St.offeredBytes s.data).take n)).finishSend = .ok s' ∧ Kept x s' ∧
        (SendFine (sent s.data (.accepted n)) → InOrder x s') := by
    intro hle hnot n
    obtain ⟨hu, hoff⟩ := h.offered hnot
    rw [← taken_data, h.offeredBytes hoff hle]
    exact (h.taken hu n).finishSend
  have hint : ¬ (s.data.clientReadFinished = true ∧ s.data.receiveUser = s.data.receiveNext) →
      (St.offered s.data).toInt = ((pending s.log).length : Int) := by
    intro hnot
    rw [(h.offered hnot).2, BitVec.toInt_eq_toNat_of_lt, BitVec.toNat_ofNat, Nat.mod_eq_of_lt]
    · omega
    · rw [BitVec.toNat_ofNat]
      omega
  constructor
  · intro s' he
    unfold St.sendToServer at he
    dsimp only at he
    split_ifs at he with hin
    -- an access within the buffer is one of pending bytes
    have hcons : ¬ (s.data.clientReadFinished = true ∧ s.data.receiveUser = s.data.receiveNext) := by
      rintro ⟨hf, hU⟩
      have hneg : (St.offered s.data).toInt = -1 := by
        unfold St.offered
        rw [hU, hf, BitVec.sub_self]
        decide
      rw [hneg] at hin
      unfold InRange at hin
      omega
    have hpos : (pending s.log).length ≠ 0 := by
      intro h0
      refine hne ?_
      rw [(h.offered hcons).2, h0]
      rfl
    rw [hint hcons] at hin
    have hle : s.data.receiveSequence ≤ s.data.receiveUser := by
      refine le_of_offset ?_
      unfold InRange at hin
      omega
    cases r with
    | accepted n =>
      obtain ⟨t, ht, hk, _⟩ := hsend hle hcons n
      cases ht.symm.trans he
      exact hk
    | wouldBlock =>
      cases he
      exact h.kept
    | error =>
      cases he
      exact h.kept.aside (resetClient_aside s)
  · intro hle hnot hfine
    have hin : InRange (offset s.data.receiveUser s.data.receiveSequence) (St.offered s.data).toInt
        RECEIVE_BUFFER_SIZE := by
      rw [hint hnot, offset_of_le hle]
      by_cases hnil : pending s.log = []
      · exact .inl (by rw [hnil]; rfl)
      · have hroom := h.2.bytes_room hnil
        exact .inr (by omega)
    unfold St.sendToServer
    dsimp only
    rw [if_pos hin]
    cases r with
    | accepted n =>
      obtain ⟨t, ht, _, hok⟩ := hsend hle hnot n
      exact ⟨t, ht, hok (hfine rfl)⟩
    | wouldBlock => exact ⟨s, rfl, h⟩
    | error => exact ⟨_, rfl, h.aside (resetClient_aside s)⟩

/-- what a call of `flushDataToServer` on a buffer in order returns -/
theorem InOrder.flush {s : St} (h : InOrder x s) (r : SendResult) :
    (∀ s', s.flushDataToServer r = .ok s' → Kept x s') ∧
      (FlushFine s.data r → ∃ s', s.flushDataToServer r = .ok s' ∧ InOrder x s') := by
  unfold St.flushDataToServer
  split_ifs with hs hc hfin hoff
  · exact ⟨fun s' he => by cases he; exact h.kept, fun _ => ⟨s, rfl, h⟩⟩
  · exact ⟨fun s' he => by cases he; exact h.kept, fun _ => ⟨s, rfl, h⟩⟩
  · have hdone := h.finish hfin.1 hfin.2
    exact ⟨fun s' he => by cases he; exact hdone.kept, fun _ => ⟨_, rfl, hdone⟩⟩
  · obtain ⟨h1, h2⟩ := h.sendToServer r hoff
    refine ⟨h1, fun hfine => ?_⟩
    obtain ⟨h3, h4, h5⟩ := hfine (not_not.mp hs) (by simpa using hc) hoff
    exact h2 h3 h4 h5
  · exact ⟨fun s' he => by cases he; exact h.kept, fun _ => ⟨s, rfl, h⟩⟩

/-! ## a buffer that is lost -/

theorem Behind.few' {d : Data} {P : List Byte} (h : Behind d P) : P.length ≤ 32769 := by
  have h1 := h.room
  have h2 := h.few
  have h3 := b32_le d.clientReadFinished
  unfold RECEIVE_BUFFER_SIZE at h1 h2
  omega

/-- the next send is out of bounds -/
theorem Behind.sendToServer {s : St} (h : Uploading x s.data s.log)
    (hb : Behind s.data (pending s.log)) (r : SendResult) :
    s.sendToServer r = .error .receiveBuffer := by
  have hfew := hb.few'
  have hpos := List.length_pos_iff.mpr hb.nonempty
  have hu : s.data.receiveUser = x + 1 + BitVec.ofNat 32 (handedBytes s.log).length :=
    h.user.resolve_right fun hc => hb.nonempty hc.2.1
  have hoff : (St.offered s.data).toInt = ((pending s.log).length : Int) := by
    unfold St.offered
    rw [h.next, hu, h.length, count_dist, show ∀ a b : U32, a + b - b = a from add_sub_cancel_right,
      BitVec.toInt_eq_toNat_of_lt, BitVec.toNat_ofNat, Nat.mod_eq_of_lt]
    · omega
    · rw [BitVec.toNat_ofNat]
      omega
  unfold St.sendToServer
  dsimp only
  refine if_neg fun hin => ?_
  rw [hoff] at hin
  rcases hin with hin | ⟨h1, _, h2⟩
  · omega
  · have hbehind := hb.behind
    rw [offset_of_le (le_of_offset h1)] at h2
    unfold RECEIVE_BUFFER_SIZE at hbehind h2
    omega

/-- the counters never meet below the FIN while the stream is not complete -/
theorem not_fin_of_incomplete {d : Data} (h : d.isUpStreamComplete = false)
    (hfin : d.clientReadFinished = true ∧ d.receiveUser = d.receiveNext - 1) : False := by
  unfold Data.isUpStreamComplete at h
  rw [hfin.1, hfin.2] at h
  simp at h

theorem Kept.flush {s s' : St} (h : Kept x s) {r : SendResult}
    (he : s.flushDataToServer r = .ok s') : Kept x s' := by
  rcases h.2 with hheld | hb | hc
  · exact (InOrder.flush ⟨h.1, hheld⟩ r).1 s' he
  · unfold St.flushDataToServer at he
    split_ifs at he with hs hup hfin hoff
    · cases he; exact h
    · cases he; exact h
    · exact (not_fin_of_incomplete (by simpa using hup) hfin).elim
    · rw [hb.sendToServer h.1 r] at he
      cases he
    · cases he; exact h
  · unfold St.flushDataToServer at he
    rw [if_pos (by rw [hc]; decide)] at he
    cases he
    exact h

theorem Kept.trim {s s' : St} (h : Kept x s) (hf : s.data.clientReadFinished = false)
    (he : s._trimReceiveBuffer = .ok s') : Kept x s' := by
  rcases h.2 with hheld | hb | hc
  · obtain ⟨t, ht, hk, _⟩ := InOrder.trim ⟨h.1, hheld⟩ hf
    cases ht.symm.trans he
    exact hk
  · have hfew := hb.few'
    have hpos := List.length_pos_iff.mpr hb.nonempty
    have hbehind := hb.behind
    have hcount : (s.data.receiveNext - s.data.receiveUser).toNat = (pending s.log).length := by
      rw [h.1.dist_open hf, BitVec.toNat_ofNat]
      omega
    unfold St._trimReceiveBuffer at he
    dsimp only at he
    rw [if_neg] at he
    · obtain ⟨b, hshift, _⟩ := bind_ok.mp he
      unfold shiftElements at hshift
      rw [if_neg] at hshift
      · cases hshift
      · rintro ⟨hin, _⟩
        rw [hcount] at hin
        unfold InRange RECEIVE_BUFFER_SIZE at hin
        unfold RECEIVE_BUFFER_SIZE at hbehind
        omega
    · intro hUR
      rw [hUR, BitVec.sub_self] at hbehind
      revert hbehind
      decide
  · unfold St._trimReceiveBuffer at he
    dsimp only at he
    split_ifs at he
    · cases he
      exact h
    · obtain ⟨b, _, hs'⟩ := bind_ok.mp he
      cases hs'
      exact ⟨⟨h.1.handed, h.1.next, h.1.user⟩, .inr (.inr hc)⟩

/-! ## taking in a payload -/

theorem Kept.makeRoom {s s' : St} (h : Kept x s) (hf : s.data.clientReadFinished = false) {len : U32}
    {r : SendResult} (he : s.makeRoom len r = .ok s') : Kept x s' := by
  unfold St.makeRoom at he
  split_ifs at he
  · obtain ⟨t, ht, he⟩ := bind_ok.mp he
    exact (h.flush ht).trim ((flushDataToServer_frame ht).clientReadFinished.trans hf) he
  · cases he
    exact h

/-- the marks after a call of `flushDataToServer` on an open stream -/
theorem flush_marks {s s' : St} {r : SendResult} (hs : s.data.state = .ESTABLISHED)
    (hf : s.data.clientReadFinished = false) (he : s.flushDataToServer r = .ok s') :
    s'.data.receiveUser = (sent s.data r).receiveUser ∧
      (s'.data.receiveSequence = s.data.receiveSequence ∨
        s'.data.receiveSequence = s.data.receiveNext ∧
          (sent s.data r).receiveUser ≠ s.data.receiveSequence) := by
  have hnone : took s.data r = 0 → (sent s.data r).receiveUser = s.data.receiveUser := by
    intro h0
    unfold sent
    rw [h0]
    exact BitVec.add_zero _
  unfold St.flushDataToServer at he
  split_ifs at he with hs' hc hfin hoff
  · exact absurd hs hs'
  · unfold Data.isUpStreamComplete at hc
    simp [hf] at hc
  · exact absurd (hf.symm.trans hfin.1) (by decide)
  · unfold St.sendToServer at he
    dsimp only at he
    split_ifs at he with hin
    cases r with
    | accepted n =>
      have hf' : (s.taken ((St.offeredBytes s.data).take n)).data.clientReadFinished = false := hf
      dsimp only at he
      unfold St.finishSend at he
      rw [if_neg (fun h => absurd (hf'.symm.trans h.1) (by decide)), if_pos (by rw [hf']; decide)]
        at he
      rw [← taken_data]
      unfold St.trimReceiveBuffer at he
      split_ifs at he
      · cases he
        exact ⟨rfl, .inl rfl⟩
      · unfold St._trimReceiveBuffer at he
        dsimp only at he
        split_ifs at he with hUR
        · cases he
          exact ⟨rfl, .inl rfl⟩
        · obtain ⟨b, _, hs''⟩ := bind_ok.mp he
          cases hs''
          exact ⟨rfl, .inr ⟨rfl, hUR⟩⟩
    | wouldBlock =>
      cases he
      exact ⟨(hnone rfl).symm, .inl rfl⟩
    | error =>
      cases he
      refine ⟨?_, .inl ?_⟩
      · rw [hnone rfl]
        exact (resetClient_aside s).up.receiveUser
      · exact (resetClient_aside s).up.receiveSequence
  · cases he
    refine ⟨(hnone ?_).symm, .inl rfl⟩
    rw [not_not] at hoff
    cases r with
    | accepted n =>
      show min n (St.offered s.data).toNat = 0
      rw [hoff]
      exact Nat.min_zero n
    | wouldBlock => rfl
    | error => rfl

/-- the marks once there is room for a payload of `len` bytes: a send that took everything left an
empty buffer -/
def roomMade (d : Data) (len : U32) (r : SendResult) : Data :=
  if d.getReceiveAvailable < len ∧ (sent d r).receiveUser = d.receiveNext then
    { d with receiveSequence := d.receiveNext, receiveUser := d.receiveNext }
  else d

/-- a send that leaves `receiveUser` at `receiveSequence` took nothing -/
theorem InOrder.took_none {s : St} (h : InOrder x s) (hf : s.data.clientReadFinished = false)
    {r : SendResult} (hU : (sent s.data r).receiveUser = s.data.receiveSequence) :
    (sent s.data r).receiveUser = s.data.receiveUser := by
  have hroom := h.2.room
  have hcap : took s.data r ≤ (s.data.receiveNext - s.data.receiveUser).toNat := by
    have hoff : St.offered s.data = s.data.receiveNext - s.data.receiveUser := by
      unfold St.offered
      rw [hf]
      exact BitVec.sub_zero _
    cases r with
    | accepted n =>
      rw [← hoff]
      exact min_le_right _ _
    | wouldBlock => exact Nat.zero_le _
    | error => exact Nat.zero_le _
  rw [hf] at hroom
  unfold sent at hU ⊢
  unfold RECEIVE_BUFFER_SIZE at hroom
  dsimp only at hU ⊢
  generalize took s.data r = k at hU hcap ⊢
  have hsum : s.data.receiveUser - s.data.receiveSequence + BitVec.ofNat 32 k = 0 := by
    rw [← sub_add_left, hU]
    exact BitVec.sub_self _
  have hk : (s.data.receiveUser - s.data.receiveSequence + BitVec.ofNat 32 k).toNat = 0 :=
    congrArg BitVec.toNat hsum
  have hf0 : (b32 false).toNat = 0 := rfl
  rw [toNat_add_ofNat (by omega)] at hk
  have hk0 : k = 0 := by omega
  rw [hk0]
  exact BitVec.add_zero _

theorem InOrder.makeRoom {s : St} (h : InOrder x s) (hs : s.data.state = .ESTABLISHED)
    (hf : s.data.clientReadFinished = false) {len : U32} {r : SendResult}
    (hsend : s.data.getReceiveAvailable < len → FlushFine s.data r ∧ TrimFine (sent s.data r)) :
    ∃ s', s.makeRoom len r = .ok s' ∧ InOrder x s' ∧
      s'.data.receiveSequence = (roomMade s.data len r).receiveSequence ∧
      s'.data.receiveUser = (roomMade s.data len r).receiveUser := by
  unfold St.makeRoom roomMade
  by_cases hlen : s.data.getReceiveAvailable < len
  · obtain ⟨h1, h2⟩ := hsend hlen
    obtain ⟨t, ht, hin⟩ := (h.flush r).2 h1
    obtain ⟨hU, hR⟩ := flush_marks hs hf ht
    have hft := flushDataToServer_frame ht
    have htrim : TrimFine t.data := by
      unfold TrimFine at h2 ⊢
      rw [hU, hft.receiveNext]
      rcases h2 with h2 | h2
      · exact .inl (h2.trans (hR.resolve_right fun hc => hc.2 h2).symm)
      · exact .inr h2
    obtain ⟨u, hu, _, hok⟩ := hin.trim (hft.clientReadFinished.trans hf)
    rw [if_pos hlen]
    refine ⟨u, bind_ok.mpr ⟨t, ht, hu⟩, hok htrim, ?_⟩
    have hmarks : u.data.receiveUser = t.data.receiveUser ∧
        (t.data.receiveUser = t.data.receiveSequence ∧
          u.data.receiveSequence = t.data.receiveSequence ∨
          t.data.receiveUser ≠ t.data.receiveSequence ∧
          u.data.receiveSequence = t.data.receiveNext) := by
      unfold St._trimReceiveBuffer at hu
      dsimp only at hu
      split_ifs at hu with hUR
      · cases hu
        exact ⟨rfl, .inl ⟨hUR, rfl⟩⟩
      · obtain ⟨b, _, hs''⟩ := bind_ok.mp hu
        cases hs''
        exact ⟨rfl, .inr ⟨hUR, rfl⟩⟩
    obtain ⟨huU, huR⟩ := hmarks
    by_cases hall : (sent s.data r).receiveUser = s.data.receiveNext
    · rw [if_pos ⟨hlen, hall⟩]
      refine ⟨?_, ?_⟩
      · show _ = s.data.receiveNext
        rcases huR with ⟨h3, h4⟩ | ⟨_, h4⟩
        · rw [h4, ← h3, hU, hall]
        · rw [h4, hft.receiveNext]
      · rw [huU, hU]
        exact hall
    · rw [if_neg fun hc => hall hc.2]
      -- nothing was handed over before, and nothing is taken now
      have hUR : (sent s.data r).receiveUser = s.data.receiveSequence := h2.resolve_right hall
      have htR := hR.resolve_right fun hc => hc.2 hUR
      have hsame := huR.resolve_right fun hc => hc.1 (hU.trans (hUR.trans htR.symm))
      refine ⟨hsame.2.trans htR, huU.trans (hU.trans ?_)⟩
      exact h.took_none hf hUR
  · rw [if_neg hlen, if_neg fun hc => hlen hc.1]
    exact ⟨s, rfl, h, rfl, rfl⟩

/-- the bytes of the payload that there is room for -/
def copied (s : St) : List Byte := s.packet.copiedData s.data.getReceiveAvailable

/-- whether the FIN of a packet is taken, of whose payload `n` bytes are copied -/
def takesFin (p : Packet) (n : Nat) : Bool := p.isFin ∧ BitVec.ofNat 32 n = p.getDataLength

/-- what `copyPayload` makes of the members, `fin` telling whether the FIN is taken -/
def copiedTo (d : Data) (bytes : List Byte) (push : U32) (fin : Bool) : Data :=
  { d with
    receiveBuffer := d.receiveBuffer.write (offset d.receiveNext d.receiveSequence).toNat bytes
    receiveNext := d.receiveNext + BitVec.ofNat 32 bytes.length + b32 fin
    receivePushSequence := push
    clientReadFinished := if fin then true else d.clientReadFinished }

/-- the last byte of a payload with PUSH -/
def pushedTo (s : St) : U32 :=
  if s.packet.isPush then s.data.receiveNext + BitVec.ofNat 32 (copied s).length
  else s.data.receivePushSequence

theorem copyPayload_def (s : St) : s.copyPayload =
    if InRange (offset s.data.receiveNext s.data.receiveSequence) (copied s).length
      RECEIVE_BUFFER_SIZE then
      .ok { s with
        data := copiedTo s.data (copied s) (pushedTo s) (takesFin s.packet (copied s).length)
        log := s.log ++ [Event.accepted (copied s)] }
    else .error .receiveBuffer := by
  unfold St.copyPayload pushedTo takesFin copiedTo
  dsimp only
  rw [show s.packet.copiedData s.data.getReceiveAvailable = copied s from rfl]
  by_cases hin : InRange (offset s.data.receiveNext s.data.receiveSequence) (copied s).length
      RECEIVE_BUFFER_SIZE
  · rw [if_pos hin, if_pos hin]
    by_cases hf : s.packet.isFin = true ∧
        BitVec.ofNat 32 (copied s).length = s.packet.getDataLength
    · cases hp : s.packet.isPush <;> simp [hp, hf, St.emit]
    · cases hp : s.packet.isPush <;> simp [hp, hf, St.emit]
  · rw [if_neg hin, if_neg hin]

theorem copyPayload_eq {s s' : St} (he : s.copyPayload = .ok s') :
    InRange (offset s.data.receiveNext s.data.receiveSequence) (copied s).length
      RECEIVE_BUFFER_SIZE ∧ s'.log = s.log ++ [Event.accepted (copied s)] ∧ s'.packet = s.packet ∧
      ∃ push fin, s'.data = copiedTo s.data (copied s) push fin ∧
        fin = takesFin s.packet (copied s).length := by
  rw [copyPayload_def] at he
  split_ifs at he with hin
  cases he
  exact ⟨hin, rfl, rfl, _, _, rfl, rfl⟩

theorem pending_accepted {s : St} (h : Uploading x s.data s.log) (bytes : List Byte) :
    pending (s.log ++ [Event.accepted bytes]) = pending s.log ++ bytes := by
  unfold pending
  rw [acceptedBytes_append, handedBytes_append]
  show (acceptedBytes s.log ++ (bytes ++ [])).drop (handedBytes s.log ++ []).length = _
  rw [List.append_nil, List.append_nil,
    List.drop_append_of_le_length (List.IsPrefix.length_le h.handed)]

theorem Uploading.copied {s : St} (h : Uploading x s.data s.log)
    (hf : s.data.clientReadFinished = false) (bytes : List Byte) (push : U32) (fin : Bool) :
    Uploading x (copiedTo s.data bytes push fin) (s.log ++ [Event.accepted bytes]) := by
  have hA : acceptedBytes (s.log ++ [Event.accepted bytes]) = acceptedBytes s.log ++ bytes := by
    rw [acceptedBytes_append]
    exact congrArg _ (List.append_nil _)
  have hH : handedBytes (s.log ++ [Event.accepted bytes]) = handedBytes s.log := by
    rw [handedBytes_append]
    exact List.append_nil _
  have hnext := h.next
  rw [hf, add_b32_false] at hnext
  refine ⟨?_, ?_, .inl ?_⟩
  · rw [hA, hH]
    exact h.handed.trans (List.prefix_append _ _)
  · rw [hA, List.length_append, BitVec.ofNat_add, ← BitVec.add_assoc]
    show s.data.receiveNext + BitVec.ofNat 32 bytes.length + b32 fin =
      _ + b32 (if fin = true then true else s.data.clientReadFinished)
    rw [hnext, hf]
    cases fin <;> rfl
  · rw [hH]
    refine h.user.resolve_right fun hc => ?_
    exact absurd (hf.symm.trans hc.1) (by decide)

/-- what is copied fits behind `receiveNext` -/
theorem copied_fits {s : St} (h : (s.data.receiveNext - s.data.receiveSequence).toNat ≤
    RECEIVE_BUFFER_SIZE) : (copied s).length +
      (s.data.receiveNext - s.data.receiveSequence).toNat ≤ RECEIVE_BUFFER_SIZE := by
  have hcap : (copied s).length ≤ s.data.getReceiveAvailable.toNat := by
    show (s.packet.payload.take _).length ≤ _
    rw [List.length_take]
    exact min_le_left _ _
  have havail : s.data.getReceiveAvailable.toNat =
      RECEIVE_BUFFER_SIZE - (s.data.receiveNext - s.data.receiveSequence).toNat := by
    unfold Data.getReceiveAvailable RECEIVE_BUFFER_SIZE at *
    generalize s.data.receiveNext = N at *
    generalize s.data.receiveSequence = R at *
    clear hcap
    bv_omega
  omega

/-- the room that is left behind the pending bytes -/
theorem InOrder.available {s : St} (h : InOrder x s) (hf : s.data.clientReadFinished = false) :
    (s.data.receiveNext - s.data.receiveSequence).toNat =
        (s.data.receiveUser - s.data.receiveSequence).toNat + (pending s.log).length ∧
      (copied s).length + (s.data.receiveUser - s.data.receiveSequence).toNat +
        (pending s.log).length ≤ RECEIVE_BUFFER_SIZE := by
  have hdist := h.1.dist_open hf
  have hroom := h.2.room_open hf
  have hsum : s.data.receiveNext - s.data.receiveSequence =
      (s.data.receiveUser - s.data.receiveSequence) + BitVec.ofNat 32 (pending s.log).length := by
    rw [← hdist]
    bv_omega
  have hnat : (s.data.receiveNext - s.data.receiveSequence).toNat =
      (s.data.receiveUser - s.data.receiveSequence).toNat + (pending s.log).length := by
    unfold RECEIVE_BUFFER_SIZE at hroom
    rw [hsum, toNat_add_ofNat (by omega)]
  have hroom' : (s.data.receiveNext - s.data.receiveSequence).toNat ≤ RECEIVE_BUFFER_SIZE := by
    omega
  have hfit := copied_fits hroom'
  exact ⟨hnat, by omega⟩

theorem InOrder.copied {s : St} (h : InOrder x s) (hf : s.data.clientReadFinished = false)
    (hin : InRange (offset s.data.receiveNext s.data.receiveSequence) (Session.copied s).length
      RECEIVE_BUFFER_SIZE) (push : U32) (fin : Bool) :
    Held (copiedTo s.data (Session.copied s) push fin) (pending s.log ++ Session.copied s) := by
  have hdist := h.1.dist_open hf
  have hbytes := h.2.bytes
  have hupdist := (h.1.copied hf (Session.copied s) push fin).dist
  obtain ⟨hnat, hfit⟩ := h.available hf
  generalize Session.copied s = bytes at hin hfit hupdist ⊢
  generalize pending s.log = P at hdist hbytes hnat hfit ⊢
  have hb := b32_le fin
  refine ⟨?_, ?_, ?_⟩
  · show (s.data.receiveUser - s.data.receiveSequence).toNat + (s.data.receiveNext +
      BitVec.ofNat 32 bytes.length + b32 fin - s.data.receiveUser).toNat ≤
        RECEIVE_BUFFER_SIZE + (b32 (if fin = true then true else s.data.clientReadFinished)).toNat
    have hN : (s.data.receiveNext + BitVec.ofNat 32 bytes.length + b32 fin -
        s.data.receiveUser).toNat = P.length + bytes.length + (b32 fin).toNat := by
      unfold RECEIVE_BUFFER_SIZE at hfit
      rw [sub_add_left, sub_add_left, hdist, ← BitVec.ofNat_add, BitVec.toNat_add,
        BitVec.toNat_ofNat]
      omega
    have hfin : (b32 (if fin = true then true else s.data.clientReadFinished)).toNat =
        (b32 fin).toNat := by
      rw [hf]
      cases fin <;> rfl
    rw [hN, hfin]
    omega
  · intro _
    show (s.data.receiveUser - s.data.receiveSequence).toNat + (P ++ bytes).length ≤ _
    rw [List.length_append]
    omega
  · show (s.data.receiveBuffer.write (offset s.data.receiveNext s.data.receiveSequence).toNat
      bytes).read (s.data.receiveUser - s.data.receiveSequence).toNat (P ++ bytes).length = P ++ bytes
    by_cases hnil : bytes = []
    · rw [hnil, List.append_nil, Mem.write_nil]
      exact hbytes
    · have hpos := List.length_pos_iff.mpr hnil
      have hle : s.data.receiveSequence ≤ s.data.receiveNext := by
        refine le_of_offset ?_
        unfold InRange at hin
        omega
      rw [offset_of_le hle, Int.toNat_natCast, hnat, List.length_append, Mem.read_write_end, hbytes]

/-- copying keeps a lost buffer lost -/
theorem Behind.copied {s : St} {P : List Byte} (hb : Behind s.data P)
    (hf : s.data.clientReadFinished = false) (push : U32) (fin : Bool) :
    Behind (copiedTo s.data (Session.copied s) push fin) (P ++ Session.copied s) := by
  have hroom := hb.room
  have hfew := hb.few
  rw [hf] at hroom
  have hroom' : (s.data.receiveNext - s.data.receiveSequence).toNat ≤ RECEIVE_BUFFER_SIZE := hroom
  have hlen := copied_fits hroom'
  have hN : (s.data.receiveNext + BitVec.ofNat 32 (Session.copied s).length + b32 fin -
      s.data.receiveSequence).toNat = (s.data.receiveNext - s.data.receiveSequence).toNat +
        (Session.copied s).length + (b32 fin).toNat := by
    have hb1 := b32_le fin
    unfold RECEIVE_BUFFER_SIZE at hlen
    rw [sub_add_left, sub_add_left, BitVec.toNat_add, toNat_add_ofNat (by omega)]
    omega
  have hfin : (b32 (if fin = true then true else s.data.clientReadFinished)).toNat =
      (b32 fin).toNat := by
    rw [hf]
    cases fin <;> rfl
  refine ⟨?_, ?_, ?_, hb.behind⟩
  · exact fun hnil => hb.nonempty (List.append_eq_nil_iff.mp hnil).1
  · show (s.data.receiveNext + BitVec.ofNat 32 (Session.copied s).length + b32 fin -
      s.data.receiveSequence).toNat ≤
        RECEIVE_BUFFER_SIZE + (b32 (if fin = true then true else s.data.clientReadFinished)).toNat
    rw [hN, hfin]
    omega
  · show (P ++ Session.copied s).length ≤ RECEIVE_BUFFER_SIZE + (s.data.receiveNext +
      BitVec.ofNat 32 (Session.copied s).length + b32 fin - s.data.receiveSequence).toNat
    rw [hN, List.length_append]
    omega

theorem Kept.copyPayload {s s' : St} (h : Kept x s) (hf : s.data.clientReadFinished = false)
    (he : s.copyPayload = .ok s') : Kept x s' := by
  obtain ⟨hin, hlog, _, push, fin, hd, _⟩ := copyPayload_eq he
  unfold Kept
  rw [hlog, hd, pending_accepted h.1]
  refine ⟨h.1.copied hf _ push fin, ?_⟩
  rcases h.2 with hheld | hb | hc
  · exact .inl (InOrder.copied ⟨h.1, hheld⟩ hf hin push fin)
  · exact .inr (.inl (hb.copied hf push fin))
  · exact .inr (.inr hc)

/-- the place that is copied to is not behind 2^32 -/
def CopyFine (s : St) : Prop := copied s ≠ [] → s.data.receiveSequence ≤ s.data.receiveNext

theorem InOrder.copyPayload {s : St} (h : InOrder x s) (hf : s.data.clientReadFinished = false)
    (hfine : CopyFine s) : ∃ s', s.copyPayload = .ok s' ∧ InOrder x s' := by
  obtain ⟨hnat, hfit⟩ := h.available hf
  have hin : InRange (offset s.data.receiveNext s.data.receiveSequence) (Session.copied s).length
      RECEIVE_BUFFER_SIZE := by
    by_cases hnil : Session.copied s = []
    · exact .inl (by rw [hnil]; rfl)
    · rw [offset_of_le (hfine hnil), hnat]
      exact .inr (by omega)
  obtain ⟨s', he⟩ : ∃ s', s.copyPayload = .ok s' := ⟨_, if_pos hin⟩
  obtain ⟨_, hlog, _, push, fin, hd, _⟩ := copyPayload_eq he
  refine ⟨s', he, ?_⟩
  unfold InOrder
  rw [hlog, hd, pending_accepted h.1]
  exact ⟨h.1.copied hf _ push fin, h.copied hf hin push fin⟩

theorem Kept.acceptPayload {s s' : St} (h : Kept x s) (hf : s.data.clientReadFinished = false)
    {i : ClientInput} (he : s.acceptPayload i = .ok s') : Kept x s' := by
  obtain ⟨t, ht, he⟩ := bind_ok.mp he
  obtain ⟨u, hu, he⟩ := bind_ok.mp he
  have hft := (makeRoom_frame ht).clientReadFinished.trans hf
  exact ((h.makeRoom hf ht).copyPayload hft hu).flush he

/-- the marks once the payload is copied -/
def payloadTaken (d : Data) (p : Packet) : Data :=
  let n := (p.copiedData d.getReceiveAvailable).length
  { d with
    receiveNext := d.receiveNext + BitVec.ofNat 32 n + b32 (takesFin p n)
    clientReadFinished := takesFin p n }

/-- A payload can be taken in and handed over: the send that makes room is fine and leaves nothing
behind, unless nothing stood before `receiveUser`; the place that is copied to is not behind 2^32;
and the second send is fine. -/
structure PayloadFine (d : Data) (p : Packet) (i : ClientInput) : Prop where
  room : d.getReceiveAvailable < p.getDataLength →
    FlushFine d i.firstSend ∧ TrimFine (sent d i.firstSend)
  copy : let d' := roomMade d p.getDataLength i.firstSend
    p.copiedData d'.getReceiveAvailable ≠ [] → d'.receiveSequence ≤ d'.receiveNext
  send : FlushFine (payloadTaken (roomMade d p.getDataLength i.firstSend) p) i.send

/-! ## the calls -/

theorem acceptAck_aside (s : St) : AsideStep s s.acceptAck :=
  ⟨⟨rfl, rfl, rfl, rfl, rfl, id⟩, Adds.refl _ _⟩

theorem acknowledgeDelayed_aside (s : St) (now : Int) : AsideStep s (s.acknowledgeDelayed now) := by
  unfold St.acknowledgeDelayed
  dsimp only
  split_ifs
  · exact .refl s
  · exact ⟨⟨rfl, rfl, rfl, rfl, rfl, id⟩, Adds.one _ ⟨rfl, rfl, rfl⟩⟩
  · exact .refl s

theorem finishAck_aside (s : St) (i : ClientInput) : AsideStep s (s.finishAck i) := by
  unfold St.finishAck
  split_ifs
  · exact .refl s
  · exact (closeSession_aside s).1
  · exact acknowledgeDelayed_aside s _

theorem Kept.acceptSegment {s s' : St} (h : Kept x s) {i : ClientInput}
    (he : s.acceptSegment i = .ok s') : Kept x s' := by
  have ha := h.aside (acceptAck_aside s)
  unfold St.acceptSegment at he
  dsimp only at he
  split_ifs at he with hf
  · cases he
    exact ha.aside (finishAck_aside _ i)
  · obtain ⟨t, ht, he⟩ := bind_ok.mp he
    cases he
    exact (ha.acceptPayload (by simpa using hf) ht).aside (finishAck_aside t i)

/-- a fine call stays fine on members with the same marks -/
theorem FlushFine.congr {d d' : Data} {r : SendResult} (h : FlushFine d r)
    (hstate : d'.state = .ESTABLISHED → d.state = .ESTABLISHED)
    (hfin : d'.clientReadFinished = d.clientReadFinished) (hmss : d'.mss = d.mss)
    (hR : d'.receiveSequence = d.receiveSequence) (hU : d'.receiveUser = d.receiveUser)
    (hN : d'.receiveNext = d.receiveNext) : FlushFine d' r := by
  unfold FlushFine SendFine TrimFine sent took St.offered Data.isUpStreamComplete at *
  dsimp only at *
  rw [hfin, hmss, hR, hU, hN]
  exact fun hs => h (hstate hs)

theorem InOrder.acceptPayload {s : St} (h : InOrder x s) (hs : s.data.state = .ESTABLISHED)
    (hf : s.data.clientReadFinished = false) {i : ClientInput}
    (hfine : PayloadFine s.data s.packet i) : ∃ s', s.acceptPayload i = .ok s' ∧ InOrder x s' := by
  obtain ⟨t, ht, hint, hR, hU⟩ := h.makeRoom hs hf hfine.room
  have hft := makeRoom_frame ht
  have hcopy := hfine.copy
  have hsend := hfine.send
  generalize hd' : roomMade s.data s.packet.getDataLength i.firstSend = d' at hR hU hcopy hsend
  have hN : t.data.receiveNext = d'.receiveNext := by
    rw [hft.receiveNext, ← hd']
    unfold roomMade
    split_ifs <;> rfl
  have hrest : d'.state = s.data.state ∧ d'.mss = s.data.mss := by
    rw [← hd']
    unfold roomMade
    split_ifs <;> exact ⟨rfl, rfl⟩
  have havail : t.data.getReceiveAvailable = d'.getReceiveAvailable := by
    unfold Data.getReceiveAvailable
    rw [hN, hR]
  have hcopied : Session.copied t = s.packet.copiedData d'.getReceiveAvailable := by
    unfold Session.copied Packet.copiedData
    rw [havail, hft.payload]
  have hcopyFine : CopyFine t := by
    intro hne
    rw [hR, hN]
    exact hcopy (hcopied ▸ hne)
  have hff := hft.clientReadFinished.trans hf
  obtain ⟨u, hu, hinu⟩ := hint.copyPayload hff hcopyFine
  obtain ⟨_, _, _, push, fin, hdu, hfin⟩ := copyPayload_eq hu
  have hflush : FlushFine u.data i.send := by
    rcases hft.packet with hp | hc
    · refine hsend.congr ?_ ?_ ?_ ?_ ?_ ?_
      · exact fun _ => hrest.1.trans hs
      · rw [hdu, hfin, hp, hcopied]
        show (if takesFin s.packet _ = true then true else t.data.clientReadFinished) = takesFin s.packet _
        rw [hff]
        cases takesFin s.packet (s.packet.copiedData d'.getReceiveAvailable).length <;> rfl
      · rw [hdu]
        exact hft.mss.trans hrest.2.symm
      · rw [hdu]
        exact hR
      · rw [hdu]
        exact hU
      · rw [hdu, hfin, hp, hcopied]
        exact congrArg (· + _ + _) hN
    · intro hs'
      rw [hdu] at hs'
      exact absurd (hc.symm.trans hs') (by decide)
  obtain ⟨v, hv, hinv⟩ := (hinu.flush i.send).2 hflush
  exact ⟨v, bind_ok.mpr ⟨t, ht, bind_ok.mpr ⟨u, hu, hv⟩⟩, hinv⟩

/-- the acknowledgement has no part in it -/
theorem PayloadFine.acceptAck {s : St} {p : Packet} {i : ClientInput} (h : PayloadFine s.data p i) :
    PayloadFine s.acceptAck.data p i := by
  obtain ⟨h1, h2, h3⟩ := h
  unfold roomMade at h2 h3
  refine ⟨h1, ?_, ?_⟩
  · unfold roomMade
    split_ifs at h2 ⊢ with hc
    · exact h2
    · exact absurd hc ‹_›
    · exact absurd ‹_› hc
    · exact h2
  · unfold roomMade
    split_ifs at h3 ⊢ with hc
    · exact h3
    · exact absurd hc ‹_›
    · exact absurd ‹_› hc
    · exact h3

theorem InOrder.acceptSegment {s : St} (h : InOrder x s) (hs : s.data.state = .ESTABLISHED)
    {i : ClientInput}
    (hfine : s.data.clientReadFinished = false → PayloadFine s.data s.packet i) :
    ∃ s', s.acceptSegment i = .ok s' ∧ InOrder x s' := by
  have ha := h.aside (acceptAck_aside s)
  unfold St.acceptSegment
  cases hf : s.data.clientReadFinished with
  | true =>
    have hfa : s.acceptAck.data.clientReadFinished = true := hf
    dsimp only
    rw [if_pos hfa]
    exact ⟨_, rfl, ha.aside (finishAck_aside _ i)⟩
  | false =>
    have hfa : s.acceptAck.data.clientReadFinished = false := hf
    obtain ⟨t, ht, hint⟩ := InOrder.acceptPayload ha hs hfa (hfine hf).acceptAck
    dsimp only
    rw [if_neg (by rw [hfa]; decide), ht]
    exact ⟨_, rfl, hint.aside (finishAck_aside t i)⟩

end

end TunServer.Session
