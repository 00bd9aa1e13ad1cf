import TunServer.Sessions2.Frame

/-!
# What of a session its handler depends on

A handler asks of a session whether it is closed, which socket it has and which ends it serves.

* `opens`      the packet opens the closed session;
* `LifeStep`   what a call can do to these: keep them, close the session, or open it;
* `step_life`  every call does one of these things.
-/

set_option linter.unusedVariables false

namespace TunServer.Sessions2

/-- the packet opens the closed session: the server is not refused, the window shift is legal -/
def opens (d : Data) (p : Packet) (i : ClientInput) : Bool :=
  d.state = .CLOSED ∧ p.isSyn ∧ ¬ p.isAck ∧ p.windowShift ≤ 14 ∧ i.connect ≠ .thrown

/-- What a call can do to the life of a session. -/
inductive LifeStep (d : Data) : Op → Data → Prop where
  | kept {op : Op} {d' : Data} (state : d'.state = .CLOSED ↔ d.state = .CLOSED)
      (socket : d'.socket = d.socket) (client : d'.clientAddress = d.clientAddress)
      (server : d'.serverAddress = d.serverAddress) : LifeStep d op d'
  | closed {op : Op} {d' : Data} (state : d'.state = .CLOSED) (socket : d'.socket = none) :
      LifeStep d op d'
  | opened {p : Incoming} {i : ClientInput} {d' : Data} (h : opens d p.val i = true)
      (state : d'.state ≠ .CLOSED) (socket : d'.socket = some i.fd)
      (client : d'.clientAddress = p.val.source) (server : d'.serverAddress = p.val.destination) :
      LifeStep d (.receiveFromClient p i) d'

section
variable {d : Data} {op : Op}

theorem LifeStep.same (d : Data) (op : Op) : LifeStep d op d := .kept Iff.rfl rfl rfl rfl

theorem KeepsUp.life {d' : Data} (h : KeepsUp d d') (op : Op) : LifeStep d op d' :=
  .kept (by rw [h.state]) h.socket h.clientAddress h.serverAddress

theorem closeSession_life (s : St) : LifeStep d op s.closeSession.data := by
  rw [St.closeSession_data]
  exact .closed rfl rfl

theorem resetClient_life (s : St) : LifeStep d op s.resetClient.data :=
  closeSession_life (s.sendBack _)

end

/-! ## `receiveFromClient` -/

theorem openConnected_life (s : St) (IP_MSS : U16) (i : ClientInput) (res : Int) :
    (s.openConnected IP_MSS i res).data.state ≠ .CLOSED ∧
      (s.openConnected IP_MSS i res).data.socket = some i.fd ∧
      (s.openConnected IP_MSS i res).data.clientAddress = s.packet.source ∧
      (s.openConnected IP_MSS i res).data.serverAddress = s.packet.destination := by
  unfold St.openConnected
  dsimp only
  split_ifs
  · refine ⟨States.noConfusion, ?_, ?_, ?_⟩ <;> simp [St.sendSynAck, St.opened]
  · refine ⟨?_, ?_, ?_, ?_⟩ <;> simp [St.opened]

theorem acceptSegment_life (s : St) (i : ClientInput) (op : Op) :
    LifeStep s.data op (s.acceptSegment i).data := by
  obtain ⟨s1, hack, hclosed | hacc⟩ := acceptSegment_cases s i
  · rw [hclosed]
    exact closeSession_life s1
  · obtain ⟨b, fin, hd⟩ := hacc.data
    have h := hack.up
    rw [hd]
    exact .kept (by rw [h.state]) h.socket h.clientAddress h.serverAddress

theorem handlePacket_life (IP_MSS : U16) (s : St) (p : Incoming) (i : ClientInput)
    (hp : s.packet = p.val) :
    LifeStep s.data (.receiveFromClient p i) (s.handlePacket IP_MSS i).data := by
  have hs := handlePacket_step IP_MSS s i
  generalize s.handlePacket IP_MSS i = s' at hs
  cases hs with
  | same => exact .same _ _
  | reset =>
    rw [(sendReset_reply s).data]
    exact .same _ _
  | ack => exact .same _ _
  | synAck => exact .same _ _
  | opened res hs hsyn hack hshift hres =>
    obtain ⟨h1, h2, h3, h4⟩ := openConnected_life s IP_MSS i res
    rw [hp] at hsyn hack hshift h3 h4
    exact .opened (decide_eq_true ⟨hs, hsyn, by simpa using hack, hshift, by rw [hres]; simp⟩)
      h1 h2 h3 h4
  | closed => exact closeSession_life s
  | established hs =>
    unfold St.establish
    refine .kept (iff_of_false States.noConfusion (by rw [hs]; decide)) ?_ ?_ ?_ <;>
      simp [Data.pushRTT]
  | accepted => exact acceptSegment_life s i _

theorem receiveFromClient_life (IP_MSS : U16) (s : St) (p : Incoming) (i : ClientInput) :
    LifeStep s.data (.receiveFromClient p i) (receiveFromClient IP_MSS s p i).2.data := by
  unfold receiveFromClient
  split_ifs
  · exact handlePacket_life IP_MSS { s with packet := p } p i rfl
  · exact .same _ _

/-! ## the other calls -/

theorem receiveFromServer_life (s : St) (r : RecvResult) (now : Int) (turns : Nat) (op : Op) :
    LifeStep s.data op (s.receiveFromServer r now turns).data := by
  by_cases h : s.data.state = .ESTABLISHED ∧ s.data.receiveFromServerFinished = false
  · have hup := (readFromServer_read s r).up.trans
      (flushDataToClient_flush (s.readFromServer r) now turns).up
    rcases receiveFromServer_open h.1 h.2 r now turns with he | he
    · rw [he]
      exact hup.life op
    · rw [he, St.unsetFrom_data]
      exact hup.life op
  · rw [receiveFromServer_skip h]
    exact .same _ _

/-- a read leaves the socket open -/
theorem receiveFromServer_socket (s : St) (r : RecvResult) (now : Int) (turns : Nat) :
    (s.receiveFromServer r now turns).data.socket = s.data.socket := by
  by_cases h : s.data.state = .ESTABLISHED ∧ s.data.receiveFromServerFinished = false
  · have hup := (readFromServer_read s r).up.trans
      (flushDataToClient_flush (s.readFromServer r) now turns).up
    rcases receiveFromServer_open h.1 h.2 r now turns with he | he
    · rw [he]
      exact hup.socket
    · rw [he, St.unsetFrom_data]
      exact hup.socket
  · rw [receiveFromServer_skip h]

theorem finishSend_life (s : St) (amt : U32) (op : Op) : LifeStep s.data op (s.finishSend amt).data := by
  unfold St.finishSend
  dsimp only
  split_ifs
  · exact closeSession_life _
  · refine .kept ?_ ?_ ?_ ?_ <;> simp
  · refine .kept ?_ ?_ ?_ ?_ <;> simp
  · exact .kept Iff.rfl rfl rfl rfl

theorem flushDataToServer_life (s : St) (lastError : Int) (r : SendResult) (now now' : Int)
    (op : Op) : LifeStep s.data op (s.flushDataToServer lastError r now now').data := by
  unfold St.flushDataToServer
  split_ifs with hs hskip
  · unfold St.finishConnect
    dsimp only
    split_ifs
    · exact .same _ _
    · refine .kept (iff_of_false ?_ (by rw [hs]; decide)) ?_ ?_ ?_ <;> simp
    · exact closeSession_life _
  · exact .same _ _
  · unfold St.sendToServer
    cases r with
    | error => exact resetClient_life s
    | accepted n => exact finishSend_life (s.emit _) _ op
    | wouldBlock => exact finishSend_life (s.emit _) _ op

theorem finishSend_hung (s : St) (amt : U32) : (s.finishSend amt).hung = s.hung := by
  unfold St.finishSend
  dsimp only
  split_ifs <;> simp

/-- handing bytes to the server comes to an end -/
theorem flushDataToServer_hung (s : St) (lastError : Int) (r : SendResult) (now now' : Int) :
    (s.flushDataToServer lastError r now now').hung = s.hung := by
  unfold St.flushDataToServer St.finishConnect St.sendToServer
  dsimp only
  split_ifs
  · rfl
  · simp
  · simp
  · rfl
  · cases r with
    | error => simp [St.resetClient]
    | accepted n => exact finishSend_hung _ _
    | wouldBlock => exact finishSend_hung _ _

theorem checkStatus_life (s : St) (now now' : Int) (op : Op) :
    LifeStep s.data op (s.checkStatus now now').2.data := by
  rcases checkStatus_cases s now now' with ⟨_, h⟩ | ⟨_, h⟩ | ⟨_, h⟩
  · rw [h]
    exact .same _ _
  · rw [h]
    exact .same _ _
  · rw [h]
    exact closeSession_life s

/-- **What a call does to the life of a session.** -/
theorem step_life (IP_MSS : U16) (s : St) (op : Op) : LifeStep s.data op (step IP_MSS s op).data := by
  unfold step
  split_ifs
  · exact .same _ _
  · cases op with
    | receiveFromClient p i => exact receiveFromClient_life IP_MSS s p i
    | receiveFromServer r now turns => exact receiveFromServer_life s r now turns _
    | flushDataToServer lastError r now now' => exact flushDataToServer_life s lastError r now now' _
    | flushDataToClient now turns => exact (flushDataToClient_flush s now turns).up.life _
    | onSocketError => exact resetClient_life s
    | checkStatus now now' => exact checkStatus_life s now now' _
    | closeSession => exact closeSession_life s

section
variable {d d' : Data} {op : Op}

/-- only a packet opens a closed session -/
theorem LifeStep.opener (h : LifeStep d op d') (hs : d.state = .CLOSED) (hs' : d'.state ≠ .CLOSED) :
    ∃ p i, op = .receiveFromClient p i ∧ opens d p.val i = true := by
  cases h with
  | kept state => exact absurd (state.mpr hs) hs'
  | closed state => exact absurd state hs'
  | opened h => exact ⟨_, _, rfl, h⟩

end

end TunServer.Sessions2
