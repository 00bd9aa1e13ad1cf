import TunServer.Handler.Service
import TunServer.Sessions2.Relayed

/-!
# The sessions of a handler, each with its history

The session objects are never destroyed; they change places when they are deactivated.

* `Watched`          a handler and all the calls that each object got, in the order of `tcpSessions`;
* `Keeps`            what a session keeps of itself and its history, in any surroundings;
* `every_session`    every object of every run keeps it then;
* `Logged`           the histories hold all that was done, once;
* `sessions_relay`   so each object is a relay, over all the connections it serves.
-/

set_option linter.unusedVariables false

namespace TunServer.Handler

open Sessions2 (Op)

/-! ## the histories -/

/-- a call of a session, and what it finds -/
abbrev Call := Sessions2.St × Op

/-- calls that follow each other on what the sessions share, up to one that does not return -/
def calls (IP_MSS : U16) : Sessions2.St → List Op → List Call
  | _, [] => []
  | s, op :: ops => if s.hung then [] else (s, op) :: calls IP_MSS (Sessions2.step IP_MSS s op) ops

/-- what a call adds to the log -/
def Call.did (IP_MSS : U16) (c : Call) : List Sessions2.Event :=
  (Sessions2.step IP_MSS c.1 c.2).log.drop c.1.log.length

/-- Each call finds the object as the call before it left it. -/
inductive Chain (IP_MSS : U16) : Sessions2.Data → List Call → Sessions2.Data → Prop where
  | nil (d : Sessions2.Data) : Chain IP_MSS d [] d
  | snoc {d : Sessions2.Data} {l : List Call} (s : Sessions2.St) (op : Op)
      (h : Chain IP_MSS d l s.data) : Chain IP_MSS d (l ++ [(s, op)]) (Sessions2.step IP_MSS s op).data

/-- a handler, and all the calls that each object of `tcpSessions` got -/
structure Watched where
  handler : St
  histories : List (List Call)

namespace Watched

def start (shared : Sessions2.Shared) (tcpPacket : Sessions2.Packet) : Watched :=
  ⟨.init shared tcpPacket, []⟩

/-- the histories of the objects there are for the service -/
def seats (w : Watched) (v : Service) : List (List Call) :=
  if v.place = w.histories.length then w.histories ++ [[]] else w.histories

/-- the calls of the service are entered for the object they were made to -/
def serve (IP_MSS : U16) (w : Watched) (v : Service) : List (List Call) :=
  let d := (w.handler.seats IP_MSS v).getD v.place (.init IP_MSS)
  let own := (w.seats v).getD v.place [] ++ calls IP_MSS (w.handler.sessionAt d) v.ops
  if v.leaves then toEnd (w.seats v) v.place own else (w.seats v).set v.place own

def step (IP_MSS : U16) (w : Watched) (i : Input) : Watched where
  handler := Handler.step IP_MSS w.handler i
  histories := match w.handler.service IP_MSS i with
    | some v => w.serve IP_MSS v
    | none => w.histories

end Watched

section
variable {IP_MSS : U16}

/-- to watch a handler changes nothing -/
theorem watched_handler (w : Watched) (inputs : List Input) :
    (run (Watched.step IP_MSS) w inputs).handler = run (step IP_MSS) w.handler inputs := by
  induction inputs generalizing w with
  | nil => rfl
  | cons i inputs ih => exact ih (w.step IP_MSS i)

theorem run_hung {s : Sessions2.St} (hs : s.hung = true) (ops : List Op) :
    run (Sessions2.step IP_MSS) s ops = s := by
  induction ops with
  | nil => rfl
  | cons op ops ih =>
    have e : Sessions2.step IP_MSS s op = s := if_pos hs
    rw [run_cons, e, ih]

/-- what a session keeps of itself and its history, in any surroundings -/
structure Keeps (IP_MSS : U16) (P : Bool → Sessions2.Data → List Call → Prop) : Prop where
  fresh : P false (.init IP_MSS) []
  call : ∀ s l op, s.hung = false → P false s.data l →
    P (Sessions2.step IP_MSS s op).hung (Sessions2.step IP_MSS s op).data (l ++ [(s, op)])
  /-- a call of another session does not return -/
  left : ∀ d l, P false d l → P true d l

section
variable {P : Bool → Sessions2.Data → List Call → Prop}

theorem Keeps.calls (h : Keeps IP_MSS P) (ops : List Op) {s : Sessions2.St} {l : List Call}
    (hs : P s.hung s.data l) :
    P (run (Sessions2.step IP_MSS) s ops).hung (run (Sessions2.step IP_MSS) s ops).data
      (l ++ calls IP_MSS s ops) := by
  induction ops generalizing s l with
  | nil =>
    show P s.hung s.data (l ++ [])
    rwa [List.append_nil]
  | cons op ops ih =>
    unfold Handler.calls
    by_cases hhung : s.hung = true
    · rw [if_pos hhung, List.append_nil, run_hung hhung]
      exact hs
    · rw [if_neg hhung, run_cons, List.append_cons]
      have hopen : s.hung = false := by simpa using hhung
      rw [hopen] at hs
      exact ih (h.call s l op hopen hs)

theorem Keeps.others (h : Keeps IP_MSS P) {d : Sessions2.Data} {l : List Call} (hd : P false d l)
    (b : Bool) : P b d l := by
  cases b with
  | false => exact hd
  | true => exact h.left d l hd

/-- the histories belong to the objects, place by place -/
def Kept (P : Bool → Sessions2.Data → List Call → Prop) (w : Watched) : Prop :=
  List.Forall₂ (P w.handler.hung) w.handler.tcpSessions w.histories

/-- the objects and histories there are for a service -/
theorem kept_seats (h : Keeps IP_MSS P) {w : Watched} (hopen : w.handler.hung = false) (hw : Kept P w)
    (v : Service) : List.Forall₂ (P false) (w.handler.seats IP_MSS v) (w.seats v) := by
  unfold Kept at hw
  rw [hopen] at hw
  unfold St.seats Watched.seats
  rw [hw.length_eq]
  split_ifs
  · exact forall₂_concat hw h.fresh
  · exact hw

theorem kept_serve (h : Keeps IP_MSS P) {w : Watched} (hw : Kept P w) {v : Service}
    (hopen : w.handler.hung = false) {d : Sessions2.Data} {h' : St}
    (hs : Serves IP_MSS w.handler v d h') :
    Kept P ⟨h', w.serve IP_MSS v⟩ := by
  have hseats := kept_seats h hopen hw v
  obtain ⟨l, hl, hdl⟩ := forall₂_get? hseats hs.seat
  have hd : (w.handler.seats IP_MSS v).getD v.place (.init IP_MSS) = d := by
    rw [List.getD_eq_getElem?_getD, hs.seat]
    rfl
  have hown : P h'.hung (w.handler.after IP_MSS d v.ops).data
      (l ++ calls IP_MSS (w.handler.sessionAt d) v.ops) := by
    rw [hs.hung]
    refine h.calls v.ops ?_
    show P w.handler.hung d l
    rwa [hopen]
  have hrest := hseats.imp fun d' l' hdl' => h.others hdl' h'.hung
  have hcalls : (w.seats v).getD v.place [] = l := by
    rw [List.getD_eq_getElem?_getD, hl]
    rfl
  unfold Kept Watched.serve
  dsimp only
  rw [hs.tcpSessions, hd, hcalls]
  split_ifs
  · exact forall₂_toEnd hrest v.place hown
  · exact forall₂_set hrest v.place hown

theorem kept_step (h : Keeps IP_MSS P) {w : Watched} (hw : Kept P w) (i : Input) :
    Kept P (w.step IP_MSS i) := by
  cases hv : w.handler.service IP_MSS i with
  | some v =>
    obtain ⟨d, hs⟩ := step_served hv
    have e : w.step IP_MSS i = ⟨step IP_MSS w.handler i, w.serve IP_MSS v⟩ := by
      unfold Watched.step
      rw [hv]
    rw [e]
    exact kept_serve h hw (service_open hv) hs
  | none =>
    have hu := step_unserved hv
    have e : w.step IP_MSS i = ⟨step IP_MSS w.handler i, w.histories⟩ := by
      unfold Watched.step
      rw [hv]
    rw [e]
    unfold Kept at hw ⊢
    rw [hu.tcpSessions, hu.hung]
    exact hw

/-- **What a session keeps in any surroundings, every object of every run keeps.** -/
theorem every_session (h : Keeps IP_MSS P) (shared : Sessions2.Shared) (tcpPacket : Sessions2.Packet)
    (inputs : List Input) :
    Kept P (run (Watched.step IP_MSS) (.start shared tcpPacket) inputs) :=
  run_inv (Kept P) (fun w i hw _ => kept_step h hw i) .nil (along_true _ _ _)

end

/-! ## nothing is left out of the histories -/

theorem Call.did_eq (s : Sessions2.St) (op : Op) :
    (Sessions2.step IP_MSS s op).log = s.log ++ Call.did IP_MSS (s, op) := by
  obtain ⟨es, hes, _⟩ := Sessions2.step_grows IP_MSS s op
  show _ = s.log ++ (Sessions2.step IP_MSS s op).log.drop s.log.length
  rw [hes, List.drop_left]

theorem calls_log (ops : List Op) (s : Sessions2.St) :
    (run (Sessions2.step IP_MSS) s ops).log =
      s.log ++ (calls IP_MSS s ops).flatMap (Call.did IP_MSS) := by
  induction ops generalizing s with
  | nil => exact (List.append_nil _).symm
  | cons op ops ih =>
    unfold calls
    by_cases hhung : s.hung = true
    · rw [if_pos hhung, run_hung hhung]
      exact (List.append_nil _).symm
    · rw [if_neg hhung, run_cons, ih, Call.did_eq, List.flatMap_cons, List.append_assoc]

/-- what is entered for one object is entered in all -/
theorem flatten_set_perm {α : Type*} {hs : List (List α)} {k : Nat} {l : List α} (hl : hs[k]? = some l)
    (cs : List α) : (hs.set k (l ++ cs)).flatten.Perm (hs.flatten ++ cs) := by
  induction hs generalizing k with
  | nil => cases hl
  | cons x hs ih =>
    cases k with
    | zero =>
      cases hl
      show ((l ++ cs) ++ hs.flatten).Perm ((l ++ hs.flatten) ++ cs)
      rw [List.append_assoc, List.append_assoc]
      exact List.perm_append_comm.append_left l
    | succ k =>
      show (x ++ (hs.set k (l ++ cs)).flatten).Perm ((x ++ hs.flatten) ++ cs)
      rw [List.append_assoc]
      exact (ih hl).append_left x

/-- as many histories as objects, not too many of both, and all calls entered once -/
structure Logged (IP_MSS : U16) (w : Watched) : Prop where
  length : w.histories.length = w.handler.tcpSessions.length
  room : w.handler.tcpSessions.length ≤ MAXIMUM_TCP_SESSIONS
  log : (w.histories.flatten.flatMap (Call.did IP_MSS)).Perm w.handler.log

theorem logged_serve {w : Watched} (h : Logged IP_MSS w) {v : Service} {d : Sessions2.Data} {h' : St}
    (hplace : v.place < w.handler.tcpSessions.length ∨ v.place = w.handler.tcpSessions.length ∧
      w.handler.tcpSessions.length ≠ MAXIMUM_TCP_SESSIONS)
    (hs : Serves IP_MSS w.handler v d h') : Logged IP_MSS ⟨h', w.serve IP_MSS v⟩ := by
  have hlen : (w.seats v).length = (w.handler.seats IP_MSS v).length ∧
      (w.handler.seats IP_MSS v).length ≤ MAXIMUM_TCP_SESSIONS ∧
      (w.seats v).flatten = w.histories.flatten := by
    have hroom := h.room
    unfold Watched.seats St.seats
    rw [h.length]
    split_ifs
    · rw [List.length_append, List.length_append, h.length, List.flatten_append]
      exact ⟨rfl, by rw [List.length_singleton]; omega, List.append_nil _⟩
    · exact ⟨h.length, hroom, rfl⟩
  have hlt : v.place < (w.handler.seats IP_MSS v).length := (List.getElem?_eq_some_iff.mp hs.seat).1
  have hlt' : v.place < (w.seats v).length := by rwa [hlen.1]
  have hd : (w.handler.seats IP_MSS v).getD v.place (.init IP_MSS) = d := by
    rw [List.getD_eq_getElem?_getD, hs.seat]
    rfl
  let own := (w.seats v).getD v.place [] ++ calls IP_MSS (w.handler.sessionAt d) v.ops
  have hown : (w.seats v)[v.place]? = some ((w.seats v).getD v.place []) := by
    rw [List.getD_eq_getElem?_getD, List.getElem?_eq_getElem hlt']
    rfl
  have hserve : w.serve IP_MSS v =
      if v.leaves then toEnd (w.seats v) v.place own else (w.seats v).set v.place own := by
    unfold Watched.serve
    rw [hd]
  have hset : ((w.seats v).set v.place own).flatten.Perm
      (w.histories.flatten ++ calls IP_MSS (w.handler.sessionAt d) v.ops) := by
    rw [← hlen.2.2]
    exact flatten_set_perm hown _
  have hperm : (w.serve IP_MSS v).flatten.Perm
      (w.histories.flatten ++ calls IP_MSS (w.handler.sessionAt d) v.ops) := by
    rw [hserve]
    split_ifs
    · rw [← toEnd_set _ _ own]
      exact (toEnd_perm (List.getElem?_set_self hlt')).flatten.trans hset
    · exact hset
  have hsame : (w.serve IP_MSS v).length = (w.seats v).length := by
    rw [hserve]
    split_ifs
    · exact length_toEnd hlt'
    · exact List.length_set
  have hsessions : h'.tcpSessions.length = (w.handler.seats IP_MSS v).length := by
    rw [hs.tcpSessions]
    split_ifs
    · exact length_toEnd hlt
    · exact List.length_set
  refine ⟨by rw [hsame, hlen.1, hsessions], by rw [hsessions]; exact hlen.2.1, ?_⟩
  have hlog : h'.log = w.handler.log ++
      (calls IP_MSS (w.handler.sessionAt d) v.ops).flatMap (Call.did IP_MSS) := by
    rw [hs.log]
    exact calls_log v.ops (w.handler.sessionAt d)
  rw [hlog]
  refine (hperm.flatMap_right _).trans ?_
  rw [List.flatMap_append]
  exact h.log.append_right _

theorem logged_step {w : Watched} (h : Logged IP_MSS w) (i : Input) :
    Logged IP_MSS (w.step IP_MSS i) := by
  cases hv : w.handler.service IP_MSS i with
  | some v =>
    obtain ⟨d, hs⟩ := step_served hv
    have e : w.step IP_MSS i = ⟨step IP_MSS w.handler i, w.serve IP_MSS v⟩ := by
      unfold Watched.step
      rw [hv]
    rw [e]
    exact logged_serve h (service_place hv) hs
  | none =>
    have hu := step_unserved hv
    have e : w.step IP_MSS i = ⟨step IP_MSS w.handler i, w.histories⟩ := by
      unfold Watched.step
      rw [hv]
    rw [e]
    refine ⟨?_, ?_, ?_⟩
    · rw [hu.tcpSessions]
      exact h.length
    · rw [hu.tcpSessions]
      exact h.room
    · rw [hu.log]
      exact h.log

/-! ## the sessions are relays -/

/-- what an object has done on its server sockets -/
def served (IP_MSS : U16) (l : List Call) : List Sessions2.ServerCall :=
  Sessions2.serverCalls (l.flatMap (Call.did IP_MSS))

/-- a reset, an error of the socket or of the connection, or a timeout that closes the session -/
def Cuts (c : Call) : Prop := Sessions2.Cuts c.1 c.2

open Sessions2 (relayOf shown UncutUnless BUFFER_SIZE)

/-- the object stands for the relay that its history leads to -/
def IsRelay (IP_MSS : U16) (d : Sessions2.Data) (l : List Call) : Prop :=
  Explained (Relay.next BUFFER_SIZE) shown (UncutUnless (∃ c ∈ l, Cuts c)) none (served IP_MSS l)
    (relayOf d)

/-- each call goes as the relay goes, and cuts a stream off only if it may -/
def EachRelays (IP_MSS : U16) (l : List Call) : Prop :=
  ∀ c ∈ l, Sessions2.Relays (Cuts c) c.1 (Sessions2.step IP_MSS c.1 c.2)

theorem keeps_relay (IP_MSS : U16) : Keeps IP_MSS fun b d l =>
    (b = false → Sessions2.Represented d) ∧ IsRelay IP_MSS d l ∧ EachRelays IP_MSS l where
  fresh := ⟨fun _ => Sessions2.represented_init IP_MSS, Explained.refl _ _ _ _,
    fun c hc => absurd hc List.not_mem_nil⟩
  call s l op hopen h := by
    have hrep : s.hung = false → Sessions2.Represented s.data := fun _ => h.1 rfl
    have heach : EachRelays IP_MSS (l ++ [(s, op)]) := by
      intro c hc
      rcases List.mem_append.mp hc with hc | hc
      · exact h.2.2 c hc
      · rw [List.mem_singleton.mp hc]
        exact Sessions2.relays_step hrep op
    refine ⟨Sessions2.represented_step s op hrep, ?_, heach⟩
    obtain ⟨os, h1, h2⟩ := @Sessions2.relays_step s IP_MSS hrep op
    rw [Call.did_eq, Sessions2.serverCalls_append] at h1
    have hserved : served IP_MSS (l ++ [(s, op)]) = served IP_MSS l ++ os := by
      unfold served
      rw [List.flatMap_append, Sessions2.serverCalls_append, ← List.append_cancel_left h1,
        List.flatMap_singleton]
    unfold IsRelay
    rw [hserved]
    refine (h.2.1.mono fun a ha hcut => ?_).trans (h2.mono fun a ha hcut => ?_)
    · obtain ⟨c, hc, hcuts⟩ := ha hcut
      exact ⟨c, List.mem_append_left _ hc, hcuts⟩
    · exact ⟨(s, op), List.mem_append_right _ List.mem_cons_self, ha hcut⟩
  left d l h := ⟨Bool.noConfusion, h.2⟩

theorem keeps_chain (IP_MSS : U16) : Keeps IP_MSS fun _ d l => Chain IP_MSS (.init IP_MSS) l d where
  fresh := .nil _
  call s l op _ h := .snoc s op h
  left d l h := h

/-- **Every session of a handler is a relay.**  In every run each object of `tcpSessions` (of which there
are never more than the limit) has got calls that each found it as the one before it left it; what it
did on its server sockets, over all the connections it served, is what a relay shows; each call goes as
the relay goes, and cuts a stream off only if this call is a reset, an error or a timeout; and all that
the handler's log has was done in these calls. -/
theorem sessions_relay (shared : Sessions2.Shared) (tcpPacket : Sessions2.Packet) (inputs : List Input) :
    let w := run (Watched.step IP_MSS) (.start shared tcpPacket) inputs
    w.handler = run (step IP_MSS) (.init shared tcpPacket) inputs ∧
      w.handler.tcpSessions.length ≤ MAXIMUM_TCP_SESSIONS ∧
      (w.histories.flatten.flatMap (Call.did IP_MSS)).Perm w.handler.log ∧
      List.Forall₂
        (fun d l => Chain IP_MSS (.init IP_MSS) l d ∧ IsRelay IP_MSS d l ∧ EachRelays IP_MSS l)
        w.handler.tcpSessions w.histories := by
  intro w
  have hlogged : Logged IP_MSS w :=
    run_inv (Logged IP_MSS) (fun w i hw _ => logged_step hw i) ⟨rfl, Nat.zero_le _, .nil⟩
      (along_true _ _ _)
  have hchain := every_session (keeps_chain IP_MSS) shared tcpPacket inputs
  have hrelay := every_session (keeps_relay IP_MSS) shared tcpPacket inputs
  refine ⟨watched_handler _ inputs, hlogged.room, hlogged.log, ?_⟩
  exact hchain.mp (fun d l hc hr => ⟨hc, hr.2⟩) hrelay

end

end TunServer.Handler
