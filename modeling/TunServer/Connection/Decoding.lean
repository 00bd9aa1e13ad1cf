import TunServer.Connection.Fetcher

/-!
# The connections of a response

* `accepted`   the client and the address of an entry that is valid;
* `Carries`    a request has the id and the address of its entry;
* `Decoded`    the callback got the valid entries in their order, and was called if there are any;
* `decoded_iff`   this is so when each of them has the id of the server itself.
-/

set_option linter.unusedVariables false

namespace TunServer.Connection

section
variable {J : Type*} (L : Library J)

/-- What an entry asks for, if it is valid: all of its fields convert, `client_id` is at least 1, `port`
is a port, and `addr` is an address. -/
def accepted (e : Entry J) : Option (Int × SockAddr) := do
  let clientId ← L.asLong e.clientId
  let name ← L.asString e.addr
  let port ← L.asInt e.port
  let addr ← L.initializeAddr name port
  if 1 ≤ clientId ∧ 1 ≤ port ∧ port ≤ 65535 then return (clientId, addr) else none

/-- the request that the callback gets for an entry -/
def Carries (x : Int × SockAddr) (r : ConnectRequest) : Prop := (r.id.toNat : Int) = x.1 ∧ r.addr = x.2

instance (x : Int × SockAddr) (r : ConnectRequest) : Decidable (Carries x r) :=
  inferInstanceAs (Decidable (_ ∧ _))

/-- the calls of the callbacks for these requests -/
def told (rs : List ConnectRequest) : List Event := if rs = [] then [] else [.onRequest rs]

/-- The callback was called with the valid entries, if there are any, and with nothing else. -/
def Decoded (conns : List (Entry J)) (s s' : St) : Prop :=
  ∃ rs, List.Forall₂ Carries (conns.filterMap (accepted L)) rs ∧ s'.log = s.log ++ told rs

/-- The code goes through the fields in another order, and takes the id from the fetcher. -/
theorem connectRequest_eq (d : Data) (e : Entry J) :
    connectRequest L d e = (accepted L e).map fun x => ⟨d.id, x.2⟩ := by
  unfold connectRequest accepted
  cases L.asLong e.clientId with
  | none => rfl
  | some clientId =>
    dsimp only [Option.bind_eq_bind, Option.bind_some]
    by_cases hid : clientId < 1
    · have hno : ∀ port : Int, ¬ (1 ≤ clientId ∧ 1 ≤ port ∧ port ≤ 65535) := fun port h => by omega
      rw [if_pos hid]
      cases L.asString e.addr with
      | none => rfl
      | some name =>
        cases hport : L.asInt e.port with
        | none => rfl
        | some port =>
          dsimp only [Option.bind_some]
          cases L.initializeAddr name port with
          | none => rfl
          | some addr =>
            dsimp only [Option.bind_some]
            rw [if_neg (hno port)]
            rfl
    · rw [if_neg hid]
      cases L.asString e.addr with
      | none => rfl
      | some name =>
        cases L.asInt e.port with
        | none => rfl
        | some port =>
          dsimp only [Option.bind_some]
          by_cases hport : port < 1 ∨ port > 65535
          · rw [if_pos hport]
            cases L.initializeAddr name port with
            | none => rfl
            | some addr =>
              dsimp only [Option.bind_some]
              rw [if_neg (by omega)]
              rfl
          · rw [if_neg hport]
            cases L.initializeAddr name port with
            | none => rfl
            | some addr =>
              dsimp only [Option.bind_some]
              rw [if_pos (by omega)]
              rfl

/-- **The loop over the entries**: a malformed one is left out, and leaves its neighbours alone. -/
theorem collect_eq (d : Data) (conns : List (Entry J)) (result : List ConnectRequest) :
    collect L d conns result =
      result ++ (conns.filterMap (accepted L)).map fun x => ⟨d.id, x.2⟩ := by
  induction conns generalizing result with
  | nil => exact (List.append_nil result).symm
  | cons conn conns ih =>
    unfold collect
    rw [connectRequest_eq]
    cases hconn : accepted L conn with
    | none =>
      rw [List.filterMap_cons_none hconn]
      exact ih result
    | some x =>
      rw [List.filterMap_cons_some hconn, List.map_cons]
      show collect L d conns (result ++ [⟨d.id, x.2⟩]) = _
      rw [ih, List.append_assoc]
      rfl

/-- what the callback gets for a response with these connections -/
theorem process_log (s : St) (doc : Document J) (conns : List (Entry J))
    (hdoc : doc.connections = some conns) :
    (process L s doc).log = s.log ++
      told ((conns.filterMap (accepted L)).map fun x => ⟨(storeId L s.data doc).id, x.2⟩) := by
  unfold process told
  rw [hdoc]
  dsimp only
  rw [collect_eq, List.nil_append, ite_not]
  split_ifs with h
  · exact (List.append_nil s.log).symm
  · rfl

theorem told_inj {log : List Event} {rs rs' : List ConnectRequest}
    (h : log ++ told rs = log ++ told rs') : rs = rs' := by
  have h1 : told rs = told rs' := List.append_cancel_left h
  unfold told at h1
  split_ifs at h1 with hr hr'
  · rw [hr, hr']
  · cases h1
    rfl

/-- **When the callback gets the entries**: each valid one names, for its client, the id that the server
has been given itself. -/
theorem decoded_iff (s : St) (doc : Document J) (conns : List (Entry J))
    (hdoc : doc.connections = some conns) :
    Decoded L conns s (process L s doc) ↔
      ∀ x ∈ conns.filterMap (accepted L), x.1 = ((storeId L s.data doc).id.toNat : Int) := by
  have hlog := process_log L s doc conns hdoc
  constructor
  · rintro ⟨rs, hrs, hrs'⟩
    rw [hlog] at hrs'
    obtain rfl := told_inj hrs'
    rw [List.forall₂_map_right_iff, List.forall₂_same] at hrs
    intro x hx
    exact (hrs x hx).1.symm
  · intro h
    refine ⟨_, ?_, hlog⟩
    rw [List.forall₂_map_right_iff, List.forall₂_same]
    intro x hx
    exact ⟨(h x hx).symm, rfl⟩

end

/-- JSON numbers and strings -/
inductive Value where
  | number (n : Int)
  | text (s : String)
  deriving DecidableEq, Repr

/-- a library that knows one address, and no document -/
def oneAddress : Library Value where
  deserializeJson _ := none
  asUnsigned j := j.casesOn (fun n => BitVec.ofInt 32 n) fun _ => 0
  asLong j := j.casesOn (fun n => some n) fun _ => some 0
  asString j := j.casesOn (fun _ => none) some
  asInt j := j.casesOn (fun n => some n) fun _ => some 0
  initializeAddr name port :=
    if name = "10.0.0.7" then some ⟨0x0A000007, BitVec.ofInt 16 port⟩ else none

/-- the fetcher of the server 1, and the client 2 that wants to connect -/
def serverOne : St := { data := { id := 1 }, responseData := .new (fun _ => 0) 1000 }

def fromClient (id : Int) : Entry Value := ⟨.number id, .text "10.0.0.7", .number 80⟩

theorem decoded_own_id :
    Decoded oneAddress [fromClient 1, ⟨.text "", .text "", .number 0⟩] serverOne
      (process oneAddress serverOne ⟨none, some [fromClient 1, ⟨.text "", .text "", .number 0⟩]⟩) :=
  (decoded_iff oneAddress serverOne _ _ rfl).mpr (by decide)

/-- The client's id does not reach the callback. -/
theorem not_decoded :
    ¬ Decoded oneAddress [fromClient 2] serverOne
      (process oneAddress serverOne ⟨none, some [fromClient 2]⟩) := by
  rintro ⟨rs, hrs, hlog⟩
  rw [process_log oneAddress serverOne _ _ rfl] at hlog
  obtain rfl := told_inj hlog
  exact absurd hrs (by decide)

end TunServer.Connection
