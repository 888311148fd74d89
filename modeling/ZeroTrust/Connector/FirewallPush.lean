/-
# `ZeroTrust.Connector.FirewallPush` — the firewall policy on its way to the agents

The connector keeps the latest firewall policy for agents that connect later and
broadcasts it to those that are connected (`main.rs`); each agent connection is a
task of its own (`ConnectorControlPlane::connect` of `control_plane.rs`).  The two
writes are two steps, and so are the two reads of a new connection:

    writer           connection
    ------           ----------
    store data       subscribe
    send data        get the latest, and put it on the connection if there is one
                     then, in a loop: receive a broadcast and put it on the
                     connection, or handle a message of the agent

They interleave freely.  A broadcast receiver that lagged gets no message, and
`select!` then waits for the agent alone until the next turn of the loop.

What holds throughout is `Inv`: a receiver that has something left to read has the
latest policy left to read, and one that has nothing left has put it on its
connection already.  The order subscribe-then-get is what makes it so: a policy
stored after the `get` is sent after the subscription.

    `inv_step`               one step of any party
    `exists_drained`         an open connection drains by its own steps
    `handleControlMessage_writes`
                             the handler of control messages is such a writer
-/
import ZeroTrust.Lib.Broadcast
import ZeroTrust.Lib.Run
import ZeroTrust.Connector.Handler

namespace ZeroTrust.Connector.FirewallPush

open Lib (run Meets)
open Lib.Broadcast

/-! ## The parties -/

/-- Where the task of an agent connection stands. -/
inductive Phase where
  /-- Subscribed, the latest policy not read yet. -/
  | subscribed
  /-- Waiting for room on the connection. -/
  | sending (msg : ControlMessage)
  /-- In `select!`; after a lag the receiver's branch is disabled. -/
  | selecting (receiving : Bool)
  /-- The agent is gone, and the receiver dropped. -/
  | closed

/-- `pos` is the position of `firewall_rx`, `out` what was put on the connection. -/
structure Connection where
  phase : Phase
  pos : Nat
  out : List ControlMessage

inductive Writer where
  | idle
  /-- `data` is stored and not broadcast yet. -/
  | stored (data : ByteArray)

/-- `sent` is everything that was broadcast while there was a receiver. -/
structure State where
  latestFwPolicy : Option ByteArray
  writer : Writer
  sent : List ByteArray
  connections : List Connection

def init : State where
  latestFwPolicy := none
  writer := .idle
  sent := []
  connections := []

/-- `broadcast::channel::<Vec<u8>>(16)`. -/
def capacity : Nat := 16

def firewallMessage (data : ByteArray) : ControlMessage :=
  { type := "firewall_policy", payload := data }

def pong : ControlMessage := { type := "pong", payload := .empty }

def Connection.isOpen (c : Connection) : Bool :=
  match c.phase with
  | .closed => false
  | _ => true

inductive TaskEvent where
  | get
  | put
  | recv
  | agentMessage (type : String)
  | close

/-- One step of the task of a connection. -/
def Connection.step (latest : Option ByteArray) (sent : List ByteArray) (c : Connection) :
    TaskEvent → Option Connection
  | .get =>
      match c.phase with
      | .subscribed =>
          match latest with
          | some data => some { c with phase := .sending (firewallMessage data) }
          | none => some { c with phase := .selecting true }
      | _ => none
  | .put =>
      match c.phase with
      | .sending msg => some { c with phase := .selecting true, out := c.out ++ [msg] }
      | _ => none
  | .recv =>
      match c.phase with
      | .selecting true =>
          match recv capacity sent c.pos with
          | .value data pos => some { c with phase := .sending (firewallMessage data), pos }
          | .lagged pos => some { c with phase := .selecting false, pos }
          | .empty => none
      | _ => none
  | .agentMessage type =>
      match c.phase with
      | .selecting _ =>
          some { c with phase := if type = "ping" then .sending pong else .selecting true }
      | _ => none
  | .close =>
      match c.phase with
      | .selecting _ => some { c with phase := .closed }
      | _ => none

inductive Event where
  | store (data : ByteArray)
  | send
  | connect
  | task (i : Nat) (e : TaskEvent)

def step (s : State) : Event → Option State
  | .store data =>
      match s.writer with
      | .idle => some { s with latestFwPolicy := some data, writer := .stored data }
      | .stored _ => none
  | .send =>
      match s.writer with
      | .idle => none
      | .stored data =>
          -- without a receiver `send` is an error and the message is gone
          some { s with
            writer := .idle
            sent := if s.connections.any Connection.isOpen then s.sent ++ [data] else s.sent }
  | .connect =>
      some { s with
        connections := s.connections ++
          [{ phase := .subscribed, pos := s.sent.length, out := [] }] }
  | .task i e =>
      match s.connections[i]? with
      | none => none
      | some c =>
          (c.step s.latestFwPolicy s.sent e).map fun c' =>
            { s with connections := s.connections.set i c' }

/-! ## What the agents have -/

/-- The payload of the last `firewall_policy` message. -/
def lastPolicy (out : List ControlMessage) : Option ByteArray :=
  ((out.filter fun m => m.type = "firewall_policy").map ControlMessage.payload).getLast?

/-- What is on the connection, with the message that waits for room on it. -/
def Connection.committed (c : Connection) : List ControlMessage :=
  match c.phase with
  | .sending msg => c.out ++ [msg]
  | _ => c.out

/-- Nothing left to receive, and nothing waiting for room. -/
def Connection.Drained (c : Connection) (sent : List ByteArray) : Prop :=
  c.phase = .selecting true ∧ c.pos = sent.length

def Event.stored : Event → Option ByteArray
  | .store data => some data
  | _ => none

/-- The last policy that was stored in the course of the events. -/
def lastStored (es : List Event) : Option ByteArray := (es.filterMap Event.stored).getLast?

@[simp] theorem lastPolicy_nil : lastPolicy [] = none := rfl

@[simp] theorem lastPolicy_firewallMessage (out : List ControlMessage) (data : ByteArray) :
    lastPolicy (out ++ [firewallMessage data]) = some data := by
  simp [lastPolicy, firewallMessage]

@[simp] theorem lastPolicy_pong (out : List ControlMessage) :
    lastPolicy (out ++ [pong]) = lastPolicy out := by
  simp [lastPolicy, pong]

/-! ## The invariant -/

/-- What holds of an open connection.  While the writer is between its two writes only
the position is known: the broadcast that follows puts every receiver behind. -/
structure Connection.Tracks (c : Connection) (s : State) : Prop where
  inside : c.pos ≤ s.sent.length
  fresh : c.phase = .subscribed → c.out = []
  /-- Something left to receive: the latest policy is the last of it. -/
  behind : s.writer = .idle → c.pos < s.sent.length → s.sent.getLast? = s.latestFwPolicy
  /-- Nothing left to receive: the latest policy is on the connection already. -/
  reached : s.writer = .idle → c.pos = s.sent.length → c.phase ≠ .subscribed →
    lastPolicy c.committed = s.latestFwPolicy

structure Inv (s : State) : Prop where
  stored : ∀ data, s.writer = .stored data → s.latestFwPolicy = some data
  tracks : ∀ c ∈ s.connections, c.isOpen = true → c.Tracks s

theorem inv_init : Inv init where
  stored _ h := by cases h
  tracks _ hc := absurd hc List.not_mem_nil

variable {s s' : State} {c c' : Connection}

theorem tracks_get (h : c.Tracks s) (hstep : c.step s.latestFwPolicy s.sent .get = some c') :
    c'.Tracks s := by
  simp only [Connection.step] at hstep
  split at hstep
  next hphase =>
    have hout := h.fresh hphase
    split at hstep
    next data hlatest =>
      cases hstep
      refine ⟨h.inside, nofun, h.behind, ?_⟩
      intro _ _ _
      rw [hlatest]
      exact lastPolicy_firewallMessage _ _
    next hlatest =>
      cases hstep
      refine ⟨h.inside, nofun, h.behind, ?_⟩
      intro _ _ _
      rw [hlatest]
      show lastPolicy c.out = none
      rw [hout, lastPolicy_nil]
  · cases hstep

theorem tracks_put (h : c.Tracks s) (hstep : c.step s.latestFwPolicy s.sent .put = some c') :
    c'.Tracks s := by
  simp only [Connection.step] at hstep
  split at hstep
  next msg hphase =>
    cases hstep
    refine ⟨h.inside, nofun, h.behind, ?_⟩
    intro hidle hpos _
    have hreached := h.reached hidle hpos (by simp [hphase])
    rwa [Connection.committed, hphase] at hreached
  · cases hstep

theorem tracks_recv (h : c.Tracks s)
    (hstep : c.step s.latestFwPolicy s.sent .recv = some c') : c'.Tracks s := by
  simp only [Connection.step] at hstep
  split at hstep
  next hphase =>
    split at hstep
    next data pos hrecv =>
      cases hstep
      obtain ⟨hdata, rfl⟩ := recv_value hrecv
      have hlt : c.pos < s.sent.length := (List.getElem?_eq_some_iff.mp hdata).1
      refine ⟨hlt, nofun, fun hidle _ => h.behind hidle hlt, ?_⟩
      -- the message that brings the receiver to the end is the latest policy
      intro hidle hpos _
      rw [← h.behind hidle hlt, getLast?_of_recv_value hrecv hpos]
      exact lastPolicy_firewallMessage _ _
    next pos hrecv =>
      cases hstep
      obtain ⟨hforward, hlt⟩ := recv_lagged (by decide) hrecv
      refine ⟨Nat.le_of_lt hlt, nofun, ?_, ?_⟩
      · intro hidle _
        exact h.behind hidle (Nat.lt_trans hforward hlt)
      · intro _ hpos _
        exact absurd hpos (Nat.ne_of_lt hlt)
    · cases hstep
  · cases hstep

theorem tracks_agentMessage {type : String} (h : c.Tracks s)
    (hstep : c.step s.latestFwPolicy s.sent (.agentMessage type) = some c') :
    c'.Tracks s := by
  simp only [Connection.step] at hstep
  split at hstep
  next receiving hphase =>
    cases hstep
    have hold : c.committed = c.out := by rw [Connection.committed, hphase]
    refine ⟨h.inside, ?_, h.behind, ?_⟩
    · intro hfresh
      split at hfresh <;> cases hfresh
    · intro hidle hpos _
      have hreached := h.reached hidle hpos (by simp [hphase])
      rw [← hreached, hold]
      by_cases hping : type = "ping"
      · simp [Connection.committed, hping]
      · simp [Connection.committed, hping]
  · cases hstep

/-- One step of a connection's task. -/
theorem tracks_step {e : TaskEvent} (h : c.Tracks s)
    (hstep : c.step s.latestFwPolicy s.sent e = some c') (hopen : c'.isOpen = true) :
    c'.Tracks s := by
  cases e with
  | get => exact tracks_get h hstep
  | put => exact tracks_put h hstep
  | recv => exact tracks_recv h hstep
  | agentMessage type => exact tracks_agentMessage h hstep
  | close =>
      simp only [Connection.step] at hstep
      split at hstep
      · cases hstep
        cases hopen
      · cases hstep

theorem isOpen_of_step {latest : Option ByteArray} {sent : List ByteArray} {e : TaskEvent}
    (hstep : c.step latest sent e = some c') : c.isOpen = true := by
  cases hphase : c.phase with
  | closed => cases e <;> simp [Connection.step, hphase] at hstep
  | subscribed => simp [Connection.isOpen, hphase]
  | sending msg => simp [Connection.isOpen, hphase]
  | selecting receiving => simp [Connection.isOpen, hphase]

theorem inv_store (h : Inv s) (data : ByteArray) :
    Inv { s with latestFwPolicy := some data, writer := .stored data } where
  stored data' hdata := by
    cases hdata
    rfl
  tracks c hc hopen := by
    refine ⟨(h.tracks c hc hopen).inside, (h.tracks c hc hopen).fresh, ?_, ?_⟩
    · intro hidle
      cases hidle
    · intro hidle
      cases hidle

theorem inv_send (h : Inv s) {data : ByteArray} (hwriter : s.writer = .stored data) :
    Inv { s with
      writer := .idle
      sent := if s.connections.any Connection.isOpen then s.sent ++ [data] else s.sent } where
  stored _ hdata := by cases hdata
  tracks c hc hopen := by
    have hany : s.connections.any Connection.isOpen = true :=
      List.any_eq_true.mpr ⟨c, hc, hopen⟩
    have hinside := (h.tracks c hc hopen).inside
    simp only [hany, if_true]
    refine ⟨?_, (h.tracks c hc hopen).fresh, ?_, ?_⟩
    · show c.pos ≤ (s.sent ++ [data]).length
      rw [List.length_append]
      exact Nat.le_add_right_of_le hinside
    · intro _ _
      show (s.sent ++ [data]).getLast? = s.latestFwPolicy
      rw [List.getLast?_append, h.stored data hwriter]
      rfl
    · intro _ hpos
      have hlen : c.pos = s.sent.length + 1 := by
        rw [← List.length_singleton (a := data), ← List.length_append]
        exact hpos
      omega

theorem inv_connect (h : Inv s) :
    Inv { s with
      connections := s.connections ++
        [{ phase := .subscribed, pos := s.sent.length, out := [] }] } where
  stored := h.stored
  tracks c hc hopen := by
    rcases List.mem_append.mp hc with hold | hnew
    · have htracks := h.tracks c hold hopen
      exact ⟨htracks.inside, htracks.fresh, htracks.behind, htracks.reached⟩
    · obtain rfl := List.mem_singleton.mp hnew
      refine ⟨Nat.le_refl _, fun _ => rfl, ?_, ?_⟩
      · intro _ hlt
        exact absurd hlt (Nat.lt_irrefl _)
      · intro _ _ hphase
        exact absurd rfl hphase

/-- **One step of any party.** -/
theorem inv_step {e : Event} (h : Inv s) (hstep : step s e = some s') : Inv s' := by
  cases e with
  | store data =>
      simp only [step] at hstep
      split at hstep
      · cases hstep
        exact inv_store h data
      · cases hstep
  | send =>
      simp only [step] at hstep
      split at hstep
      · cases hstep
      next data hwriter =>
        cases hstep
        exact inv_send h hwriter
  | connect =>
      cases hstep
      exact inv_connect h
  | task i e =>
      simp only [step] at hstep
      split at hstep
      · cases hstep
      next c hc =>
        obtain ⟨c', hc', rfl⟩ := Option.map_eq_some_iff.mp hstep
        refine ⟨h.stored, ?_⟩
        intro d hd hopen
        have htracks : d.Tracks s := by
          rcases List.mem_or_eq_of_mem_set hd with hold | rfl
          · exact h.tracks d hold hopen
          · have hmem := List.mem_of_getElem? hc
            exact tracks_step (h.tracks c hmem (isOpen_of_step hc')) hc' hopen
        exact ⟨htracks.inside, htracks.fresh, htracks.behind, htracks.reached⟩

theorem lastStored_concat (es : List Event) (e : Event) :
    lastStored (es ++ [e]) =
      match e with
      | .store data => some data
      | _ => lastStored es := by
  cases e <;> simp [lastStored, Event.stored]

/-- What new connections are given is what was stored last. -/
theorem latestFwPolicy_of_run {es : List Event} (h : run step init es = some s) :
    s.latestFwPolicy = lastStored es := by
  refine Lib.run_history (motive := fun es s => s.latestFwPolicy = lastStored es) rfl ?_ h
  intro es s e s' _ ih hstep
  rw [lastStored_concat]
  cases e with
  | store data =>
      simp only [step] at hstep
      split at hstep
      · cases hstep
        rfl
      · cases hstep
  | send =>
      simp only [step] at hstep
      split at hstep
      · cases hstep
      · cases hstep
        exact ih
  | connect =>
      cases hstep
      exact ih
  | task i e =>
      simp only [step] at hstep
      split at hstep
      · cases hstep
      · obtain ⟨c', -, rfl⟩ := Option.map_eq_some_iff.mp hstep
        exact ih

theorem inv_run {es : List Event} (h : run step init es = some s) : Inv s :=
  Lib.run_invariant (fun _ _ _ hinv hstep => inv_step hinv hstep) inv_init h

theorem run_write (hidle : s.writer = .idle) (data : ByteArray) :
    ∃ s', run step s [.store data, .send] = some s' ∧ s'.writer = .idle ∧
      s'.latestFwPolicy = some data := by
  have hstore : step s (.store data) =
      some { s with latestFwPolicy := some data, writer := .stored data } := by
    simp only [step, hidle]
  exact ⟨_, Lib.run_cons.mpr ⟨_, hstore, rfl⟩, rfl, rfl⟩

/-- **The handler of control messages is the writer.**  What one message stores and
broadcasts are the writer's two steps, for at most one policy. -/
theorem handleControlMessage_writes {L : Libraries} {h h' : HandlerState L}
    {msg : ControlMessage} {now : SystemTime} (hmsg : handleControlMessage h msg now = some h')
    (hlatest : s.latestFwPolicy = h.latestFwPolicy) (hidle : s.writer = .idle) :
    ∃ es s', run step s es = some s' ∧ s'.writer = .idle ∧
      s'.latestFwPolicy = h'.latestFwPolicy ∧
      h'.firewallTx = h.firewallTx ++ es.filterMap Event.stored := by
  have hquiet {g : HandlerState L} (hlatest' : g.latestFwPolicy = h.latestFwPolicy)
      (htx : g.firewallTx = h.firewallTx) :
      ∃ es s', run step s es = some s' ∧ s'.writer = .idle ∧
        s'.latestFwPolicy = g.latestFwPolicy ∧
        g.firewallTx = h.firewallTx ++ es.filterMap Event.stored :=
    ⟨[], s, rfl, hidle, hlatest.trans hlatest'.symm, by simp [htx]⟩
  unfold handleControlMessage at hmsg
  split at hmsg
  · split at hmsg <;> cases hmsg <;> exact hquiet rfl rfl
  · split at hmsg
    · split at hmsg <;> cases hmsg <;> exact hquiet rfl rfl
    · split at hmsg
      · unfold handlePolicySnapshot at hmsg
        split at hmsg
        · cases hmsg
          exact hquiet rfl rfl
        next snap _ =>
          split at hmsg
          · cases hmsg
          · cases hmsg
            exact hquiet rfl rfl
          · cases hmsg
            obtain ⟨s', hrun, hidle', hstored⟩ := run_write hidle
              (String.ofList (Lib.Json.render serdeEscape (firewallPolicy snap))).toUTF8
            exact ⟨_, s', hrun, hidle', hstored, rfl⟩
      · cases hmsg
        exact hquiet rfl rfl

/-- The drained connections, once the writer is done. -/
theorem lastPolicy_of_drained (h : Inv s) (hidle : s.writer = .idle) (hc : c ∈ s.connections)
    (hdrained : c.Drained s.sent) : lastPolicy c.out = s.latestFwPolicy := by
  obtain ⟨hphase, hpos⟩ := hdrained
  have hopen : c.isOpen = true := by simp [Connection.isOpen, hphase]
  have hreached := (h.tracks c hc hopen).reached hidle hpos (by simp [hphase])
  rwa [Connection.committed, hphase] at hreached

/-! ## Draining -/

section Draining

variable {latest : Option ByteArray} {sent : List ByteArray}

/-- A connection in `select!` receives what is left, message by message; after a lag
it first needs a message of the agent. -/
theorem exists_drained_selecting : ∀ (left : Nat) {c : Connection},
    c.phase = .selecting true → c.pos ≤ sent.length → sent.length - c.pos = left →
    ∃ ts c', run (Connection.step latest sent) c ts = some c' ∧ c'.Drained sent := by
  intro left
  induction left using Nat.strongRecOn with
  | ind left ih =>
      intro c hphase hinside hleft
      by_cases hend : c.pos = sent.length
      · exact ⟨[], c, rfl, hphase, hend⟩
      · have hlt : c.pos < sent.length := Nat.lt_of_le_of_ne hinside hend
        rcases recv_of_lt capacity hlt with ⟨data, hrecv⟩ | ⟨pos, hrecv⟩
        · have hshorter : sent.length - (c.pos + 1) < left := by omega
          obtain ⟨ts, c', hrun, hdrained⟩ := ih _ hshorter
            (c := { phase := .selecting true, pos := c.pos + 1,
                    out := c.out ++ [firewallMessage data] }) rfl hlt rfl
          refine ⟨.recv :: .put :: ts, c', ?_, hdrained⟩
          refine Lib.run_cons.mpr ⟨{ c with phase := .sending (firewallMessage data),
                                            pos := c.pos + 1 }, ?_, ?_⟩
          · simp [Connection.step, hphase, hrecv]
          · exact Lib.run_cons.mpr ⟨_, rfl, hrun⟩
        · obtain ⟨hforward, hinside'⟩ := recv_lagged (by decide) hrecv
          have hshorter : sent.length - pos < left := by omega
          obtain ⟨ts, c', hrun, hdrained⟩ := ih _ hshorter
            (c := { c with phase := .selecting true, pos }) rfl (Nat.le_of_lt hinside') rfl
          refine ⟨.recv :: .agentMessage "agent_heartbeat" :: ts, c', ?_, hdrained⟩
          refine Lib.run_cons.mpr ⟨{ c with phase := .selecting false, pos }, ?_, ?_⟩
          · simp [Connection.step, hphase, hrecv]
          · exact Lib.run_cons.mpr ⟨_, rfl, hrun⟩

variable (latest) in
/-- An open connection comes to the end of the broadcasts by its own steps. -/
theorem exists_drained (hopen : c.isOpen = true) (hinside : c.pos ≤ sent.length) :
    ∃ ts c', run (Connection.step latest sent) c ts = some c' ∧ c'.Drained sent := by
  have hdrain (d : Connection) (hphase : d.phase = .selecting true) (hpos : d.pos = c.pos) :
      ∃ ts c', run (Connection.step latest sent) d ts = some c' ∧ c'.Drained sent :=
    exists_drained_selecting _ hphase (hpos ▸ hinside) rfl
  cases hphase : c.phase with
  | subscribed =>
      cases hlatest : latest with
      | none =>
          obtain ⟨ts, c', hrun, hdrained⟩ := hdrain { c with phase := .selecting true } rfl rfl
          refine ⟨.get :: ts, c', Lib.run_cons.mpr ⟨_, ?_, hlatest ▸ hrun⟩, hdrained⟩
          simp [Connection.step, hphase]
      | some data =>
          obtain ⟨ts, c', hrun, hdrained⟩ := hdrain
            { c with phase := .selecting true, out := c.out ++ [firewallMessage data] } rfl rfl
          refine ⟨.get :: .put :: ts, c', Lib.run_cons.mpr
            ⟨{ c with phase := .sending (firewallMessage data) }, ?_, ?_⟩, hdrained⟩
          · simp [Connection.step, hphase]
          · exact Lib.run_cons.mpr ⟨_, rfl, hlatest ▸ hrun⟩
  | sending msg =>
      obtain ⟨ts, c', hrun, hdrained⟩ := hdrain
        { c with phase := .selecting true, out := c.out ++ [msg] } rfl rfl
      refine ⟨.put :: ts, c', Lib.run_cons.mpr ⟨_, ?_, hrun⟩, hdrained⟩
      simp [Connection.step, hphase]
  | selecting receiving =>
      obtain ⟨ts, c', hrun, hdrained⟩ := hdrain { c with phase := .selecting true } rfl rfl
      refine ⟨.agentMessage "agent_heartbeat" :: ts, c', Lib.run_cons.mpr ⟨_, ?_, hrun⟩, hdrained⟩
      simp [Connection.step, hphase]
  | closed => simp [Connection.isOpen, hphase] at hopen

end Draining

/-- The steps of one task, as steps of the connector. -/
theorem run_task {i : Nat} : ∀ {ts : List TaskEvent} {s : State} {c c' : Connection},
    s.connections[i]? = some c →
    run (Connection.step s.latestFwPolicy s.sent) c ts = some c' →
    run step s (ts.map (.task i)) = some { s with connections := s.connections.set i c' }
  | [], s, c, c', hc, h => by
      rw [Lib.run_nil, Option.some.injEq] at h
      subst h
      have hsame : s.connections.set i c = s.connections := by
        obtain ⟨hi, rfl⟩ := List.getElem?_eq_some_iff.mp hc
        exact List.set_getElem_self hi
      rw [List.map_nil, Lib.run_nil, hsame]
  | t :: ts, s, c, c', hc, h => by
      obtain ⟨d, hd, hrest⟩ := Lib.run_cons.mp h
      have hi : i < s.connections.length := (List.getElem?_eq_some_iff.mp hc).1
      rw [List.map_cons]
      refine Lib.run_cons.mpr ⟨{ s with connections := s.connections.set i d }, ?_, ?_⟩
      · simp [step, hc, hd]
      · have htask := run_task (s := { s with connections := s.connections.set i d })
          (List.getElem?_set_self hi) hrest
        rwa [List.set_set] at htask

/-- **The agents end up with the latest firewall policy.**  After any run, with the
writer done, every connection that is still open drains by its own steps, and one that
has drained carries the policy that was stored last as its last one; so does, in
particular, a connection that was opened after that policy was stored. -/
theorem open_connections_end_with_latest (es : List Event) (s : State)
    (hrun : run step init es = some s) (hidle : s.writer = .idle) (i : Nat) (c : Connection)
    (hc : s.connections[i]? = some c) (hopen : c.isOpen = true) :
    (c.Drained s.sent → lastPolicy c.out = lastStored es) ∧
      ∃ (ts : List TaskEvent) (s' : State) (c' : Connection),
        run step s (ts.map (.task i)) = some s' ∧ s'.connections[i]? = some c' ∧
          c'.Drained s'.sent ∧ lastPolicy c'.out = lastStored es := by
  have hinv := inv_run hrun
  have hmem := List.mem_of_getElem? hc
  rw [← latestFwPolicy_of_run hrun]
  refine ⟨lastPolicy_of_drained hinv hidle hmem, ?_⟩
  obtain ⟨ts, c', hts, hdrained⟩ := exists_drained s.latestFwPolicy hopen
    (hinv.tracks c hmem hopen).inside
  have htask := run_task hc hts
  have hi : i < s.connections.length := (List.getElem?_eq_some_iff.mp hc).1
  have hc' : (s.connections.set i c')[i]? = some c' := List.getElem?_set_self hi
  refine ⟨ts, _, c', htask, hc', hdrained, ?_⟩
  have hinv' := Lib.run_invariant (fun _ _ _ hinv hstep => inv_step hinv hstep) hinv htask
  exact lastPolicy_of_drained (s := { s with connections := s.connections.set i c' }) hinv' hidle
    (List.mem_of_getElem? hc') hdrained

/-- An agent connects before there is a policy; the first one is stored and broadcast, and
a second agent connects in between. -/
def twoAgents : List Event :=
  [.connect, .task 0 .get, .store ⟨#[1]⟩, .connect, .task 1 .get, .send, .task 1 .put,
    .task 0 .recv, .task 0 .put]

theorem twoAgents_end_with_latest : ∃ s c, run step init twoAgents = some s ∧
    s.connections[0]? = some c ∧ c.Drained s.sent ∧ lastPolicy c.out = some ⟨#[1]⟩ ∧
    ∃ (ts : List TaskEvent) (s' : State) (c' : Connection),
      run step s (ts.map (.task 1)) = some s' ∧ s'.connections[1]? = some c' ∧
      c'.Drained s'.sent ∧ lastPolicy c'.out = some ⟨#[1]⟩ := by
  refine ⟨_, _, rfl, rfl, ⟨rfl, rfl⟩, ?_, ?_⟩
  · exact (open_connections_end_with_latest twoAgents _ rfl rfl 0 _ rfl rfl).1 ⟨rfl, rfl⟩
  · exact (open_connections_end_with_latest twoAgents _ rfl rfl 1 _ rfl rfl).2

end ZeroTrust.Connector.FirewallPush
