/-
# `ZeroTrust.ControlPlane.SnapshotExpiry` — an idle stream outlives its snapshot

The controller dates a snapshot when it compiles it; the connector refuses every request
once its own clock is past that date and a grace:

    controller     valid_until := now + snapshotTTL        compilePolicySnapshot
    connector      now > valid_until + stale_grace         allowed: "snapshot_expired"

Snapshots are sent at a `Connect` and by the broadcasts of policy changes, and by nothing
else: neither the heartbeats nor the time sends one.  So a connector whose stream is open
and quiet has a policy for as long as the last snapshot lasts, and no longer
(`idle_stream_expires`).  What does hold is `snapshot_expired_iff`: in every reachable state in
which the stream is in order, "snapshot_expired" is the answer iff the connector's clock is
past the date of the snapshot it holds, which is the last one sent.

The stream is the one of `ZeroTrust.ControlPlane.PolicyPush`; here it is opened and closed,
the database may change without a broadcast, and connectors are revoked.  The clocks are
arguments of the events, so every pair of clocks is among the runs.  `healthy` and
`accepted` are not in the programs: they keep what has been so since the last `Connect`.
-/
import ZeroTrust.Rfc3339
import ZeroTrust.Connector.FailClosed
import ZeroTrust.ControlPlane.PolicyPush
import ZeroTrust.ControlPlane.Replacement

namespace ZeroTrust.ControlPlane.SnapshotExpiry

open Lib
open Controller (Database PolicySnapshot)
open Connector (HandlerState PolicyCache handlePolicySnapshot fromSlice)
open Connector.PolicyCache (indexSnapshot)

/-! ## The composed system -/

/-- The settings of the two services, and the connector's id. -/
structure Settings where
  C : Controller.Libraries
  connectorId : String
  snapshotTTL : Duration
  staleGrace : Duration

/-- The controller's side of a stream. -/
def Settings.client (cfg : Settings) (signingKey : List UInt8) : PolicyPush.Client where
  C := cfg.C
  connectorId := cfg.connectorId
  signingKey := signingKey
  snapshotTTL := cfg.snapshotTTL

variable {L : Connector.Libraries}

structure State (L : Connector.Libraries) where
  /-- The database, the connector, and what was sent on the last stream. -/
  push : PolicyPush.State L
  revoked : Bool
  isOpen : Bool
  signingKey : List UInt8
  /-- Not revoked, and assigned to a network, since the last `Connect`. -/
  healthy : Bool
  /-- Every snapshot delivered since the last `Connect` was applied. -/
  accepted : Bool

/-- The connector has started, with the policy key of its settings. -/
def State.start (L : Connector.Libraries) (cfg : Settings) (db : Database) (revoked : Bool)
    (policyKey : List UInt8) : State L where
  push := {
    db := db
    runs := []
    wire := []
    connector := {
      allowlist := ∅
      acl := .new L policyKey cfg.staleGrace
      latestFwPolicy := none
      firewallTx := [] }
    writes := 0
    sent := [] }
  revoked := revoked
  isOpen := false
  signingKey := []
  healthy := false
  accepted := true

inductive Event where
  /-- Both sides derive the key from the TLS session. -/
  | connect (signingKey : List UInt8)
  | disconnect
  /-- The database changes, and nothing is broadcast. -/
  | change (db : Database) (revoked : Bool)
  | push (e : PolicyPush.Event)

def assigned (cfg : Settings) (db : Database) : Bool :=
  match Controller.lookupConnectorNetwork db cfg.connectorId with
  | .ok _ => true
  | .error _ => false

/-- A `time.Time` holds its seconds in 64 bits. -/
def inTime (cfg : Settings) : PolicyPush.Event → Bool
  | .compile _ now => decide ((now + cfg.snapshotTTL) / nanosPerSec < 2 ^ 63)
  | _ => true

/-- A snapshot that is delivered is applied. -/
def applied (s : PolicyPush.State L) : PolicyPush.Event → Bool
  | .deliver now =>
      match s.wire.head?.bind fromSlice with
      | some snap =>
          match s.connector.acl.replaceSnapshot snap now with
          | some (_, accepted) => accepted
          | none => false
      | none => false
  | _ => true

def State.stillHealthy (cfg : Settings) (s : State L) (db : Database) (revoked : Bool) : Bool :=
  s.healthy && !revoked && assigned cfg db

def step (cfg : Settings) (s : State L) : Event → Option (State L)
  | .connect signingKey =>
      if s.isOpen then none
      else
        let connector :=
          { s.push.connector with acl := s.push.connector.acl.setSigningKey signingKey }
        some { s with
          push := .connected s.push.db connector
          isOpen := true
          signingKey := signingKey
          healthy := !s.revoked && assigned cfg s.push.db
          accepted := true }
  | .disconnect => some { s with isOpen := false }
  | .change db revoked =>
      some { s with
        push := { s.push with db }
        revoked := revoked
        healthy := s.stillHealthy cfg db revoked }
  | .push e =>
      if s.isOpen && inTime cfg e then
        (PolicyPush.step (cfg.client s.signingKey) s.push e).map fun push =>
          { s with
            push := push
            healthy := s.stillHealthy cfg push.db s.revoked
            accepted := s.accepted && applied s.push e }
      else none

/-- An event of an open stream. -/
theorem step_push (cfg : Settings) (s : State L) {e : PolicyPush.Event} {push : PolicyPush.State L}
    (hopen : s.isOpen = true) (htime : inTime cfg e = true)
    (h : PolicyPush.step (cfg.client s.signingKey) s.push e = some push) :
    step cfg s (.push e) = some { s with
      push := push
      healthy := s.stillHealthy cfg push.db s.revoked
      accepted := s.accepted && applied s.push e } := by
  simp only [step, hopen, htime, Bool.and_self, if_true, h, Option.map_some]

/-! ## The date of a snapshot -/

/-- The expiry date as it is sent: whole seconds. -/
def validUntil (cfg : Settings) (compiledAt : SystemTime) : SystemTime :=
  (compiledAt + cfg.snapshotTTL) / nanosPerSec * nanosPerSec

/-- The snapshot was compiled at this time. -/
structure Dated (cfg : Settings) (snap : PolicySnapshot) (compiledAt : SystemTime) : Prop where
  text : snap.snapshotMeta.validUntil = formatRfc3339 (compiledAt + cfg.snapshotTTL)
  inTime : (compiledAt + cfg.snapshotTTL) / nanosPerSec < 2 ^ 63

/-- The connector reads the date the controller wrote. -/
theorem Dated.parsed {cfg : Settings} {snap : PolicySnapshot} {compiledAt t : SystemTime}
    (h : Dated cfg snap compiledAt) (hparsed : parseRfc3339 snap.snapshotMeta.validUntil = some t) :
    t = validUntil cfg compiledAt := by
  rw [h.text, parseRfc3339_formatRfc3339 h.inTime] at hparsed
  split at hparsed
  · cases hparsed
  · exact (Option.some.inj hparsed).symm

/-- What a run compiles carries its date. -/
theorem dated_prepare {cfg : Settings} {key : List UInt8} {db : Database} {now : SystemTime}
    {snap : PolicySnapshot} (hsnap : (PolicyPush.prepare (cfg.client key) db now).2 = some snap)
    (htime : inTime cfg (.compile 0 now) = true) : Dated cfg snap now := by
  by_cases hskip : (cfg.client key).connectorId = "" ∨ (cfg.client key).signingKey = []
  · simp [PolicyPush.prepare, hskip] at hsnap
  · obtain ⟨hid, hkey⟩ := not_or.mp hskip
    cases hnetwork : Controller.lookupConnectorNetwork db (cfg.client key).connectorId with
    | error e => simp [PolicyPush.prepare, hskip, hnetwork] at hsnap
    | ok networkId =>
        rw [PolicyPush.prepare_eq now hid hkey hnetwork] at hsnap
        obtain rfl := Option.some.inj hsnap
        exact ⟨rfl, of_decide_eq_true htime⟩

/-! ## What the connector holds -/

/-- The connector holds this snapshot of the controller's. -/
structure Holds (cfg : Settings) (c : PolicyCache L) (snap : PolicySnapshot)
    (compiledAt : SystemTime) : Prop where
  dated : Dated cfg snap compiledAt
  indexed : c.inner = indexSnapshot L (received snap) (validUntil cfg compiledAt)
  fits : addDuration (validUntil cfg compiledAt) c.staleGrace =
    some (validUntil cfg compiledAt + c.staleGrace)

section Answers

variable {cfg : Settings} {c : PolicyCache L} {snap : PolicySnapshot} {compiledAt : SystemTime}
  {identity dest protocol : String} {port : UInt16} {now : SystemTime}

theorem decideOn_ne_expired (r : Connector.Inner L) :
    Connector.PolicyCache.decideOn r identity dest protocol port ≠
      (false, "", "snapshot_expired") := by
  intro h
  simp only [PolicyCache.decideOn] at h
  split at h
  · exact absurd h (by decide)
  · split at h
    · cases h
    · exact absurd h (by decide)

/-- A held snapshot has expired once the connector's clock is past its date and the grace. -/
theorem Holds.allowed_expired_iff (h : Holds cfg c snap compiledAt) :
    c.allowed identity dest protocol port now = some (false, "", "snapshot_expired") ↔
      validUntil cfg compiledAt + c.staleGrace < now := by
  simp only [PolicyCache.allowed, h.indexed, PolicyCache.hasSnapshot_indexSnapshot,
    PolicyCache.validUntil_indexSnapshot, h.fits, Bool.not_true, Bool.false_eq_true, if_false]
  split
  next hlate => exact ⟨fun _ => hlate, fun _ => rfl⟩
  next hearly =>
    refine ⟨fun heq => ?_, fun hlate => absurd hlate hearly⟩
    exact absurd (Option.some.inj heq) (decideOn_ne_expired _)

theorem not_expired_of_default (h : c.inner = .default L) :
    c.allowed identity dest protocol port now ≠ some (false, "", "snapshot_expired") := by
  have hnone : c.allowed identity dest protocol port now = some (false, "", "no_snapshot") := by
    simp [PolicyCache.allowed, h, Connector.Inner.default]
  rw [hnone]
  decide

theorem Holds.of_accepts {r : Connector.PolicySnapshot} {t : SystemTime} {c' : PolicyCache L}
    (hdated : Dated cfg snap compiledAt) (hdecode : fromSlice snap.marshal = some r)
    (haccepts : c.Accepts r now t) (hc : c' = { c with inner := indexSnapshot L r t }) :
    Holds cfg c' snap compiledAt := by
  have hports : ∀ r ∈ snap.resources, PortsInRange r :=
    (Replacement.decodes_marshal_iff snap).mp (hdecode ▸ Option.some_ne_none r)
  obtain rfl : received snap = r := Option.some.inj ((decode_marshal hports).symm.trans hdecode)
  obtain rfl := hdated.parsed haccepts.parsed
  subst hc
  exact ⟨hdated, rfl, haccepts.fits⟩

end Answers

/-! ## The stream -/

theorem applied_deliver {s : PolicyPush.State L} {payload : ByteArray} {wire : List ByteArray}
    {snap : Connector.PolicySnapshot} {acl : PolicyCache L} {now : SystemTime} {accepted : Bool}
    (hwire : s.wire = payload :: wire) (hdecode : fromSlice payload = some snap)
    (hreplace : s.connector.acl.replaceSnapshot snap now = some (acl, accepted)) :
    applied s (.deliver now) = accepted := by
  simp only [applied, hwire, List.head?_cons, Option.bind_some, hdecode, hreplace]

theorem applied_undecoded {s : PolicyPush.State L} {payload : ByteArray} {wire : List ByteArray}
    {now : SystemTime} (hwire : s.wire = payload :: wire) (hdecode : fromSlice payload = none) :
    applied s (.deliver now) = false := by
  simp only [applied, hwire, List.head?_cons, Option.bind_some, hdecode]

/-- Every snapshot of the controller's carries its date; the connector holds one of them,
or none; and if all have been applied so far, it holds the last one that arrived. -/
structure StreamInv (cfg : Settings) (s : PolicyPush.State L) (accepted : Bool) : Prop where
  grace : s.connector.acl.staleGrace = cfg.staleGrace
  runs : ∀ asOf snap, .compiled asOf snap ∈ s.runs → ∃ t, Dated cfg snap t
  sent : ∀ p ∈ s.sent, ∃ t, Dated cfg p.2 t
  held : s.connector.acl.inner = .default L ∨ ∃ snap t, Holds cfg s.connector.acl snap t
  arrived : ∃ gone inFlight, s.sent = gone ++ inFlight ∧
    s.wire = inFlight.map (fun p => p.2.marshal) ∧
    (accepted = true → ∀ p ∈ gone.getLast?, ∃ t, Holds cfg s.connector.acl p.2 t)

section Stream

variable {cfg : Settings} {key : List UInt8} {s s' : PolicyPush.State L} {accepted : Bool}

/-- The runs may change, and the database. -/
theorem StreamInv.frame (h : StreamInv cfg s accepted) (hconnector : s'.connector = s.connector)
    (hsent : s'.sent = s.sent) (hwire : s'.wire = s.wire)
    (hruns : ∀ asOf snap, .compiled asOf snap ∈ s'.runs → ∃ t, Dated cfg snap t) :
    StreamInv cfg s' accepted where
  grace := by rw [hconnector]; exact h.grace
  runs := hruns
  sent := by rw [hsent]; exact h.sent
  held := by rw [hconnector]; exact h.held
  arrived := by rw [hconnector, hsent, hwire]; exact h.arrived

theorem StreamInv.trigger (h : StreamInv cfg s accepted) :
    ∀ asOf snap, .compiled asOf snap ∈ s.runs ++ [.pending] → ∃ t, Dated cfg snap t := by
  intro asOf snap hmem
  rcases List.mem_append.mp hmem with hmem | hmem
  · exact h.runs asOf snap hmem
  · cases List.mem_singleton.mp hmem

/-- What is sent was compiled. -/
theorem StreamInv.send (h : StreamInv cfg s accepted) {i asOf : Nat} {snap : PolicySnapshot}
    (hi : s.runs[i]? = some (.compiled asOf snap)) :
    StreamInv cfg { s with
      runs := s.runs.set i .finished
      wire := s.wire ++ [snap.marshal]
      sent := s.sent ++ [(asOf, snap)] } accepted := by
  obtain ⟨gone, inFlight, hsent, hwire, hlast⟩ := h.arrived
  refine ⟨h.grace, ?_, ?_, h.held, gone, inFlight ++ [(asOf, snap)], ?_, ?_, hlast⟩
  · intro asOf' snap' hmem
    rcases List.mem_or_eq_of_mem_set hmem with hmem | heq
    · exact h.runs asOf' snap' hmem
    · cases heq
  · intro p hp
    rcases List.mem_append.mp hp with hp | hp
    · exact h.sent p hp
    · obtain rfl := List.mem_singleton.mp hp
      exact h.runs asOf snap (List.mem_of_getElem? hi)
  · show s.sent ++ [(asOf, snap)] = gone ++ (inFlight ++ [(asOf, snap)])
    rw [hsent, List.append_assoc]
  · show s.wire ++ [snap.marshal] = _
    rw [hwire, List.map_append]
    rfl

/-- What is delivered was sent, and is applied or not. -/
theorem StreamInv.deliver (h : StreamInv cfg s accepted) {payload : ByteArray}
    {wire : List ByteArray} {connector : HandlerState L} {now : SystemTime}
    (hwire : s.wire = payload :: wire)
    (hhandle : handlePolicySnapshot s.connector payload now = some connector) :
    StreamInv cfg { s with wire, connector } (accepted && applied s (.deliver now)) := by
  obtain ⟨gone, inFlight, hsent, hmap, hlast⟩ := h.arrived
  rw [hwire] at hmap
  match inFlight, hsent, hmap with
  | [], _, hmap => cases hmap
  | p :: inFlight, hsent, hmap =>
      rw [List.map_cons, List.cons.injEq] at hmap
      obtain ⟨rfl, rfl⟩ := hmap
      have harrived : s.sent = (gone ++ [p]) ++ inFlight := by
        rw [hsent, List.append_assoc, List.singleton_append]
      rcases Connector.handlePolicySnapshot_spec hhandle with ⟨hnone, rfl⟩ |
        ⟨r, ok, hdecode, hreplace⟩
      · rw [applied_undecoded hwire hnone, Bool.and_false]
        exact ⟨h.grace, h.runs, h.sent, h.held, gone ++ [p], inFlight, harrived, rfl, nofun⟩
      · rw [applied_deliver hwire hdecode hreplace]
        rcases PolicyCache.replaceSnapshot_cases hreplace with ⟨rfl, hclear⟩ |
          ⟨rfl, t, haccepts, hindex⟩
        · rw [Bool.and_false]
          refine ⟨?_, h.runs, h.sent, Or.inl ?_, gone ++ [p], inFlight, harrived, rfl, nofun⟩
          · show connector.acl.staleGrace = cfg.staleGrace
            rw [hclear]
            exact h.grace
          · show connector.acl.inner = .default L
            rw [hclear]
            rfl
        · obtain ⟨compiledAt, hdated⟩ := h.sent p (by simp [hsent])
          have hholds : Holds cfg connector.acl p.2 compiledAt :=
            .of_accepts hdated hdecode haccepts hindex
          refine ⟨?_, h.runs, h.sent, Or.inr ⟨p.2, compiledAt, hholds⟩, gone ++ [p], inFlight,
            harrived, rfl, ?_⟩
          · show connector.acl.staleGrace = cfg.staleGrace
            rw [hindex]
            exact h.grace
          · intro _ q hq
            obtain rfl : p = q := by simpa using hq
            exact ⟨compiledAt, hholds⟩

/-- Only a delivery can be refused. -/
theorem streamInv_step {e : PolicyPush.Event} (h : StreamInv cfg s accepted)
    (htime : inTime cfg e = true) (hstep : PolicyPush.step (cfg.client key) s e = some s') :
    StreamInv cfg s' (accepted && applied s e) := by
  have hspec := PolicyPush.step_spec hstep
  cases e with
  | write db =>
      obtain rfl : s' = _ := hspec
      show StreamInv cfg _ (accepted && true)
      rw [Bool.and_true]
      exact h.frame rfl rfl rfl h.trigger
  | touch db =>
      obtain ⟨-, rfl⟩ := hspec
      show StreamInv cfg _ (accepted && true)
      rw [Bool.and_true]
      exact h.frame rfl rfl rfl h.runs
  | trigger =>
      obtain rfl : s' = _ := hspec
      show StreamInv cfg _ (accepted && true)
      rw [Bool.and_true]
      exact h.frame rfl rfl rfl h.trigger
  | compile i now =>
      obtain ⟨-, rfl⟩ := hspec
      show StreamInv cfg _ (accepted && true)
      rw [Bool.and_true]
      refine h.frame rfl rfl rfl ?_
      intro asOf snap hmem
      rcases List.mem_or_eq_of_mem_set hmem with hmem | heq
      · exact h.runs asOf snap hmem
      · split at heq
        next snap' hsnap =>
          obtain ⟨-, rfl⟩ := PolicyPush.Run.compiled.inj heq
          exact ⟨now, dated_prepare hsnap htime⟩
        · cases heq
  | send i =>
      obtain ⟨asOf, snap, hi, rfl⟩ := hspec
      show StreamInv cfg _ (accepted && true)
      rw [Bool.and_true]
      exact h.send hi
  | deliver now =>
      obtain ⟨payload, wire, connector, hwire, hhandle, rfl⟩ := hspec
      exact h.deliver hwire hhandle

end Stream

/-! ## A run that is due -/

/-- A run is still to do, or a snapshot has been sent. -/
def Due (s : PolicyPush.State L) : Prop := (∃ r ∈ s.runs, r ≠ .finished) ∨ s.sent ≠ []

theorem due_pending {s : PolicyPush.State L} (h : .pending ∈ s.runs) : Due s :=
  Or.inl ⟨.pending, h, fun heq => by cases heq⟩

theorem due_compiled {s : PolicyPush.State L} {asOf : Nat} {snap : PolicySnapshot}
    (h : .compiled asOf snap ∈ s.runs) : Due s :=
  Or.inl ⟨_, h, fun heq => by cases heq⟩

/-- While the connector has a network, a run that starts ends in a snapshot. -/
theorem due_step {cfg : Settings} {key : List UInt8} {s s' : PolicyPush.State L}
    {e : PolicyPush.Event} (hid : cfg.connectorId ≠ "") (hkey : key ≠ [])
    (hassigned : assigned cfg s.db = true) (h : Due s)
    (hstep : PolicyPush.step (cfg.client key) s e = some s') : Due s' := by
  have hspec := PolicyPush.step_spec hstep
  cases e with
  | write db =>
      obtain rfl : s' = _ := hspec
      exact due_pending (List.mem_append_right _ List.mem_cons_self)
  | touch db =>
      obtain ⟨-, rfl⟩ := hspec
      exact h
  | trigger =>
      obtain rfl : s' = _ := hspec
      exact due_pending (List.mem_append_right _ List.mem_cons_self)
  | compile i now =>
      obtain ⟨hi, rfl⟩ := hspec
      obtain ⟨networkId, hnetwork⟩ : ∃ networkId,
          Controller.lookupConnectorNetwork s.db cfg.connectorId = .ok networkId := by
        unfold assigned at hassigned
        split at hassigned
        next networkId hnetwork => exact ⟨networkId, hnetwork⟩
        · cases hassigned
      have hprepare : PolicyPush.prepare (cfg.client key) s.db now = _ :=
        PolicyPush.prepare_eq now hid hkey hnetwork
      have hlt : i < s.runs.length := (List.getElem?_eq_some_iff.mp hi).1
      rw [hprepare]
      exact due_compiled (List.mem_set hlt _)
  | send i =>
      obtain ⟨asOf, snap, -, rfl⟩ := hspec
      exact Or.inr (List.append_ne_nil_of_right_ne_nil _ (List.cons_ne_nil _ _))
  | deliver now =>
      obtain ⟨payload, wire, connector, -, -, rfl⟩ := hspec
      exact h

/-! ## Whole runs -/

structure Inv (cfg : Settings) (s : State L) : Prop where
  stream : StreamInv cfg s.push s.accepted
  assigned : s.healthy = true → assigned cfg s.push.db = true
  due : s.isOpen = true → s.healthy = true → cfg.connectorId ≠ "" → s.signingKey ≠ [] →
    Due s.push

theorem inv_start (cfg : Settings) (db : Database) (revoked : Bool) (policyKey : List UInt8) :
    Inv cfg (State.start L cfg db revoked policyKey) where
  stream := ⟨rfl, nofun, nofun, Or.inl rfl, [], [], rfl, rfl, nofun⟩
  assigned := nofun
  due := nofun

/-- A new stream starts from what the connector holds. -/
theorem StreamInv.connect {cfg : Settings} {s : PolicyPush.State L} {accepted : Bool}
    (h : StreamInv cfg s accepted) (key : List UInt8) :
    StreamInv cfg (.connected s.db
      { s.connector with acl := s.connector.acl.setSigningKey key }) true := by
  obtain ⟨hinner, hgrace⟩ := PolicyCache.setSigningKey_inner s.connector.acl key
  refine ⟨hgrace.trans h.grace, ?_, nofun, ?_, [], [], rfl, rfl, nofun⟩
  · intro asOf snap hmem
    cases List.mem_singleton.mp hmem
  · rcases h.held with hdefault | ⟨snap, t, hholds⟩
    · exact Or.inl (hinner.trans hdefault)
    · refine Or.inr ⟨snap, t, hholds.dated, hinner.trans hholds.indexed, ?_⟩
      show addDuration _ (s.connector.acl.setSigningKey key).staleGrace =
        some (_ + ((s.connector.acl.setSigningKey key).staleGrace : Int))
      rw [hgrace]
      exact hholds.fits

theorem inv_step {cfg : Settings} {s s' : State L} {e : Event} (h : Inv cfg s)
    (hstep : step cfg s e = some s') : Inv cfg s' := by
  cases e with
  | connect key =>
      simp only [step] at hstep
      split at hstep
      · cases hstep
      · obtain rfl := Option.some.inj hstep
        refine ⟨h.stream.connect key, fun hhealthy => ?_, fun _ _ _ _ => ?_⟩
        · exact (Bool.and_eq_true_iff.mp hhealthy).2
        · exact due_pending List.mem_cons_self
  | disconnect =>
      obtain rfl := Option.some.inj hstep
      exact ⟨h.stream, h.assigned, nofun⟩
  | change db revoked =>
      obtain rfl := Option.some.inj hstep
      refine ⟨h.stream.frame rfl rfl rfl h.stream.runs, fun hhealthy => ?_,
        fun hopen hhealthy => ?_⟩
      · exact (Bool.and_eq_true_iff.mp hhealthy).2
      · have hbefore := (Bool.and_eq_true_iff.mp hhealthy).1
        exact h.due hopen (Bool.and_eq_true_iff.mp hbefore).1
  | push e =>
      simp only [step] at hstep
      split at hstep
      next hguard =>
        obtain ⟨hopen, htime⟩ := Bool.and_eq_true_iff.mp hguard
        obtain ⟨push, hpush, rfl⟩ := Option.map_eq_some_iff.mp hstep
        refine ⟨streamInv_step h.stream htime hpush, fun hhealthy => ?_,
          fun _ hhealthy hid hkey => ?_⟩
        · exact (Bool.and_eq_true_iff.mp hhealthy).2
        · have hbefore := (Bool.and_eq_true_iff.mp (Bool.and_eq_true_iff.mp hhealthy).1).1
          exact due_step hid hkey (h.assigned hbefore) (h.due hopen hbefore hid hkey) hpush
      · cases hstep

/-- **Expiry theorem.**  Take any run of the controller, the stream and the connector, with
any clocks, to a state in which the stream is open, the connector has been unrevoked and
assigned since its last `Connect`, and all that was sent has been delivered and applied.
A request is refused as "snapshot_expired" iff the connector's clock is past the date of
the snapshot it holds and the grace; the snapshot it holds is the last one sent; and one
was sent if no run of the stream is still to do. -/
theorem snapshot_expired_iff (cfg : Settings) (db : Database) (revoked : Bool) (policyKey : List UInt8)
    (es : List Event) (s : State L)
    (hrun : run (step cfg) (State.start L cfg db revoked policyKey) es = some s)
    (hopen : s.isOpen = true) (hhealthy : s.healthy = true) (hdelivered : s.push.wire = [])
    (haccepted : s.accepted = true) :
    (∀ identity dest protocol port now,
      s.push.connector.acl.allowed identity dest protocol port now =
          some (false, "", "snapshot_expired") ↔
        ∃ snap compiledAt, Holds cfg s.push.connector.acl snap compiledAt ∧
          validUntil cfg compiledAt + cfg.staleGrace < now) ∧
    (∀ p ∈ s.push.sent.getLast?, ∃ compiledAt,
      Holds cfg s.push.connector.acl p.2 compiledAt) ∧
    (cfg.connectorId ≠ "" → s.signingKey ≠ [] → (∀ r ∈ s.push.runs, r = .finished) →
      s.push.sent ≠ []) := by
  have hinv : Inv cfg s :=
    run_invariant (fun _ _ _ hs hstep => inv_step hs hstep) (inv_start cfg db revoked policyKey)
      hrun
  refine ⟨?_, ?_, ?_⟩
  · intro identity dest protocol port now
    constructor
    · intro hexpired
      rcases hinv.stream.held with hdefault | ⟨snap, t, hholds⟩
      · exact absurd hexpired (not_expired_of_default hdefault)
      · have hlate := hholds.allowed_expired_iff.mp hexpired
        rw [hinv.stream.grace] at hlate
        exact ⟨snap, t, hholds, hlate⟩
    · rintro ⟨snap, t, hholds, hlate⟩
      rw [← hinv.stream.grace] at hlate
      exact hholds.allowed_expired_iff.mpr hlate
  · obtain ⟨gone, inFlight, hsent, hwire, hlast⟩ := hinv.stream.arrived
    obtain rfl : inFlight = [] := List.map_eq_nil_iff.mp (hwire.symm.trans hdelivered)
    rw [hsent, List.append_nil]
    exact hlast haccepted
  · intro hid hkey hdone
    rcases hinv.due hopen hhealthy hid hkey with ⟨r, hr, hnot⟩ | hsent
    · exact absurd (hdone r hr) hnot
    · exact hsent

/-! ## One idle stream -/

section Idle

open PolicyPush (grantClient grantConnector grantLibraries grantTime granted)

/-- Ten minutes, and five minutes of grace. -/
def grantSettings : Settings where
  C := grantClient.C
  connectorId := "con_1"
  snapshotTTL := 600 * nanosPerSec
  staleGrace := 300 * nanosPerSec

def grantStart : State grantLibraries := .start _ grantSettings granted false [107]

/-- The connector connects, and the snapshot of its `Connect` is sent. -/
def connecting : List Event := [.connect [107], .push (.compile 0 grantTime), .push (.send 0)]

/-- The connector's snapshot is on its way. -/
def underWay : State grantLibraries where
  push := PolicyPush.pushed
  revoked := false
  isOpen := true
  signingKey := [107]
  healthy := true
  accepted := true

theorem run_connecting : run (step grantSettings) grantStart connecting = some underWay := by
  have hconnect : step grantSettings grantStart (.connect [107]) =
      some { underWay with push := .connected granted grantConnector } := rfl
  obtain ⟨push, hcompile, hrest⟩ := run_cons.mp PolicyPush.run_pushing
  obtain ⟨push', hsend, hnil⟩ := run_cons.mp hrest
  obtain rfl := Option.some.inj hnil
  obtain ⟨_, _, -, hpushed⟩ := PolicyPush.step_spec hsend
  have hdb : push.db = PolicyPush.pushed.db := by rw [hpushed]
  have hassigned : assigned grantSettings PolicyPush.pushed.db = true := rfl
  have htime : inTime grantSettings (.compile 0 grantTime) = true := by decide
  refine run_cons.mpr ⟨_, hconnect, run_cons.mpr ⟨{ underWay with push }, ?_, run_cons.mpr
    ⟨underWay, ?_, rfl⟩⟩⟩
  · have hpush := step_push grantSettings
      { underWay with push := .connected granted grantConnector } rfl htime hcompile
    rw [hpush]
    simp [State.stillHealthy, hdb, hassigned, applied, underWay]
  · have hpush := step_push grantSettings { underWay with push } rfl rfl hsend
    rw [hpush]
    simp [State.stillHealthy, hassigned, applied, underWay]

/-- The state after the snapshot has arrived: from then on the stream is idle. -/
theorem run_idle : ∃ connector : HandlerState grantLibraries,
    run (step grantSettings) grantStart (connecting ++ [.push (.deliver grantTime)]) =
      some { underWay with push := { PolicyPush.pushed with wire := [], connector } } ∧
    Holds grantSettings connector.acl
      (PolicyPush.signedSnapshot grantClient granted "net_1" grantTime) grantTime ∧
    connector.acl.staleGrace = grantSettings.staleGrace := by
  obtain ⟨-, connector, hdeliver, hacl⟩ :=
    PolicyPush.deliver_compiled PolicyPush.compiles_granted PolicyPush.pushed [] rfl rfl rfl
  have hdecode := PolicyPush.decode_compiled PolicyPush.compiles_granted
  have haccepts : PolicyPush.pushed.connector.acl.Accepts _ grantTime _ :=
    PolicyPush.accepts_compiled PolicyPush.compiles_granted rfl rfl
  have happlied : applied PolicyPush.pushed (.deliver grantTime) = true :=
    applied_deliver rfl hdecode (PolicyCache.replaceSnapshot_of_accepts haccepts)
  have hassigned : assigned grantSettings PolicyPush.pushed.db = true := rfl
  refine ⟨connector, ?_, ?_, ?_⟩
  · refine run_concat.mpr ⟨underWay, run_connecting, ?_⟩
    have hpush := step_push grantSettings underWay rfl rfl hdeliver
    rw [hpush]
    simp [State.stillHealthy, hassigned, happlied, underWay]
  · exact .of_accepts ⟨rfl, by decide⟩ hdecode haccepts hacl
  · rw [hacl]
    rfl

/-- A quarter of an hour later the connector refuses everything: connected all along,
unrevoked, assigned, and with every message applied. -/
theorem idle_stream_expires : ∃ es s, run (step grantSettings) grantStart es = some s ∧
    s.isOpen = true ∧ s.healthy = true ∧ s.push.wire = [] ∧ s.accepted = true ∧
    s.push.connector.acl.allowed "identity-1" "db.internal" "TCP" 443
      (grantTime + 901 * nanosPerSec) = some (false, "", "snapshot_expired") := by
  obtain ⟨connector, hrun, hholds, hgrace⟩ := run_idle
  refine ⟨_, _, hrun, rfl, rfl, rfl, rfl, hholds.allowed_expired_iff.mpr ?_⟩
  rw [hgrace]
  decide

/-- The connector's answers on the idle stream go by the snapshot of its `Connect`. -/
theorem idle_stream_answers : ∃ s : State grantLibraries,
    run (step grantSettings) grantStart (connecting ++ [.push (.deliver grantTime)]) = some s ∧
    s.push.sent ≠ [] ∧
    (∀ p ∈ s.push.sent.getLast?, ∃ compiledAt,
      Holds grantSettings s.push.connector.acl p.2 compiledAt) ∧
    ∀ now, s.push.connector.acl.allowed "identity-1" "db.internal" "TCP" 443 now =
        some (false, "", "snapshot_expired") ↔
      ∃ snap compiledAt, Holds grantSettings s.push.connector.acl snap compiledAt ∧
        validUntil grantSettings compiledAt + grantSettings.staleGrace < now := by
  obtain ⟨connector, hrun, -⟩ := run_idle
  obtain ⟨hexpired, hlast, hsent⟩ :=
    snapshot_expired_iff grantSettings granted false [107] _ _ hrun rfl rfl rfl rfl
  refine ⟨_, hrun, hsent (by decide) (List.cons_ne_nil _ _) ?_, hlast, hexpired _ _ _ _⟩
  intro r hr
  exact List.mem_singleton.mp hr

end Idle

end ZeroTrust.ControlPlane.SnapshotExpiry
