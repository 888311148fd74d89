/-
# `ZeroTrust.System.Staleness` — how old can a yes be?

Nothing orders the connector's policy after the database's: a push may be lost, delayed,
sent twice or overtaken, the stream may be down for hours, the controller may be gone.
What is left is the date.  A snapshot is dated when it is compiled, and refused once the
connector's clock is past the date and the grace.  So an answer can only be as old as that:

    the database                    the value of a lease (`ZeroTrust.Lib.Lease`)
    a compiled snapshot             a copy, dated by the controller's clock
    the connector's indexes         of one of the copies, or empty (`Inv`)

`yes_recently_permitted` goes from a yes back to tables that permitted the request, naming
the same row, at most `snapshotTTL + staleGrace` and twice the drift of the clocks ago; and
`withdrawn_in_time` from tables that no longer permit it to the time from which no
connector says yes.

The network and whoever is on it deliver any message at any time (`deliver`); all that is
asked of them is that they cannot sign (`Authentic`).  The database changes in any way, the
stream's keys and the connector's process come and go.  `compiled` is not in the programs:
it remembers what has been compiled, and from which tables.
-/
import ZeroTrust.Lib.Lease
import ZeroTrust.System.Access

namespace ZeroTrust.System.Staleness

open Lib
open Controller (Database PolicySnapshot)
open Connector (HandlerState PolicyCache ControlMessage PlainIdentity handleControlMessage
  handlePolicySnapshot fromSlice)
open ControlPlane (received receivedResource PortsInRange)
open ControlPlane.SnapshotExpiry (Settings Dated Holds inTime validUntil)
open ControlPlane.PolicyPush (prepare prepare_spec)

/-! ## The system -/

/-- A compiled snapshot, with the controller's time and the tables of the moment. -/
structure Compiled where
  compiledAt : SystemTime
  db : Database
  snap : PolicySnapshot

structure State (L : Connector.Libraries) where
  now : SystemTime
  db : Database
  connector : HandlerState L
  compiled : List Compiled

inductive Event where
  | tick (now : SystemTime)
  | change (db : Database)
  /-- A run for the connector compiles, when the controller's clock shows this. -/
  | compile (signingKey : List UInt8) (reading : SystemTime)
  /-- The connector opens a stream, and derives its key. -/
  | connect (signingKey : List UInt8)
  /-- A message arrives at the connector, when its clock shows this. -/
  | deliver (msg : ControlMessage) (reading : SystemTime)
  | restart (policyKey : List UInt8)

variable {L : Connector.Libraries}

/-- A connector that has just started, with the policy key of its settings. -/
def started (L : Connector.Libraries) (cfg : Settings) (policyKey : List UInt8) :
    HandlerState L where
  allowlist := ∅
  acl := .new L policyKey cfg.staleGrace
  latestFwPolicy := none
  firewallTx := []

def State.start (L : Connector.Libraries) (cfg : Settings) (now : SystemTime) (db : Database)
    (policyKey : List UInt8) : State L where
  now := now
  db := db
  connector := started L cfg policyKey
  compiled := []

/-- A clock that drifts from the time by this much at most. -/
def Shows (drift : Duration) (now reading : SystemTime) : Prop :=
  reading ≤ now + drift ∧ now ≤ reading + drift

instance (drift : Duration) (now reading : SystemTime) : Decidable (Shows drift now reading) :=
  inferInstanceAs (Decidable (_ ∧ _))

def step (cfg : Settings) (drift : Duration) (s : State L) : Event → Option (State L)
  | .tick now => if s.now ≤ now then some { s with now } else none
  | .change db => some { s with db }
  | .compile signingKey reading =>
      if Shows drift s.now reading ∧ inTime cfg (.compile 0 reading) = true then
        let (db, snap) := prepare (cfg.client signingKey) s.db reading
        some { s with db, compiled := s.compiled ++ (snap.map (Compiled.mk reading s.db)).toList }
      else none
  | .connect signingKey =>
      let connector := { s.connector with acl := s.connector.acl.setSigningKey signingKey }
      some { s with connector }
  | .deliver msg reading =>
      if Shows drift s.now reading then
        (handleControlMessage s.connector msg reading).map fun connector => { s with connector }
      else none
  | .restart policyKey => some { s with connector := started L cfg policyKey }

/-- What a step is. -/
theorem step_spec {cfg : Settings} {drift : Duration} {s s' : State L} {e : Event}
    (h : step cfg drift s e = some s') :
    match e with
    | .tick now => s.now ≤ now ∧ s' = { s with now }
    | .change db => s' = { s with db }
    | .compile signingKey reading => Shows drift s.now reading ∧
        inTime cfg (.compile 0 reading) = true ∧
        s' = { s with
          db := (prepare (cfg.client signingKey) s.db reading).1
          compiled := s.compiled ++ ((prepare (cfg.client signingKey) s.db reading).2.map
            (Compiled.mk reading s.db)).toList }
    | .connect signingKey => s' = { s with
        connector := { s.connector with acl := s.connector.acl.setSigningKey signingKey } }
    | .deliver msg reading => Shows drift s.now reading ∧ ∃ connector,
        handleControlMessage s.connector msg reading = some connector ∧
        s' = { s with connector }
    | .restart policyKey => s' = { s with connector := started L cfg policyKey } := by
  cases e with
  | tick now =>
      simp only [step, Option.ite_none_right_eq_some, Option.some.injEq] at h
      exact ⟨h.1, h.2.symm⟩
  | change db => exact (Option.some.inj h).symm
  | compile signingKey reading =>
      simp only [step, Option.ite_none_right_eq_some, Option.some.injEq] at h
      exact ⟨h.1.1, h.1.2, h.2.symm⟩
  | connect signingKey => exact (Option.some.inj h).symm
  | deliver msg reading =>
      simp only [step, Option.ite_none_right_eq_some] at h
      obtain ⟨connector, hhandle, rfl⟩ := Option.map_eq_some_iff.mp h.2
      exact ⟨h.1, connector, hhandle, rfl⟩
  | restart policyKey => exact (Option.some.inj h).symm

/-! ## The lease -/

/-- A copy is about that was compiled from these tables at this date. -/
def Copied (s : State L) (date : SystemTime) (db : Database) : Prop :=
  ∃ c ∈ s.compiled, c.compiledAt = date ∧ c.db = db

theorem clock_step {cfg : Settings} {drift : Duration} {s s' : State L} {e : Event}
    (h : step cfg drift s e = some s') : s.now ≤ s'.now := by
  have hspec := step_spec h
  cases e with
  | tick now =>
      obtain ⟨hle, rfl⟩ := hspec
      exact hle
  | change db =>
      obtain rfl : s' = _ := hspec
      exact le_refl _
  | compile signingKey reading =>
      obtain ⟨-, -, rfl⟩ := hspec
      exact le_refl _
  | connect signingKey =>
      obtain rfl : s' = _ := hspec
      exact le_refl _
  | deliver msg reading =>
      obtain ⟨-, connector, -, rfl⟩ := hspec
      exact le_refl _
  | restart policyKey =>
      obtain rfl : s' = _ := hspec
      exact le_refl _

/-- Only compiling makes a copy, of the tables as they are. -/
theorem copied_step {cfg : Settings} {drift : Duration} {s s' : State L} {e : Event}
    {date : SystemTime} {db : Database} (h : step cfg drift s e = some s')
    (hcopied : Copied s' date db) : Copied s date db ∨ (db = s.db ∧ date ≤ s.now + drift) := by
  have hspec := step_spec h
  cases e with
  | tick now =>
      obtain ⟨-, rfl⟩ := hspec
      exact Or.inl hcopied
  | change db' =>
      obtain rfl : s' = _ := hspec
      exact Or.inl hcopied
  | compile signingKey reading =>
      obtain ⟨hclock, -, rfl⟩ := hspec
      obtain ⟨c, hc, rfl, rfl⟩ := hcopied
      rcases List.mem_append.mp hc with hc | hc
      · exact Or.inl ⟨c, hc, rfl, rfl⟩
      · obtain ⟨snap, -, rfl⟩ := Option.map_eq_some_iff.mp (Option.mem_toList.mp hc)
        exact Or.inr ⟨rfl, hclock.1⟩
  | connect signingKey =>
      obtain rfl : s' = _ := hspec
      exact Or.inl hcopied
  | deliver msg reading =>
      obtain ⟨-, connector, -, rfl⟩ := hspec
      exact Or.inl hcopied
  | restart policyKey =>
      obtain rfl : s' = _ := hspec
      exact Or.inl hcopied

/-- The tables are a leased value, the snapshots its copies. -/
def lease (L : Connector.Libraries) (cfg : Settings) (drift : Duration) :
    Lease (step (L := L) cfg drift) Database where
  clock s := s.now
  value s := s.db
  Copy := Copied
  skew := drift
  clock_step := clock_step
  copy_step := copied_step

/-! ## What the connector holds -/

/-- The identities of the users are plain. -/
def PlainUsers (db : Database) : Prop :=
  ∀ u ∈ db.users.rows, ∀ i ∈ u.certificateIdentity, PlainIdentity i

/-- A snapshot whose signature verifies is one that was compiled for the connector. -/
def Authentic (s : State L) : Event → Prop
  | .deliver msg _ => ∀ r, msg.type = "policy_snapshot" → fromSlice msg.payload = some r →
      s.connector.acl.verifySnapshot r = true → ∃ c ∈ s.compiled, fromSlice c.snap.marshal = some r
  | _ => True

/-- The administrators enter plain identities. -/
def EntersPlain (_ : State L) : Event → Prop
  | .change db => PlainUsers db
  | _ => True

/-- A snapshot carries the policy of the tables it was compiled from. -/
structure Faithful (cfg : Settings) (c : Compiled) : Prop where
  dated : Dated cfg c.snap c.compiledAt
  users : PlainUsers c.db
  resources : ∃ networkId, Controller.lookupConnectorNetwork c.db cfg.connectorId = .ok networkId ∧
    c.snap.resources = Controller.compiledResources cfg.C c.db networkId

/-- The indexes are those of one of the snapshots, or empty. -/
structure Inv (cfg : Settings) (s : State L) : Prop where
  grace : s.connector.acl.staleGrace = cfg.staleGrace
  users : PlainUsers s.db
  compiled : ∀ c ∈ s.compiled, Faithful cfg c
  held : s.connector.acl.inner = .default L ∨ ∃ c ∈ s.compiled,
    (∀ r ∈ c.snap.resources, PortsInRange r) ∧ Holds cfg s.connector.acl c.snap c.compiledAt

section Step

variable {cfg : Settings} {drift : Duration} {s s' : State L}

theorem inv_start {now : SystemTime} {db : Database} {policyKey : List UInt8}
    (h : PlainUsers db) : Inv cfg (State.start L cfg now db policyKey) where
  grace := rfl
  users := h
  compiled := by simp [State.start]
  held := Or.inl rfl

theorem users_prepare (signingKey : List UInt8) (db : Database) (reading : SystemTime) :
    (prepare (cfg.client signingKey) db reading).1.users = db.users := by
  by_cases hskip : (cfg.client signingKey).connectorId = "" ∨
      (cfg.client signingKey).signingKey = []
  · simp [prepare, hskip]
  · obtain ⟨hid, hkey⟩ := not_or.mp hskip
    cases hnetwork : Controller.lookupConnectorNetwork db (cfg.client signingKey).connectorId with
    | error e => simp [prepare, hskip, hnetwork]
    | ok networkId =>
        rw [ControlPlane.PolicyPush.prepare_eq reading hid hkey hnetwork]
        rfl

theorem faithful_prepare {signingKey : List UInt8} {db : Database} {reading : SystemTime}
    {snap : PolicySnapshot} (husers : PlainUsers db)
    (hsnap : (prepare (cfg.client signingKey) db reading).2 = some snap)
    (htime : inTime cfg (.compile 0 reading) = true) : Faithful cfg ⟨reading, db, snap⟩ where
  dated := ControlPlane.SnapshotExpiry.dated_prepare hsnap htime
  users := husers
  resources := by
    obtain ⟨hresources, -⟩ := prepare_spec (cfg.client signingKey) db reading
    rw [hsnap, Option.map_some, ControlPlane.PolicyPush.policyOf] at hresources
    split at hresources
    · cases hresources
    · split at hresources
      · cases hresources
      next networkId hnetwork => exact ⟨networkId, hnetwork, Option.some.inj hresources⟩

/-- What the connector's handler leaves, if it is another cache: nothing, or the indexes of
an authentic snapshot. -/
theorem acl_of_handled {msg : ControlMessage} {reading : SystemTime} {connector : HandlerState L}
    (hinv : Inv cfg s) (hauthentic : Authentic s (.deliver msg reading))
    (h : handleControlMessage s.connector msg reading = some connector) :
    connector.acl = s.connector.acl ∨ connector.acl = s.connector.acl.clear ∨
      ∃ c ∈ s.compiled, (∀ r ∈ c.snap.resources, PortsInRange r) ∧
        connector.acl.staleGrace = s.connector.acl.staleGrace ∧
        Holds cfg connector.acl c.snap c.compiledAt := by
  rcases Connector.handleControlMessage_acl h with hsame | ⟨r, ok, htype, hdecode, hreplace⟩
  · exact Or.inl hsame
  rcases PolicyCache.replaceSnapshot_cases hreplace with ⟨-, hclear⟩ | ⟨-, t, haccepts, hindex⟩
  · exact Or.inr (Or.inl hclear)
  · obtain ⟨c, hc, hmarshal⟩ := hauthentic r htype hdecode haccepts.verified
    refine Or.inr (Or.inr ⟨c, hc, ?_, by rw [hindex], ?_⟩)
    · exact (ControlPlane.Replacement.decodes_marshal_iff c.snap).mp
        (hmarshal ▸ Option.some_ne_none r)
    · exact Holds.of_accepts (hinv.compiled c hc).dated hmarshal haccepts hindex

theorem inv_step {e : Event} (hinv : Inv cfg s) (hok : Authentic s e ∧ EntersPlain s e)
    (h : step cfg drift s e = some s') : Inv cfg s' := by
  have hspec := step_spec h
  cases e with
  | tick now =>
      obtain ⟨-, rfl⟩ := hspec
      exact ⟨hinv.grace, hinv.users, hinv.compiled, hinv.held⟩
  | change db =>
      obtain rfl : s' = _ := hspec
      exact ⟨hinv.grace, hok.2, hinv.compiled, hinv.held⟩
  | compile signingKey reading =>
      obtain ⟨-, htime, rfl⟩ := hspec
      refine ⟨hinv.grace, ?_, ?_, ?_⟩
      · unfold PlainUsers
        rw [users_prepare]
        exact hinv.users
      · intro c hc
        rcases List.mem_append.mp hc with hc | hc
        · exact hinv.compiled c hc
        · obtain ⟨snap, hsnap, rfl⟩ := Option.map_eq_some_iff.mp (Option.mem_toList.mp hc)
          exact faithful_prepare hinv.users hsnap htime
      · rcases hinv.held with hempty | ⟨c, hc, hholds⟩
        · exact Or.inl hempty
        · exact Or.inr ⟨c, List.mem_append_left _ hc, hholds⟩
  | connect signingKey =>
      obtain rfl : s' = _ := hspec
      obtain ⟨hinner, hgrace⟩ := PolicyCache.setSigningKey_inner s.connector.acl signingKey
      refine ⟨hgrace.trans hinv.grace, hinv.users, hinv.compiled, ?_⟩
      rcases hinv.held with hempty | ⟨c, hc, hports, hholds⟩
      · exact Or.inl (hinner.trans hempty)
      · exact Or.inr ⟨c, hc, hports, hholds.dated, hinner.trans hholds.indexed,
          hgrace ▸ hholds.fits⟩
  | deliver msg reading =>
      obtain ⟨-, connector, hhandle, rfl⟩ := hspec
      rcases acl_of_handled hinv hok.1 hhandle with hsame | hclear | ⟨c, hc, hports, hgrace, hholds⟩
      · refine ⟨?_, hinv.users, hinv.compiled, ?_⟩
        · show connector.acl.staleGrace = _
          rw [hsame, hinv.grace]
        · rw [hsame]
          exact hinv.held
      · refine ⟨?_, hinv.users, hinv.compiled, Or.inl ?_⟩
        · show connector.acl.staleGrace = _
          rw [hclear]
          exact hinv.grace
        · show connector.acl.inner = _
          rw [hclear]
          rfl
      · exact ⟨hgrace.trans hinv.grace, hinv.users, hinv.compiled, Or.inr ⟨c, hc, hports, hholds⟩⟩
  | restart policyKey =>
      obtain rfl : s' = _ := hspec
      exact ⟨rfl, hinv.users, hinv.compiled, Or.inl rfl⟩

end Step

/-! ## Where a yes comes from -/

/-- The tables permit the request to the connector, through the row of this id. -/
def PermitsThrough (cfg : Settings) (L : Connector.Libraries) (db : Database) (q : Query)
    (rid : String) : Prop :=
  ∃ networkId row, Controller.lookupConnectorNetwork db cfg.connectorId = .ok networkId ∧
    Permits cfg.C L db networkId q row ∧ row.id = rid

/-- The connector says yes, when its clock shows this. -/
def SaysYes (s : State L) (reading : SystemTime) (q : Query) (rid : String) : Prop :=
  ∃ reason, s.connector.acl.allowed q.identity q.dest q.protocol q.port reading =
    some (true, rid, reason)

section Answers

variable {cfg : Settings} {drift : Duration} {s s₀ t : State L} {reading : SystemTime} {q : Query}
  {rid : String}

theorem validUntil_le (cfg : Settings) (compiledAt : Int) :
    validUntil cfg compiledAt ≤ compiledAt + cfg.snapshotTTL := by
  have hpos : (0 : Int) < (nanosPerSec : Nat) := by decide
  exact Int.ediv_mul_le _ hpos.ne'

/-- A yes is by one of the snapshots, and the date of it is not past. -/
theorem yes_copied (hinv : Inv cfg s) (hidentity : q.identity ≠ "")
    (hplain : PlainIdentity q.identity) (hyes : SaysYes s reading q rid) :
    ∃ date db, Copied s date db ∧ PermitsThrough cfg L db q rid ∧
      reading ≤ date + cfg.snapshotTTL + cfg.staleGrace := by
  obtain ⟨reason, hyes⟩ := hyes
  obtain ⟨hsnap, hdate, hdecision⟩ := PolicyCache.allowed_eq_true hyes
  rcases hinv.held with hempty | ⟨c, hc, hports, hholds⟩
  · rw [hempty] at hsnap
    cases hsnap
  obtain ⟨-, husers, networkId, hnetwork, hresources⟩ := hinv.compiled c hc
  refine ⟨c.compiledAt, c.db, ⟨c, hc, rfl, rfl⟩, ?_, ?_⟩
  · have hrows : (received c.snap).resources =
        (Controller.compiledResources cfg.C c.db networkId).map receivedResource := by
      rw [← hresources]
      rfl
    rw [hholds.indexed] at hdecision
    obtain ⟨-, hnamed⟩ := PolicyCache.decideOn_index _ _ (hrows ▸ nodup_received)
      (fun r hr i hi => by
        rw [hrows] at hr
        obtain ⟨row, -, rfl⟩ := mem_received.mp hr
        obtain ⟨-, chain, hchain⟩ := mem_identities_compiledRow.mp hi
        exact husers chain.user hchain.user i hchain.identity)
      hidentity hplain q.dest q.protocol q.port hdecision
    rw [hrows] at hnamed
    have hbounds := ControlPlane.Replacement.portsInRange_compiled.mp (hresources ▸ hports)
    obtain ⟨row, hpermits, hid⟩ := (granted_iff_permits (fun row hrow => hbounds row hrow.1 hrow.2)
      hidentity rid).mp (hnamed rfl)
    exact ⟨networkId, row, hnetwork, hpermits, hid⟩
  · have hlate := hdate (validUntil cfg c.compiledAt) (by
      rw [hholds.indexed, PolicyCache.validUntil_indexSnapshot])
    rw [hinv.grace] at hlate
    have hfloor := validUntil_le cfg c.compiledAt
    exact hlate.trans (Int.add_le_add_right hfloor _)

theorem inv_of_run {now : SystemTime} {db : Database} {policyKey : List UInt8} {es : List Event}
    (husers : PlainUsers db) (hrun : run (step cfg drift) (State.start L cfg now db policyKey) es =
      some s)
    (hauthentic : Meets (step cfg drift) Authentic (State.start L cfg now db policyKey) es)
    (hplain : Meets (step cfg drift) EntersPlain (State.start L cfg now db policyKey) es) :
    Inv cfg s :=
  run_invariant_of_meets (fun _ _ _ hinv hok hstep => inv_step hinv hok hstep) (inv_start husers)
    (meets_and hauthentic hplain) hrun

/-- A yes by a snapshot is a use of a copy that is current. -/
theorem yes_current (hinv : Inv cfg s) (hclock : Shows drift s.now reading)
    (hidentity : q.identity ≠ "") (hplain : PlainIdentity q.identity)
    (hyes : SaysYes s reading q rid) :
    ∃ date db, (lease L cfg drift).Copy s date db ∧ PermitsThrough cfg L db q rid ∧
      (lease L cfg drift).clock s ≤ date + (cfg.snapshotTTL + cfg.staleGrace + drift) := by
  obtain ⟨date, db, hcopied, hpermits, hdate⟩ := yes_copied hinv hidentity hplain hyes
  refine ⟨date, db, hcopied, hpermits, ?_⟩
  have hreading := hclock.2
  show s.now ≤ _
  linarith

theorem no_copy_at_start {now : SystemTime} {db : Database} {policyKey : List UInt8} :
    ∀ date v, ¬ (lease L cfg drift).Copy (State.start L cfg now db policyKey) date v := by
  rintro date v ⟨c, hc, -⟩
  exact absurd hc List.not_mem_nil

end Answers

/-- **Staleness theorem.**  In every run from a fresh connector, with any changes of the
tables, compilations, streams, restarts and deliveries, if nobody else can sign and the
clocks drift by `drift` at most: whenever the connector answers yes to a plain identity,
there was a moment of the run, at most the snapshot's lifetime, the grace and twice the
drift ago, at which the tables permitted the request through the very row it names. -/
theorem yes_recently_permitted (cfg : Settings) (drift : Duration) (now : SystemTime)
    (db : Database) (policyKey : List UInt8) (husers : PlainUsers db) (es : List Event)
    (s : State L) (hrun : run (step cfg drift) (State.start L cfg now db policyKey) es = some s)
    (hauthentic : Meets (step cfg drift) Authentic (State.start L cfg now db policyKey) es)
    (hentered : Meets (step cfg drift) EntersPlain (State.start L cfg now db policyKey) es)
    (q : Query) (hidentity : q.identity ≠ "") (hplain : PlainIdentity q.identity)
    (reading : SystemTime) (hclock : Shows drift s.now reading) (rid : String)
    (hyes : SaysYes s reading q rid) :
    ∃ pre, pre <+: es ∧ ∃ u,
      run (step cfg drift) (State.start L cfg now db policyKey) pre = some u ∧
      PermitsThrough cfg L u.db q rid ∧ u.now ≤ s.now ∧
      s.now ≤ u.now + cfg.snapshotTTL + cfg.staleGrace + 2 * drift := by
  have hinv := inv_of_run husers hrun hauthentic hentered
  obtain ⟨date, v, hcopy, hpermits, hcurrent⟩ :=
    yes_current hinv hclock hidentity hplain hyes
  obtain ⟨pre, hpre, u, hu, rfl, hmono, hrecent⟩ :=
    Lease.value_recent no_copy_at_start hrun hcopy hcurrent
  refine ⟨pre, hpre, u, hu, hpermits, hmono, ?_⟩
  have : s.now ≤ u.now + (cfg.snapshotTTL + cfg.staleGrace + drift) + drift := hrecent
  linarith

/-! ## A rule that is deleted -/

section Deleted

open ControlPlane.PolicyPush (grantLibraries grantDatabase granted grantTime signedSnapshot)

def deletedStart : State grantLibraries :=
  .start grantLibraries grantSettings grantTime granted [107]

def deletedSnapshot : PolicySnapshot :=
  signedSnapshot (grantSettings.client [107]) granted "net_1" grantTime

/-- A snapshot is compiled and delivered; then the rule is deleted, and nothing is sent. -/
def deletedEvents : List Event :=
  [.compile [107] grantTime, .deliver ⟨"policy_snapshot", deletedSnapshot.marshal⟩ grantTime,
    .change (grantDatabase ∅)]

theorem plainUsers_grantDatabase (accessRules : Table Controller.AccessRuleRow.id) :
    PlainUsers (grantDatabase accessRules) := by
  intro u hu i hi
  obtain rfl := List.mem_singleton.mp hu
  obtain rfl := Option.some.inj hi
  decide

theorem step_compile_deleted : step grantSettings 0 deletedStart (.compile [107] grantTime) =
    some { deletedStart with
      db := (prepare (grantSettings.client [107]) granted grantTime).1
      compiled := [⟨grantTime, granted, deletedSnapshot⟩] } := by
  have hguard : Shows 0 deletedStart.now grantTime ∧
      inTime grantSettings (.compile 0 grantTime) = true := by decide
  have hnetwork : Controller.lookupConnectorNetwork granted
      (grantSettings.client [107]).connectorId = .ok "net_1" := rfl
  have hprepare :=
    ControlPlane.PolicyPush.prepare_eq grantTime (by decide) (by decide) hnetwork
  simp only [step, if_pos hguard]
  rw [show deletedStart.db = granted from rfl, hprepare]
  rfl

theorem deleted_run : ∃ s, run (step grantSettings 0) deletedStart deletedEvents = some s ∧
    Meets (step grantSettings 0) Authentic deletedStart deletedEvents ∧
    Meets (step grantSettings 0) EntersPlain deletedStart deletedEvents ∧
    s.now = grantTime ∧ s.db = grantDatabase ∅ ∧ ∃ rid, SaysYes s grantTime grantQuery rid := by
  have hboth : fromSlice deletedSnapshot.marshal = some (received deletedSnapshot) ∧
      deletedStart.connector.acl.Accepts (received deletedSnapshot) grantTime
        (validUntil grantSettings grantTime) :=
    accepts_signedSnapshot rfl (by decide) rfl rfl sendable_granted
      ⟨by decide, by decide, by decide⟩
  obtain ⟨hdecode, haccepts⟩ := hboth
  obtain ⟨connector, hhandle, hacl⟩ :=
    Connector.handlePolicySnapshot_of_accepts (s := deletedStart.connector) hdecode haccepts
  have hdeliver : step grantSettings 0 { deletedStart with
        db := (prepare (grantSettings.client [107]) granted grantTime).1
        compiled := [⟨grantTime, granted, deletedSnapshot⟩] }
      (.deliver ⟨"policy_snapshot", deletedSnapshot.marshal⟩ grantTime) =
      some { deletedStart with
        db := (prepare (grantSettings.client [107]) granted grantTime).1
        connector := connector
        compiled := [⟨grantTime, granted, deletedSnapshot⟩] } := by
    have hguard : Shows 0 deletedStart.now grantTime := by decide
    simp only [step, if_pos hguard, ControlPlane.Replacement.handleControlMessage_policySnapshot]
    rw [hhandle]
    rfl
  refine ⟨_, run_cons.mpr ⟨_, step_compile_deleted, run_cons.mpr ⟨_, hdeliver,
    run_cons.mpr ⟨_, rfl, rfl⟩⟩⟩, ?_, ?_, rfl, rfl, ?_⟩
  · refine meets_cons trivial step_compile_deleted (meets_cons ?_ hdeliver ⟨trivial, ?_⟩)
    · intro r _ hr _
      dsimp only at hr
      exact ⟨⟨grantTime, granted, deletedSnapshot⟩, List.mem_singleton_self _, hr⟩
    · exact fun _ _ => trivial
  · refine meets_cons trivial step_compile_deleted (meets_cons trivial hdeliver ⟨?_, ?_⟩)
    · exact plainUsers_grantDatabase ∅
    · exact fun _ _ => trivial
  · have hinner : connector.acl.inner = PolicyCache.indexSnapshot grantLibraries
        (received (signedSnapshot (grantSettings.client [107]) granted "net_1" grantTime))
        (validUntil grantSettings grantTime) := by
      rw [hacl]
      rfl
    obtain ⟨hcurrent, -⟩ := answers_signedSnapshot sendable_granted hinner
      (by rw [hacl]; exact haccepts.fits) (q := grantQuery) (by decide) (by decide) grantTime
    obtain ⟨ok, rid, reason, hanswer, hiff, -⟩ := hcurrent (by rw [hacl]; exact haccepts.current)
    obtain rfl := hiff.mpr permits_granted
    exact ⟨rid, reason, hanswer⟩

/-- The rule is deleted, and the yes goes back to when it was not. -/
theorem deleted_still_answers : ∃ s rid,
    run (step grantSettings 0) deletedStart deletedEvents = some s ∧
    SaysYes s grantTime grantQuery rid ∧
    ∃ pre, pre <+: deletedEvents ∧ ∃ u, run (step grantSettings 0) deletedStart pre = some u ∧
      PermitsThrough grantSettings grantLibraries u.db grantQuery rid := by
  obtain ⟨s, hrun, hauthentic, hentered, hnow, -, rid, hyes⟩ := deleted_run
  have hclock : Shows 0 s.now grantTime := by
    rw [hnow]
    decide
  obtain ⟨pre, hpre, u, hu, hpermits, -⟩ := yes_recently_permitted grantSettings 0 grantTime granted
    [107] (plainUsers_grantDatabase _) deletedEvents s hrun hauthentic hentered grantQuery
    (by decide) (by decide) grantTime hclock rid hyes
  exact ⟨s, rid, hrun, hyes, pre, hpre, u, hu, hpermits⟩

/-- **Withdrawal theorem.**  If at some moment of such a run the tables do not permit a
request, through any row, nor at any later one, then from the snapshot's lifetime, the
grace and twice the drift on the connector does not answer yes to it. -/
theorem withdrawn_in_time (cfg : Settings) (drift : Duration) (now : SystemTime)
    (db : Database) (policyKey : List UInt8) (husers : PlainUsers db) (es fs : List Event)
    (s t : State L) (hrun : run (step cfg drift) (State.start L cfg now db policyKey) es = some s)
    (hrest : run (step cfg drift) s fs = some t)
    (hauthentic : Meets (step cfg drift) Authentic (State.start L cfg now db policyKey) (es ++ fs))
    (hentered : Meets (step cfg drift) EntersPlain (State.start L cfg now db policyKey) (es ++ fs))
    (q : Query) (hidentity : q.identity ≠ "") (hplain : PlainIdentity q.identity)
    (hnever : ∀ mid, mid <+: fs → ∀ u, run (step cfg drift) s mid = some u →
      ∀ rid, ¬ PermitsThrough cfg L u.db q rid)
    (reading : SystemTime) (hclock : Shows drift t.now reading)
    (hlate : s.now + cfg.snapshotTTL + cfg.staleGrace + 2 * drift < t.now) (rid : String) :
    ¬ SaysYes t reading q rid := by
  intro hyes
  have hinv := inv_of_run husers (run_append.mpr ⟨s, hrun, hrest⟩) hauthentic hentered
  obtain ⟨date, v, hcopy, hpermits, hcurrent⟩ :=
    yes_current hinv hclock hidentity hplain hyes
  have hbound := Lease.withdrawn (P := fun db => ∃ rid, PermitsThrough cfg L db q rid)
    no_copy_at_start hrun hrest
    (fun mid hmid u hu h => h.elim fun rid hr => hnever mid hmid u hu rid hr)
    hcopy ⟨rid, hpermits⟩ hcurrent
  have : t.now ≤ s.now + (cfg.snapshotTTL + cfg.staleGrace + drift) + drift := hbound
  linarith

/-- From 15 minutes after the rule is deleted on, the connector refuses. -/
theorem deleted_refused_in_time : ∃ t,
    run (step grantSettings 0) deletedStart
      (deletedEvents ++ [.tick (grantTime + 901 * nanosPerSec)]) = some t ∧
    ∀ rid, ¬ SaysYes t (grantTime + 901 * nanosPerSec) grantQuery rid := by
  obtain ⟨s, hrun, hauthentic, hentered, hnow, hdb, -⟩ := deleted_run
  have hlater : s.now ≤ grantTime + 901 * nanosPerSec := by
    rw [hnow]
    decide
  have htick : run (step grantSettings 0) s [.tick (grantTime + 901 * nanosPerSec)] =
      some { s with now := grantTime + 901 * nanosPerSec } :=
    run_cons.mpr ⟨_, if_pos hlater, rfl⟩
  have hnever : ∀ db : Database, db = grantDatabase ∅ → ∀ rid,
      ¬ PermitsThrough grantSettings grantLibraries db grantQuery rid := by
    rintro db rfl rid ⟨networkId, row, -, hpermits, -⟩
    obtain ⟨c, hc⟩ := hpermits.granted
    exact absurd hc.rule List.not_mem_nil
  refine ⟨_, run_append.mpr ⟨s, hrun, htick⟩, fun rid => ?_⟩
  refine withdrawn_in_time grantSettings 0 grantTime granted [107] (plainUsers_grantDatabase _)
    deletedEvents [.tick (grantTime + 901 * nanosPerSec)] s _ hrun htick
    (meets_append.mpr ⟨hauthentic, fun t _ => ⟨trivial, fun _ _ => trivial⟩⟩)
    (meets_append.mpr ⟨hentered, fun t _ => ⟨trivial, fun _ _ => trivial⟩⟩)
    grantQuery (by decide) (by decide) ?_ (grantTime + 901 * nanosPerSec) ?_ ?_ rid
  · intro mid hmid u hu
    refine hnever u.db ?_
    rcases List.prefix_cons_iff.mp hmid with rfl | ⟨rest, rfl, hrest⟩
    · obtain rfl : s = u := Option.some.inj hu
      exact hdb
    · obtain rfl := List.prefix_nil.mp hrest
      obtain rfl := Option.some.inj (htick.symm.trans hu)
      exact hdb
  · show Shows 0 (grantTime + 901 * nanosPerSec) (grantTime + 901 * nanosPerSec)
    decide
  · show s.now + _ + _ + _ < grantTime + 901 * nanosPerSec
    rw [hnow]
    decide

end Deleted

end ZeroTrust.System.Staleness
