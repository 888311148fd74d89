/-
# `ZeroTrust.ControlPlane.Clients` — the table of connected clients

`api/control_plane.go` keeps one `connectorClient` per SPIFFE ID.  `Connect` puts
its stream there (`addClient`) and takes the entry out when it returns
(`removeClient`); both are keyed by the SPIFFE ID and not by the stream.  A
connector that reconnects before its old stream is torn down has two streams for
a while: the new one overwrites the entry, and the old one's teardown then
removes it.

    in every reachable state    an entry is an open stream of its own SPIFFE ID
                                (`Inv`, `inv_step`)
    all along a run             every open stream's SPIFFE ID has an entry, and so
                                `IsStreamActive`, `SendToConnector` and the
                                broadcasts work, iff no stream closes while
                                another one of its SPIFFE ID is open
                                (`clients_track_streams_iff`)

A Go map is ranged over in any order: what depends on the order takes the clients
as a list and holds for every permutation.
-/
import Mathlib.Data.List.AList
import ZeroTrust.Lib.Run
import ZeroTrust.Lib.Table
import ZeroTrust.Text

namespace ZeroTrust.ControlPlane.Clients

open Lib

def parseConnectorID (spiffeID : String) : String :=
  if spiffeID = "" then ""
  else
    match (dropLeading "spiffe://" spiffeID).toList.splitOn '/' with
    | _ :: role :: id :: _ => if role ≠ "connector".toList then "" else String.ofList id
    | _ => ""

/-- The stream is a number: the how-manieth that was opened. -/
structure ConnectorClient where
  stream : Nat
  connectorID : String
  deriving DecidableEq

/-- A `Connect` call that has registered its client and not yet returned. -/
structure Stream where
  id : Nat
  spiffeID : String
  deriving DecidableEq

def Stream.connectorID (st : Stream) : String := parseConnectorID st.spiffeID

structure State where
  clients : AList fun _ : String => ConnectorClient
  /-- The open streams. -/
  streams : List Stream
  opened : Nat

def State.init : State := ⟨∅, [], 0⟩

namespace State

def addClient (s : State) (id : String) (c : ConnectorClient) : State :=
  { s with clients := s.clients.insert id c }

def removeClient (s : State) (id : String) : State := { s with clients := s.clients.erase id }

/-- The clients, in the order of the table. -/
def clientList (s : State) : List ConnectorClient := s.clients.entries.map Sigma.snd

def isStreamActive (s : State) (id : String) : Bool :=
  s.clients.entries.any fun e => e.1 = id || e.2.connectorID = id

end State

/-- The client a message for a connector goes to. -/
def sendToConnector (clients : List ConnectorClient) (connectorID : String) :
    Option ConnectorClient :=
  clients.find? fun c => c.connectorID = connectorID

inductive Event where
  | connect (spiffeID : String)
  | disconnect (id : Nat)

def step (s : State) : Event → Option State
  | .connect spiffeID =>
      some { s.addClient spiffeID ⟨s.opened, parseConnectorID spiffeID⟩ with
        streams := s.streams ++ [⟨s.opened, spiffeID⟩]
        opened := s.opened + 1 }
  | .disconnect id =>
      match s.streams.find? fun st => st.id = id with
      | some st => some { s.removeClient st.spiffeID with
          streams := s.streams.filter fun st => st.id ≠ id }
      | none => none

/-! ## What always holds -/

structure Inv (s : State) : Prop where
  fresh : ∀ st ∈ s.streams, st.id < s.opened
  distinct : ∀ st ∈ s.streams, ∀ st' ∈ s.streams, st.id = st'.id → st = st'
  /-- An entry is an open stream of its SPIFFE ID. -/
  entry : ∀ k c, s.clients.lookup k = some c →
    c.connectorID = parseConnectorID k ∧ ⟨c.stream, k⟩ ∈ s.streams

theorem inv_init : Inv .init where
  fresh _ h := absurd h List.not_mem_nil
  distinct _ h := absurd h List.not_mem_nil
  entry k c h := by simp [State.init] at h

/-- What a step can do. -/
theorem step_cases {s s' : State} {e : Event} (h : step s e = some s') :
    (∃ spiffeID, e = .connect spiffeID ∧ s' = {
      clients := s.clients.insert spiffeID ⟨s.opened, parseConnectorID spiffeID⟩
      streams := s.streams ++ [⟨s.opened, spiffeID⟩]
      opened := s.opened + 1 }) ∨
    (∃ st ∈ s.streams, e = .disconnect st.id ∧ s' = {
      clients := s.clients.erase st.spiffeID
      streams := s.streams.filter fun st' => st'.id ≠ st.id
      opened := s.opened }) := by
  cases e with
  | connect spiffeID => exact Or.inl ⟨spiffeID, rfl, (Option.some.inj h).symm⟩
  | disconnect id =>
      simp only [step] at h
      split at h
      next st hfind =>
        have hid : st.id = id := by simpa using List.find?_some hfind
        subst hid
        exact Or.inr ⟨st, List.mem_of_find?_eq_some hfind, rfl, (Option.some.inj h).symm⟩
      · cases h

theorem inv_step {s s' : State} {e : Event} (hs : Inv s) (h : step s e = some s') : Inv s' := by
  rcases step_cases h with ⟨spiffeID, -, rfl⟩ | ⟨st, hst, -, rfl⟩
  · refine ⟨?_, ?_, ?_⟩
    · intro st hst
      rcases List.mem_append.mp hst with hst | hst
      · exact Nat.lt_succ_of_lt (hs.fresh st hst)
      · rw [List.mem_singleton.mp hst]
        exact Nat.lt_succ_self _
    · intro st hst st' hst' hid
      rcases List.mem_append.mp hst with hold | hnew <;>
        rcases List.mem_append.mp hst' with hold' | hnew'
      · exact hs.distinct st hold st' hold' hid
      · rw [List.mem_singleton.mp hnew'] at hid
        exact absurd (hs.fresh st hold) (by simp [hid])
      · rw [List.mem_singleton.mp hnew] at hid
        exact absurd (hs.fresh st' hold') (by simp [← hid])
      · rw [List.mem_singleton.mp hnew, List.mem_singleton.mp hnew']
    · intro k c hk
      rcases lookup_insert_eq_some.mp hk with ⟨rfl, rfl⟩ | ⟨-, hold⟩
      · exact ⟨rfl, by simp⟩
      · obtain ⟨hid, hmem⟩ := hs.entry k c hold
        exact ⟨hid, List.mem_append_left _ hmem⟩
  · refine ⟨?_, ?_, ?_⟩
    · exact fun st' hst' => hs.fresh st' (List.mem_of_mem_filter hst')
    · exact fun st₁ h₁ st₂ h₂ =>
        hs.distinct st₁ (List.mem_of_mem_filter h₁) st₂ (List.mem_of_mem_filter h₂)
    · intro k c hk
      obtain ⟨hkey, hold⟩ := lookup_erase_eq_some.mp hk
      obtain ⟨hid, hmem⟩ := hs.entry k c hold
      refine ⟨hid, List.mem_filter.mpr ⟨hmem, ?_⟩⟩
      -- the closed stream has another SPIFFE ID, so it is another stream
      simp only [decide_eq_true_eq]
      intro hsame
      exact hkey (congrArg Stream.spiffeID (hs.distinct _ hmem st hst hsame))

/-! ## The table tracks the streams -/

/-- The table is what its users take it for. -/
structure Tracks (s : State) : Prop where
  /-- A SPIFFE ID with an open stream has an entry for an open stream of its own. -/
  entry : ∀ st ∈ s.streams, ∃ c, s.clients.lookup st.spiffeID = some c ∧
    ⟨c.stream, st.spiffeID⟩ ∈ s.streams
  /-- No entry refers to a closed stream. -/
  live : ∀ k c, s.clients.lookup k = some c → ∃ st ∈ s.streams, st.id = c.stream
  active : ∀ st ∈ s.streams,
    s.isStreamActive st.spiffeID = true ∧ s.isStreamActive st.connectorID = true
  found : ∀ st ∈ s.streams, ∀ clients : List ConnectorClient, clients.Perm s.clientList →
    ∃ c, sendToConnector clients st.connectorID = some c ∧ ∃ st' ∈ s.streams, st'.id = c.stream
  reached : ∀ st ∈ s.streams, ∀ clients : List ConnectorClient, clients.Perm s.clientList →
    ∃ c ∈ clients, ⟨c.stream, st.spiffeID⟩ ∈ s.streams

theorem mem_clientList {s : State} {c : ConnectorClient} :
    c ∈ s.clientList ↔ ∃ k, s.clients.lookup k = some c := by
  simp only [State.clientList, List.mem_map, Sigma.exists]
  constructor
  · rintro ⟨k, c', hmem, rfl⟩
    exact ⟨k, AList.mem_lookup_iff.mpr hmem⟩
  · rintro ⟨k, hk⟩
    exact ⟨k, c, AList.mem_lookup_iff.mp hk, rfl⟩

/-- Given what always holds, everything comes down to every open stream's SPIFFE ID
having an entry. -/
theorem tracks_iff {s : State} (hs : Inv s) :
    Tracks s ↔ ∀ st ∈ s.streams, ∃ c, s.clients.lookup st.spiffeID = some c := by
  constructor
  · intro h st hst
    obtain ⟨c, hc, -⟩ := h.entry st hst
    exact ⟨c, hc⟩
  · intro h
    have hlive : ∀ k c, s.clients.lookup k = some c → ∃ st ∈ s.streams, st.id = c.stream :=
      fun k c hk => ⟨_, (hs.entry k c hk).2, rfl⟩
    refine ⟨?_, hlive, ?_, ?_, ?_⟩
    · intro st hst
      obtain ⟨c, hc⟩ := h st hst
      exact ⟨c, hc, (hs.entry _ c hc).2⟩
    · intro st hst
      obtain ⟨c, hc⟩ := h st hst
      have hmem := AList.mem_lookup_iff.mp hc
      simp only [State.isStreamActive, List.any_eq_true]
      refine ⟨⟨_, hmem, by simp⟩, ⟨_, hmem, ?_⟩⟩
      simp [(hs.entry _ c hc).1, Stream.connectorID]
    · intro st hst clients hperm
      obtain ⟨c, hc⟩ := h st hst
      have hmem : c ∈ clients := hperm.mem_iff.mpr (mem_clientList.mpr ⟨_, hc⟩)
      have hsome : (sendToConnector clients st.connectorID).isSome = true := by
        rw [sendToConnector, List.find?_isSome]
        exact ⟨c, hmem, by simp [(hs.entry _ c hc).1, Stream.connectorID]⟩
      obtain ⟨c', hfound⟩ := Option.isSome_iff_exists.mp hsome
      obtain ⟨k, hk⟩ := mem_clientList.mp (hperm.mem_iff.mp (List.mem_of_find?_eq_some hfound))
      exact ⟨c', hfound, hlive k c' hk⟩
    · intro st hst clients hperm
      obtain ⟨c, hc⟩ := h st hst
      exact ⟨c, hperm.mem_iff.mpr (mem_clientList.mpr ⟨_, hc⟩), (hs.entry _ c hc).2⟩

/-- A stream closes only as the last one of its SPIFFE ID. -/
def ClosesLast (s : State) : Event → Prop
  | .connect _ => True
  | .disconnect id => ∀ st ∈ s.streams, st.id = id →
      ∀ st' ∈ s.streams, st'.spiffeID = st.spiffeID → st' = st

theorem tracks_step {s s' : State} {e : Event} (hs : Inv s) (htracks : Tracks s)
    (hlast : ClosesLast s e) (h : step s e = some s') : Tracks s' := by
  rw [tracks_iff hs] at htracks
  rw [tracks_iff (inv_step hs h)]
  rcases step_cases h with ⟨spiffeID, -, rfl⟩ | ⟨closed, hclosed, rfl, rfl⟩
  · intro st hst
    by_cases hkey : st.spiffeID = spiffeID
    · exact ⟨_, by rw [hkey, AList.lookup_insert]⟩
    · have hold : st ∈ s.streams := by
        rcases List.mem_append.mp hst with hold | hnew
        · exact hold
        · exact absurd (congrArg Stream.spiffeID (List.mem_singleton.mp hnew)) hkey
      obtain ⟨c, hc⟩ := htracks st hold
      exact ⟨c, by rw [AList.lookup_insert_ne hkey]; exact hc⟩
  · intro st hst
    obtain ⟨hold, hne⟩ := List.mem_filter.mp hst
    have hkey : st.spiffeID ≠ closed.spiffeID := by
      intro hkey
      have := hlast closed hclosed rfl st hold hkey
      simp [this] at hne
    obtain ⟨c, hc⟩ := htracks st hold
    exact ⟨c, by rw [AList.lookup_erase_ne hkey]; exact hc⟩

/-- Closing a stream while another of its SPIFFE ID is open loses that other one. -/
theorem closesLast_of_tracks {s s' : State} {e : Event} (hs : Inv s)
    (h : step s e = some s') (htracks : Tracks s') : ClosesLast s e := by
  rcases step_cases h with ⟨spiffeID, rfl, -⟩ | ⟨closed, hclosed, rfl, rfl⟩
  · trivial
  · intro st hst hid other hother hkey
    obtain rfl : st = closed := hs.distinct st hst closed hclosed hid
    refine hs.distinct other hother st hst (by_contra fun hne => ?_)
    have hopen : other ∈ s.streams.filter fun st' => st'.id ≠ st.id :=
      List.mem_filter.mpr ⟨hother, by simpa using hne⟩
    obtain ⟨c, hc, -⟩ := htracks.entry other hopen
    exact (lookup_erase_eq_some.mp hc).1 hkey

/-- **Tracking theorem.**  Along any interleaving of streams opening and closing, the
table tracks the open streams in every state reached if and only if no stream
closes while another one of its SPIFFE ID is open. -/
theorem clients_track_streams_iff (es : List Event) (s : State)
    (hrun : run step .init es = some s) :
    (∀ pre, pre <+: es → ∀ t, run step .init pre = some t → Tracks t) ↔
      Meets step ClosesLast .init es := by
  refine forall_prefix_iff_meets (fun _ _ _ => inv_step) (fun _ _ _ => tracks_step)
    (fun _ _ _ => closesLast_of_tracks) inv_init ?_ hrun
  rw [tracks_iff inv_init]
  exact fun _ h => absurd h List.not_mem_nil

/-- A reconnect: the new stream opens, the old one is torn down. -/
def reconnect : List Event :=
  [.connect "spiffe://corp/connector/con_1", .connect "spiffe://corp/connector/con_1",
    .disconnect 0]

/-- After it the new stream is open, and the connector has no entry. -/
theorem reconnect_untracked :
    ∃ s, run step .init reconnect = some s ∧
      s.streams = [⟨1, "spiffe://corp/connector/con_1"⟩] ∧
      s.clients.lookup "spiffe://corp/connector/con_1" = none ∧
      s.isStreamActive "con_1" = false ∧ ¬ Tracks s := by
  refine ⟨⟨(∅ : AList fun _ : String => ConnectorClient),
    [⟨1, "spiffe://corp/connector/con_1"⟩], 2⟩, by rfl, rfl, rfl, rfl, fun h => ?_⟩
  obtain ⟨c, hc, -⟩ := h.entry _ (List.mem_singleton.mpr rfl)
  cases hc

/-- Two connectors, one of which leaves and comes back. -/
def comeAndGo : List Event :=
  [.connect "spiffe://corp/connector/con_1", .connect "spiffe://corp/connector/con_2",
    .disconnect 0, .connect "spiffe://corp/connector/con_1"]

theorem comeAndGo_tracked :
    ∃ s, run step .init comeAndGo = some s ∧ Tracks s := by
  obtain ⟨s, hrun⟩ : ∃ s, run step .init comeAndGo = some s := ⟨_, rfl⟩
  refine ⟨s, hrun, (clients_track_streams_iff comeAndGo s hrun).mpr ?_ comeAndGo List.prefix_rfl s
    hrun⟩
  simp [comeAndGo, Meets, ClosesLast, step, State.init, State.addClient]

end ZeroTrust.ControlPlane.Clients
