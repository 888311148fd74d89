/-
# `ZeroTrust.Controller.EnrolmentTokens` — one identity per enrolment token

`TokenStore` of `state/token.go`, with the guards of its callers.  A consumption holds the
store's mutex over three steps

    SELECT … WHERE token = ?           `select`
    the clock and the checks           `check`
    UPDATE tokens SET consumed = 1 …   `update`, unless the token was consumed before

while `DeleteByConnectorID` takes no mutex and may come between any two of them; creating a
token is one statement under the mutex.  A token that was consumed is accepted again from the
id it is bound to.

A deletion removes a row and never resets it, so a token is either still bound to the one id
that consumed it or gone for good (`Inv`); the row a consumption has read is still there or
deleted (`Inside.Reads`).  From these: `token_enrols_one_identity`.

Times are Unix seconds, as `expires_at` is.  A consumption takes place at the time its check
reads from the clock.
-/
import ZeroTrust.Lib.Run
import ZeroTrust.Lib.Table

namespace ZeroTrust.Controller.EnrolmentTokens

open Lib

structure TokenRow where
  token : String
  /-- Empty until the token is consumed. -/
  connectorId : String
  expiresAt : Int
  consumed : Bool
  workspaceId : String
  deriving DecidableEq

abbrev Tokens := Table TokenRow.token

/-- `NewTokenStoreWithDB`: how long a token is good for, in seconds. -/
def ttl (ttlMinutes : Int) : Int := if ttlMinutes > 0 then ttlMinutes * 60 else 24 * 3600

def validId (id : String) : Bool :=
  id ≠ "" && id.utf8ByteSize ≤ 128 &&
    id.toList.all fun c =>
      ('a' ≤ c && c ≤ 'z') || ('A' ≤ c && c ≤ 'Z') || ('0' ≤ c && c ≤ '9') ||
        c = '-' || c = '_' || c = '.'

/-- Who consumes tokens. -/
inductive Caller where
  | enrollConnector
  | enrollTunneler
  | handleConsumeToken

/-- What a caller requires of the token and the id before it consumes. -/
def Caller.admits (token id : String) : Caller → Bool
  | .enrollConnector => validId id
  | .enrollTunneler => validId id && token ≠ ""
  | .handleConsumeToken => id ≠ ""

structure Consumer where
  token : String
  connectorId : String

/-- Where the consumption that holds the mutex stands. -/
inductive Inside where
  | begun (c : Consumer)
  | selected (c : Consumer) (row : Option TokenRow)
  /-- Checked at `now`; the `UPDATE` is next. -/
  | checked (c : Consumer) (row : TokenRow) (now : Int)

/-- A successful consumption. -/
structure Consumption where
  token : String
  connectorId : String
  now : Int
  /-- What the call returned. -/
  workspaceId : String

/-- A token as it was created. -/
structure Created where
  token : String
  workspaceId : String
  expiresAt : Int

structure State where
  tokens : Tokens
  inside : Option Inside
  created : List Created
  consumptions : List Consumption

def State.init : State := ⟨∅, none, [], []⟩

inductive Event where
  /-- `inserted` is false if the database refuses the row: no token is returned. -/
  | createTokenForWorkspace (token workspaceId : String) (now : Int) (inserted : Bool)
  | consumeToken (caller : Caller) (token connectorId : String)
  /-- `executed` is false if the statement fails. -/
  | select (executed : Bool)
  | check (now : Int)
  | update (executed : Bool)
  | deleteByConnectorId (connectorId : String)

/-- The steps of a consumption. -/
def Event.consumes : Event → Prop
  | .createTokenForWorkspace .. => False
  | .deleteByConnectorId _ => False
  | _ => True

def TokenRow.consume (c : Consumer) (r : TokenRow) : TokenRow :=
  if r.token = c.token then { r with consumed := true, connectorId := c.connectorId } else r

theorem TokenRow.consume_token (c : Consumer) (r : TokenRow) : (r.consume c).token = r.token := by
  unfold TokenRow.consume
  split <;> rfl

def State.fail (s : State) : State := { s with inside := none }

def State.succeed (s : State) (c : Consumer) (row : TokenRow) (now : Int) : State :=
  { s with
    inside := none
    consumptions := s.consumptions ++ [⟨c.token, c.connectorId, now, row.workspaceId⟩] }

/-- The checks after the `SELECT`. -/
def State.checkRow (s : State) (c : Consumer) (row : TokenRow) (now : Int) : State :=
  if now > row.expiresAt then s.fail
  else if row.consumed then
    -- Allow re-enrollment if the token was already consumed by the same ID.
    if row.connectorId = c.connectorId then s.succeed c row now else s.fail
  else { s with inside := some (.checked c row now) }

def step (ttlMinutes : Int) (s : State) : Event → Option State
  | .createTokenForWorkspace token workspaceId now inserted =>
      -- 32 random bytes are fresh
      if s.inside.isSome ∨ token ∈ s.created.map Created.token then none
      else if inserted then some { s with
        tokens := s.tokens.put ⟨token, "", now + ttl ttlMinutes, false, workspaceId⟩
        created := s.created ++ [⟨token, workspaceId, now + ttl ttlMinutes⟩] }
      else some s
  | .consumeToken caller token connectorId =>
      if s.inside.isSome ∨ caller.admits token connectorId = false then none
      else some { s with inside := some (.begun ⟨token, connectorId⟩) }
  | .select executed =>
      match s.inside with
      | some (.begun c) =>
          if executed then some { s with inside := some (.selected c (s.tokens.get c.token)) }
          else some s.fail
      | _ => none
  | .check now =>
      match s.inside with
      | some (.selected _ none) => some s.fail
      | some (.selected c (some row)) => some (s.checkRow c row now)
      | _ => none
  | .update executed =>
      match s.inside with
      | some (.checked c row now) =>
          if executed then some
            ({ s with tokens := s.tokens.update (TokenRow.consume c) (TokenRow.consume_token c) }
              |>.succeed c row now)
          else some s.fail
      | _ => none
  | .deleteByConnectorId connectorId =>
      some { s with tokens := s.tokens.filter fun r => !decide (r.connectorId = connectorId) }

/-! ## The invariant -/

/-- The row is that of a token as it was created. -/
def Made (created : List Created) (row : TokenRow) : Prop :=
  ∃ t ∈ created, t.token = row.token ∧ t.workspaceId = row.workspaceId ∧
    t.expiresAt = row.expiresAt

/-- Who has consumed the row's token, as far as the row says. -/
def Bound (consumptions : List Consumption) (row : TokenRow) : Prop :=
  ∀ c ∈ consumptions, c.token = row.token → row.consumed = true ∧ c.connectorId = row.connectorId

/-- A row that a consumption has read: nothing but a deletion has happened to it since. -/
structure Reads (s : State) (token : String) (row : TokenRow) : Prop where
  named : row.token = token
  made : Made s.created row
  bound : Bound s.consumptions row
  kept : s.tokens.get token = none ∨ s.tokens.get token = some row

def Inside.Reads (s : State) : Inside → Prop
  | .begun _ => True
  | .selected _ none => True
  | .selected c (some row) => EnrolmentTokens.Reads s c.token row
  | .checked c row now => EnrolmentTokens.Reads s c.token row ∧ row.consumed = false ∧
      now ≤ row.expiresAt

/-- A consumption is of a token that was created, for its workspace and in its time. -/
def Consumption.Sound (created : List Created) (c : Consumption) : Prop :=
  ∃ t ∈ created, t.token = c.token ∧ c.workspaceId = t.workspaceId ∧ c.now ≤ t.expiresAt

structure Inv (s : State) : Prop where
  fresh : (s.created.map Created.token).Nodup
  made : ∀ row ∈ s.tokens.rows, Made s.created row
  bound : ∀ row ∈ s.tokens.rows, Bound s.consumptions row
  inside : ∀ i, s.inside = some i → i.Reads s
  sound : ∀ c ∈ s.consumptions, c.Sound s.created
  sameId : ∀ c ∈ s.consumptions, ∀ d ∈ s.consumptions, c.token = d.token →
    c.connectorId = d.connectorId

theorem inv_init : Inv .init where
  fresh := List.nodup_nil
  made _ h := absurd h List.not_mem_nil
  bound _ h := absurd h List.not_mem_nil
  inside _ h := nomatch h
  sound _ h := absurd h List.not_mem_nil
  sameId _ h := absurd h List.not_mem_nil

section

variable {s : State}

theorem inv_fail (h : Inv s) : Inv s.fail := { h with inside := nofun }

/-- The row that the `SELECT` reads. -/
theorem reads_get (h : Inv s) {token : String} {row : TokenRow}
    (hget : s.tokens.get token = some row) : Reads s token row := by
  obtain ⟨hmem, htoken⟩ := Table.mem_of_get hget
  exact ⟨htoken, h.made row hmem, h.bound row hmem, Or.inr hget⟩

theorem sound_succeed {c : Consumer} {row : TokenRow} {now : Int} (hread : Reads s c.token row)
    (hnow : now ≤ row.expiresAt) :
    Consumption.Sound s.created ⟨c.token, c.connectorId, now, row.workspaceId⟩ := by
  obtain ⟨t, ht, htoken, hworkspace, hexpires⟩ := hread.made
  exact ⟨t, ht, htoken.trans hread.named, hworkspace.symm, hexpires ▸ hnow⟩

/-- One more consumption by an id that every earlier one of the token named. -/
theorem sameId_succeed (h : Inv s) {c : Consumer} {now : Int} {workspaceId : String}
    (hid : ∀ d ∈ s.consumptions, d.token = c.token → d.connectorId = c.connectorId) :
    ∀ d ∈ s.consumptions ++ [⟨c.token, c.connectorId, now, workspaceId⟩],
      ∀ d' ∈ s.consumptions ++ [⟨c.token, c.connectorId, now, workspaceId⟩],
        d.token = d'.token → d.connectorId = d'.connectorId := by
  intro d hd d' hd' htoken
  rcases List.mem_append.mp hd with hold | hnew <;>
    rcases List.mem_append.mp hd' with hold' | hnew'
  · exact h.sameId d hold d' hold' htoken
  · obtain rfl := List.mem_singleton.mp hnew'
    exact hid d hold htoken
  · obtain rfl := List.mem_singleton.mp hnew
    exact (hid d' hold' htoken.symm).symm
  · obtain rfl := List.mem_singleton.mp hnew
    obtain rfl := List.mem_singleton.mp hnew'
    rfl

/-- The token is accepted again from the id it is bound to. -/
theorem inv_reenrol (h : Inv s) {c : Consumer} {row : TokenRow} {now : Int}
    (hread : Reads s c.token row) (hnow : now ≤ row.expiresAt) (hconsumed : row.consumed = true)
    (hid : row.connectorId = c.connectorId) : Inv (s.succeed c row now) where
  fresh := h.fresh
  made := h.made
  bound := by
    intro r hr d hd htoken
    rcases List.mem_append.mp hd with hold | hnew
    · exact h.bound r hr d hold htoken
    · obtain rfl := List.mem_singleton.mp hnew
      -- the row in the table, if it is still there, is the one that was read
      have hget : s.tokens.get c.token = some r := Table.get_eq_some.mpr ⟨hr, htoken.symm⟩
      rcases hread.kept with hnone | hsome
      · rw [hget] at hnone
        cases hnone
      · obtain rfl : r = row := Option.some.inj (hget.symm.trans hsome)
        exact ⟨hconsumed, hid.symm⟩
  inside := nofun
  sound := by
    intro d hd
    rcases List.mem_append.mp hd with hold | hnew
    · exact h.sound d hold
    · obtain rfl := List.mem_singleton.mp hnew
      have hsound := sound_succeed (c := c) hread hnow
      exact hsound
  sameId := by
    refine sameId_succeed h fun d hd htoken => ?_
    exact (hread.bound d hd (htoken.trans hread.named.symm)).2.trans hid

theorem inv_checkRow (h : Inv s) {c : Consumer} {row : TokenRow} {now : Int}
    (hread : Reads s c.token row) : Inv (s.checkRow c row now) := by
  unfold State.checkRow
  split
  · exact inv_fail h
  next hnow =>
    split
    next hconsumed =>
      split
      next hid => exact inv_reenrol h hread (by omega) hconsumed hid
      · exact inv_fail h
    next hconsumed =>
      refine { h with inside := ?_ }
      rintro i ⟨⟩
      exact ⟨⟨hread.named, hread.made, hread.bound, hread.kept⟩, Bool.eq_false_iff.mpr hconsumed,
        by omega⟩

/-- The row after the `UPDATE`, where it is still there. -/
theorem mem_consume {tokens : Tokens} {c : Consumer} {row : TokenRow}
    (h : row ∈ (tokens.update (TokenRow.consume c) (TokenRow.consume_token c)).rows) :
    ∃ old ∈ tokens.rows, row.token = old.token ∧ row.workspaceId = old.workspaceId ∧
      row.expiresAt = old.expiresAt ∧
      ((old.token = c.token ∧ row.consumed = true ∧ row.connectorId = c.connectorId) ∨
        (old.token ≠ c.token ∧ row = old)) := by
  obtain ⟨old, hold, rfl⟩ := List.mem_map.mp h
  refine ⟨old, hold, ?_⟩
  unfold TokenRow.consume
  split
  next htoken => exact ⟨rfl, rfl, rfl, Or.inl ⟨htoken, rfl, rfl⟩⟩
  next htoken => exact ⟨rfl, rfl, rfl, Or.inr ⟨htoken, rfl⟩⟩

theorem inv_update (h : Inv s) {c : Consumer} {row : TokenRow} {now : Int}
    (hread : Reads s c.token row) (hconsumed : row.consumed = false) (hnow : now ≤ row.expiresAt) :
    Inv (State.succeed
      { s with tokens := s.tokens.update (TokenRow.consume c) (TokenRow.consume_token c) }
      c row now) := by
  -- nobody has consumed the token: the row would say so
  have hunused : ∀ d ∈ s.consumptions, d.token ≠ c.token := by
    intro d hd htoken
    have hset := (hread.bound d hd (htoken.trans hread.named.symm)).1
    rw [hconsumed] at hset
    cases hset
  refine ⟨h.fresh, ?_, ?_, nofun, ?_, ?_⟩
  · intro r hr
    obtain ⟨old, hold, htoken, hworkspace, hexpires, -⟩ := mem_consume hr
    obtain ⟨t, ht, h₁, h₂, h₃⟩ := h.made old hold
    exact ⟨t, ht, h₁.trans htoken.symm, h₂.trans hworkspace.symm, h₃.trans hexpires.symm⟩
  · intro r hr d hd htoken
    obtain ⟨old, hold, hsame, -, -, ⟨hc, hset, hid⟩ | ⟨hne, rfl⟩⟩ := mem_consume hr
    · rcases List.mem_append.mp hd with hearlier | hnew
      · exact absurd (htoken.trans (hsame.trans hc)) (hunused d hearlier)
      · obtain rfl := List.mem_singleton.mp hnew
        exact ⟨hset, hid.symm⟩
    · rcases List.mem_append.mp hd with hearlier | hnew
      · exact h.bound r hold d hearlier htoken
      · obtain rfl := List.mem_singleton.mp hnew
        exact absurd htoken.symm hne
  · intro d hd
    rcases List.mem_append.mp hd with hearlier | hnew
    · exact h.sound d hearlier
    · obtain rfl := List.mem_singleton.mp hnew
      have hsound := sound_succeed (c := c) hread hnow
      exact hsound
  · exact sameId_succeed h fun d hd htoken => absurd htoken (hunused d hd)

theorem inv_create (h : Inv s) {token workspaceId : String} {expiresAt : Int}
    (hinside : s.inside = none) (hfresh : token ∉ s.created.map Created.token) :
    Inv { s with
      tokens := s.tokens.put ⟨token, "", expiresAt, false, workspaceId⟩
      created := s.created ++ [⟨token, workspaceId, expiresAt⟩] } := by
  have hgrow : ∀ t ∈ s.created, t ∈ s.created ++ [⟨token, workspaceId, expiresAt⟩] :=
    fun t ht => List.mem_append_left _ ht
  refine
    { fresh := ?fresh
      made := ?made
      bound := ?bound
      inside := ?inside
      sound := ?sound
      sameId := h.sameId }
  case fresh =>
    exact nodup_keys_append h.fresh hfresh
  case made =>
    intro row hrow
    rcases Table.mem_rows_put.mp hrow with rfl | ⟨hold, -⟩
    · exact ⟨_, List.mem_append_right _ (List.mem_singleton_self _), rfl, rfl, rfl⟩
    · obtain ⟨t, ht, hrest⟩ := h.made row hold
      exact ⟨t, hgrow t ht, hrest⟩
  case bound =>
    intro row hrow
    rcases Table.mem_rows_put.mp hrow with rfl | ⟨hold, -⟩
    · intro d hd htoken
      obtain ⟨t, ht, hcreated, -⟩ := h.sound d hd
      exact absurd (List.mem_map.mpr ⟨t, ht, hcreated.trans htoken⟩) hfresh
    · exact h.bound row hold
  case inside =>
    intro i hi
    rw [hinside] at hi
    cases hi
  case sound =>
    intro d hd
    obtain ⟨t, ht, hrest⟩ := h.sound d hd
    exact ⟨t, hgrow t ht, hrest⟩

theorem inv_delete (h : Inv s) (p : TokenRow → Bool) :
    Inv { s with tokens := s.tokens.filter p } := by
  have hkept : ∀ row ∈ (s.tokens.filter p).rows, row ∈ s.tokens.rows :=
    fun row hrow => (List.mem_filter.mp hrow).1
  have hreads : ∀ token row, Reads s token row →
      Reads { s with tokens := s.tokens.filter p } token row := by
    rintro token row ⟨hnamed, hmade, hbound, hkept⟩
    refine ⟨hnamed, hmade, hbound, ?_⟩
    rw [Table.get_filter]
    rcases hkept with hnone | hsome
    · exact Or.inl (by rw [hnone]; rfl)
    · rw [hsome, Option.filter_some]
      split
      · exact Or.inr rfl
      · exact Or.inl rfl
  refine { h with
    made := fun row hrow => h.made row (hkept row hrow)
    bound := fun row hrow => h.bound row (hkept row hrow)
    inside := ?_ }
  intro i hi
  have hi' := h.inside i hi
  match i with
  | .begun _ => trivial
  | .selected _ none => trivial
  | .selected c (some row) => exact hreads _ _ hi'
  | .checked c row now => exact ⟨hreads _ _ hi'.1, hi'.2⟩

end

theorem inv_step {ttlMinutes : Int} {s s' : State} {e : Event} (h : Inv s)
    (hstep : step ttlMinutes s e = some s') : Inv s' := by
  cases e with
  | createTokenForWorkspace token workspaceId now inserted =>
      simp only [step] at hstep
      split at hstep
      · cases hstep
      next hguard =>
        rw [not_or, Option.not_isSome_iff_eq_none] at hguard
        split at hstep
        · cases hstep
          exact inv_create h hguard.1 hguard.2
        · cases hstep
          exact h
  | consumeToken caller token connectorId =>
      simp only [step] at hstep
      split at hstep
      · cases hstep
      · cases hstep
        refine { h with inside := ?_ }
        rintro i ⟨⟩
        trivial
  | select executed =>
      simp only [step] at hstep
      split at hstep
      next c hc =>
        split at hstep
        · cases hstep
          refine { h with inside := ?_ }
          rintro i ⟨⟩
          cases hget : s.tokens.get c.token with
          | none => trivial
          | some row =>
              have hread := reads_get h hget
              exact ⟨hread.named, hread.made, hread.bound, hread.kept⟩
        · cases hstep
          exact inv_fail h
      · cases hstep
  | check now =>
      simp only [step] at hstep
      split at hstep
      · cases hstep
        exact inv_fail h
      next c row hc =>
        cases hstep
        exact inv_checkRow h (h.inside _ hc)
      · cases hstep
  | update executed =>
      simp only [step] at hstep
      split at hstep
      next c row now hc =>
        obtain ⟨hread, hconsumed, hnow⟩ := h.inside _ hc
        split at hstep
        · cases hstep
          exact inv_update h hread hconsumed hnow
        · cases hstep
          exact inv_fail h
      · cases hstep
  | deleteByConnectorId connectorId =>
      cases hstep
      exact inv_delete h _

/-- A step of a consumption changes no row, unless it is the `UPDATE` of one that succeeds. -/
theorem tokens_of_not_consumed {ttlMinutes : Int} {s s' : State} {e : Event} (he : e.consumes)
    (hstep : step ttlMinutes s e = some s') (hfailed : s'.consumptions = s.consumptions) :
    s'.tokens = s.tokens := by
  cases e with
  | createTokenForWorkspace => cases he
  | consumeToken caller token connectorId =>
      simp only [step] at hstep
      split at hstep <;> cases hstep
      rfl
  | select executed =>
      simp only [step] at hstep
      split at hstep
      · split at hstep <;> cases hstep <;> rfl
      · cases hstep
  | check now =>
      simp only [step] at hstep
      split at hstep
      · cases hstep
        rfl
      · cases hstep
        unfold State.checkRow
        split
        · rfl
        · split
          · split <;> rfl
          · rfl
      · cases hstep
  | update executed =>
      simp only [step] at hstep
      split at hstep
      · split at hstep
        · cases hstep
          exact absurd hfailed (by simp [State.succeed])
        · cases hstep
          rfl
      · cases hstep
  | deleteByConnectorId => cases he

/-- **An enrolment token enrols a single identity.**  In every state reached: a token was
created at most once; all its successful consumptions name the same id; each returned the
workspace the token was created for and took place no later than its `expires_at`; and no
step of a consumption changes the table unless the consumption succeeds with it. -/
theorem token_enrols_one_identity (ttlMinutes : Int) (es : List Event) (s : State)
    (hrun : run (step ttlMinutes) .init es = some s) :
    (s.created.map Created.token).Nodup ∧
    (∀ c ∈ s.consumptions, ∀ d ∈ s.consumptions, c.token = d.token →
      c.connectorId = d.connectorId) ∧
    (∀ c ∈ s.consumptions, ∃ t ∈ s.created, t.token = c.token ∧
      c.workspaceId = t.workspaceId ∧ c.now ≤ t.expiresAt) ∧
    (∀ e s', e.consumes → step ttlMinutes s e = some s' → s'.consumptions = s.consumptions →
      s'.tokens = s.tokens) := by
  have h : Inv s := run_invariant (fun _ _ _ h hstep => inv_step h hstep) inv_init hrun
  refine ⟨h.fresh, h.sameId, h.sound, ?_⟩
  intro e s' he hstep hfailed
  exact tokens_of_not_consumed he hstep hfailed

/-- A connector enrols, enrols again in the last second its token is good for, and another
one is turned away. -/
def reenrolment : List Event :=
  [.createTokenForWorkspace "8f14e45fceea167a" "ws_1" 1735690200 true,
   .consumeToken .enrollConnector "8f14e45fceea167a" "con_1", .select true, .check 1735690210,
   .update true,
   .consumeToken .handleConsumeToken "8f14e45fceea167a" "con_1", .select true, .check 1735693800,
   .consumeToken .enrollTunneler "8f14e45fceea167a" "con_2", .select true, .check 1735690220,
   .deleteByConnectorId "con_1"]

theorem reenrolment_names_one :
    ∃ s, run (step 60) .init reenrolment = some s ∧
      s.consumptions = [⟨"8f14e45fceea167a", "con_1", 1735690210, "ws_1"⟩,
        ⟨"8f14e45fceea167a", "con_1", 1735693800, "ws_1"⟩] ∧
      (∀ c ∈ s.consumptions, ∀ d ∈ s.consumptions, c.token = d.token →
        c.connectorId = d.connectorId) ∧
      ∀ c ∈ s.consumptions, ∃ t ∈ s.created, t.token = c.token ∧
        c.workspaceId = t.workspaceId ∧ c.now ≤ t.expiresAt := by
  refine ⟨_, rfl, rfl, ?_⟩
  obtain ⟨-, hsame, hsound, -⟩ := token_enrols_one_identity 60 reenrolment _ rfl
  exact ⟨hsame, hsound⟩

end ZeroTrust.Controller.EnrolmentTokens
