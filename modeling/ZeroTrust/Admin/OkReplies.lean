/-
# `ZeroTrust.Admin.OkReplies` — what an ok reply promises

Two handlers replace or fill a set of rows in a transaction and do not look at what becomes
of the insertions and of the commit:

    POST /api/groups/{id}/members   BEGIN, DELETE, Prepare, one INSERT a member, COMMIT
    POST /api/access-rules          BEGIN, INSERT, Prepare, one INSERT a group, COMMIT

A row that is there already makes an insertion fail, and the rest of the transaction with it;
so an id that is named twice is enough, and the reply is ok all the same.

    `setsMembers_iff`   the members are those of the list iff no id is named twice and no
                        statement fails for a reason of its own, or they were before
    `createsRule_iff`   likewise for the rule and its groups; there must be no rows left of
                        a former rule with the same id
-/
import ZeroTrust.Admin.ErrorReplies

namespace ZeroTrust.Admin.OkReplies

open Lib
open Controller
open ErrorReplies (Store Handler uiSetMembers uiCreateAccessRule deleteMembersOf)

variable {refuses : Nat → Bool} {s s' : Store}

/-! ## Insertions, one after the other -/

/-- `user_group_members` in the store. -/
def membersOf (s : Store) : Table (id : UserGroupMemberRow → UserGroupMemberRow) :=
  s.tables.db.userGroupMembers

def withMembers (s : Store) (t : Table (id : UserGroupMemberRow → UserGroupMemberRow)) : Store :=
  { s with tables.db.userGroupMembers := t }

/-- `access_rule_groups` in the store. -/
def ruleGroupsOf (s : Store) : Table (id : AccessRuleGroupRow → AccessRuleGroupRow) :=
  s.tables.db.accessRuleGroups

def withRuleGroups (s : Store) (t : Table (id : AccessRuleGroupRow → AccessRuleGroupRow)) :
    Store :=
  { s with tables.db.accessRuleGroups := t }

theorem foldlM_insertGroupMember (rows : List UserGroupMemberRow) :
    (rows.map Store.insertGroupMember).foldlM (fun s statement => statement s) s =
      (rows.foldlM Table.insert (membersOf s)).map (withMembers s) := by
  refine foldlM_part membersOf withMembers (fun _ _ => rfl) (fun _ _ _ => rfl) (fun _ => rfl)
    (fun row s => ?_) rows s
  rw [Store.insertGroupMember, Store.onTables, Option.map_map]
  rfl

theorem insertRuleGroup_eq_some {row : AccessRuleGroupRow} :
    Store.insertRuleGroup row s = some s' ↔
      row ∉ (ruleGroupsOf s).rows ∧ s' = withRuleGroups s ((ruleGroupsOf s).put row) := by
  have hget : s.tables.db.accessRuleGroups.get (id row) = none ↔ row ∉ (ruleGroupsOf s).rows :=
    Table.get_id_eq_none
  simp only [Store.insertRuleGroup, Store.onTables, Table.insert, hget]
  split
  next hfree => exact ⟨fun h => ⟨hfree, (Option.some.inj h).symm⟩, fun h => congrArg some h.2.symm⟩
  next htaken => simp [htaken]

theorem foldlM_insertRuleGroup (rows : List AccessRuleGroupRow) :
    (rows.map Store.insertRuleGroup).foldlM (fun s statement => statement s) s =
      (rows.foldlM Table.insert (ruleGroupsOf s)).map (withRuleGroups s) := by
  refine foldlM_part ruleGroupsOf withRuleGroups (fun _ _ => rfl) (fun _ _ _ => rfl)
    (fun _ => rfl) (fun row s => ?_) rows s
  rw [Store.insertRuleGroup, Store.onTables, Option.map_map]
  rfl

/-- Statements whose errors are dropped, and `COMMIT`. -/
def insertions (statements : List (Store → Option Store)) : ErrorReplies.Transaction :=
  .execAll statements .commit

theorem commits_insertions {n : Nat} {statements : List (Store → Option Store)} :
    (insertions statements).Commits refuses n s s' ↔
      Unrefused refuses n (statements.length + 1) ∧
        statements.foldlM (fun s statement => statement s) s = some s' := by
  rw [insertions, Body.commits_execAll, unrefused_succ]
  simp only [Body.Commits]
  constructor
  · rintro ⟨hran, t, ht, hcommit, rfl⟩
    exact ⟨⟨hran, hcommit⟩, ht⟩
  · rintro ⟨⟨hran, hcommit⟩, ht⟩
    exact ⟨hran, s', ht, hcommit, rfl⟩

theorem noRollback_insertions {statements : List (Store → Option Store)} :
    (insertions statements).NoRollback :=
  Body.noRollback_execAll Body.noRollback_commit _

/-! ## The members of a group -/

/-- If the reply is ok, the group's members are those of the list. -/
def SetsMembers (refuses : Nat → Bool) (s : Store) (groupID : String) (ids : List String) : Prop :=
  ∀ s', (uiSetMembers groupID (some ids)).run refuses 0 s = (none, s') →
    ∀ u, ⟨u, groupID⟩ ∈ (membersOf s').rows ↔ u ∈ ids

/-- Nothing is refused after the first statement, and nothing is named twice. -/
def GoesThrough (refuses : Nat → Bool) (n : Nat) (ids : List String) : Prop :=
  Unrefused refuses n (ids.length + 2) ∧ ids.Nodup

/-- The group without its members. -/
def emptied (s : Store) (groupID : String) : Store :=
  withMembers s ((membersOf s).filter fun gm => gm.groupId ≠ groupID)

/-- `Prepare` and the insertions. -/
def insertMembers (groupID : String) (ids : List String) : List (Store → Option Store) :=
  Store.elsewhere :: ids.map fun id => Store.insertGroupMember ⟨id, groupID⟩

def membersOfList (groupID : String) (ids : List String) : List UserGroupMemberRow :=
  ids.map fun id => ⟨id, groupID⟩

/-- The store with the members of the list in the group. -/
def withList (s : Store) (groupID : String) (ids : List String) : Store :=
  withMembers s ((membersOfList groupID ids).foldl Table.put (membersOf (emptied s groupID)))

section Members

variable {groupID : String} {ids : List String}

theorem nodup_membersOfList : ((membersOfList groupID ids).map id).Nodup ↔ ids.Nodup := by
  have hinj : Function.Injective fun id : String => UserGroupMemberRow.mk id groupID :=
    fun a b h => congrArg UserGroupMemberRow.userId h
  rw [List.map_id, membersOfList, List.nodup_map_iff hinj]

theorem notMem_emptied {u : String} :
    UserGroupMemberRow.mk u groupID ∉ (membersOf (emptied s groupID)).rows := by
  intro hmem
  simpa using (List.mem_filter.mp hmem).2

theorem free_emptied : ∀ r ∈ membersOfList groupID ids,
    (membersOf (emptied s groupID)).get (id r) = none := by
  intro r hr
  obtain ⟨u, -, rfl⟩ := List.mem_map.mp hr
  refine Table.get_eq_none.mpr fun x hx heq => ?_
  have hx' : UserGroupMemberRow.mk u groupID ∈ (membersOf (emptied s groupID)).rows := by
    rwa [← show x = UserGroupMemberRow.mk u groupID from heq]
  exact notMem_emptied hx'

theorem mem_withList (h : ids.Nodup) {u : String} :
    ⟨u, groupID⟩ ∈ (membersOf (withList s groupID ids)).rows ↔ u ∈ ids := by
  have hrows : membersOf (withList s groupID ids) =
      (membersOfList groupID ids).foldl Table.put (membersOf (emptied s groupID)) := rfl
  rw [hrows, Table.mem_rows_foldl_put_of_free (nodup_membersOfList.mpr h) free_emptied,
    or_iff_left notMem_emptied]
  simp [membersOfList]

theorem commits_members {n : Nat} :
    (insertions (insertMembers groupID ids)).Commits refuses n (emptied s groupID) s' ↔
      GoesThrough refuses n ids ∧ s' = withList s groupID ids := by
  have hfold : (insertMembers groupID ids).foldlM (fun s statement => statement s)
      (emptied s groupID) =
        ((membersOfList groupID ids).foldlM Table.insert (membersOf (emptied s groupID))).map
          (withMembers (emptied s groupID)) := by
    rw [← foldlM_insertGroupMember, membersOfList, List.map_map]
    rfl
  have hlength : (insertMembers groupID ids).length = ids.length + 1 := by simp [insertMembers]
  rw [commits_insertions, hfold, hlength, Option.map_eq_some_iff, GoesThrough, and_assoc]
  refine and_congr_right fun _ => ?_
  constructor
  · rintro ⟨t, ht, rfl⟩
    obtain ⟨hnodup, -, rfl⟩ := Table.foldlM_insert.mp ht
    exact ⟨nodup_membersOfList.mp hnodup, rfl⟩
  · rintro ⟨hnodup, rfl⟩
    exact ⟨_, Table.foldlM_insert.mpr ⟨nodup_membersOfList.mpr hnodup, free_emptied, rfl⟩, rfl⟩

theorem run_uiSetMembers :
    (uiSetMembers groupID (some ids)).run refuses 0 s = (none, s') ↔
      groupID ≠ "" ∧ refuses 0 = false ∧ refuses 1 = false ∧
        (GoesThrough refuses 2 ids ∧ s' = withList s groupID ids ∨
          ¬ GoesThrough refuses 2 ids ∧ s' = s) := by
  rw [uiSetMembers, ErrorReplies.required]
  split
  next hempty => simp [ErrorReplies.fail, Script.run, hempty]
  next hne =>
    have hdelete : deleteMembersOf groupID s = some (emptied s groupID) := rfl
    have hsettles : ∀ o, (insertions (insertMembers groupID ids)).Settles refuses 2
        (emptied s groupID) o ↔ GoesThrough refuses 2 ids ∧ o = some (withList s groupID ids) ∨
          ¬ GoesThrough refuses 2 ids ∧ o = none :=
      fun _ => Body.settles_iff noRollback_insertions fun _ => commits_members
    simp only [ErrorReplies.ok]
    rw [Script.run_transaction, Body.settles_checked, Body.settles_checked]
    simp only [hdelete, Option.some.injEq, exists_eq_left', ← insertions.eq_1,
      ← insertMembers.eq_1, hsettles, reduceCtorEq, and_false, or_false, and_true, false_or]
    tauto

/-- Replacing the members takes effect iff nothing after the deletion fails, or there was
nothing to change; or the reply is an error. -/
theorem setsMembers_iff :
    SetsMembers refuses s groupID ids ↔
      groupID = "" ∨ refuses 0 = true ∨ refuses 1 = true ∨ GoesThrough refuses 2 ids ∨
        ∀ u, ⟨u, groupID⟩ ∈ (membersOf s).rows ↔ u ∈ ids := by
  unfold SetsMembers
  simp only [run_uiSetMembers]
  constructor
  · intro h
    by_contra hnot
    simp only [not_or, Bool.not_eq_true] at hnot
    obtain ⟨hne, hbegin, hdelete, hthrough, hbefore⟩ := hnot
    exact hbefore (h s ⟨hne, hbegin, hdelete, Or.inr ⟨hthrough, rfl⟩⟩)
  · rintro h s' ⟨hne, hbegin, hdelete, ⟨hthrough, rfl⟩ | ⟨hthrough, rfl⟩⟩ u
    · exact mem_withList hthrough.2
    · rw [hbegin, hdelete] at h
      rcases h with h | h | h | h | h
      · exact absurd h hne
      · cases h
      · cases h
      · exact absurd h hthrough
      · exact h u

end Members

/-! ## A rule and its groups -/

/-- The store with one more access rule. -/
def withRule (s : Store) (row : AccessRuleRow) : Store :=
  { s with tables.db.accessRules := s.tables.db.accessRules.put row }

theorem insertRule_eq_some {row : AccessRuleRow} :
    Store.insertRule row s = some s' ↔
      s.tables.db.accessRules.get row.id = none ∧ s' = withRule s row := by
  simp only [Store.insertRule, Store.onTables, Table.insert]
  split
  next hfree => simp [hfree, withRule, eq_comm]
  next htaken => simp [htaken]

/-- If the reply is ok, the rule is there and its groups are those of the list. -/
def CreatesRule (errorText : String) (refuses : Nat → Bool) (s : Store)
    (ruleID resourceID name : String) (ids : List String) (enabled : Bool) : Prop :=
  ∀ s', (uiCreateAccessRule errorText ruleID resourceID name (some ids) enabled).run refuses 0 s =
      (none, s') →
    ⟨ruleID, resourceID, if enabled then 1 else 0⟩ ∈ s'.tables.db.accessRules.rows ∧
    ∀ g, ⟨ruleID, g⟩ ∈ (ruleGroupsOf s').rows ↔ g ∈ ids

section Rule

variable {ruleID resourceID name errorText : String} {ids : List String} {enabled : Bool}

def groupsOfList (ruleID : String) (ids : List String) : List AccessRuleGroupRow :=
  ids.map fun gid => ⟨ruleID, gid⟩

/-- The store with the groups of the list in the rule. -/
def withGroups (s : Store) (ruleID : String) (ids : List String) : Store :=
  withRuleGroups s ((groupsOfList ruleID ids).foldl Table.put (ruleGroupsOf s))

/-- Nothing is refused after `Prepare`, nothing is named twice, and no row is in the way. -/
def RuleGoesThrough (refuses : Nat → Bool) (s : Store) (ruleID : String) (ids : List String) :
    Prop :=
  Unrefused refuses 3 (ids.length + 1) ∧ ids.Nodup ∧
    ∀ g ∈ ids, ⟨ruleID, g⟩ ∉ (ruleGroupsOf s).rows

theorem nodup_groupsOfList : ((groupsOfList ruleID ids).map id).Nodup ↔ ids.Nodup := by
  have hinj : Function.Injective fun gid : String => AccessRuleGroupRow.mk ruleID gid :=
    fun a b h => congrArg AccessRuleGroupRow.groupId h
  rw [List.map_id, groupsOfList, List.nodup_map_iff hinj]

theorem free_groupsOfList :
    (∀ r ∈ groupsOfList ruleID ids, (ruleGroupsOf s).get (id r) = none) ↔
      ∀ g ∈ ids, ⟨ruleID, g⟩ ∉ (ruleGroupsOf s).rows := by
  simp only [groupsOfList, List.forall_mem_map, Table.get_id_eq_none]

theorem mem_withGroups (hnodup : ids.Nodup)
    (hfree : ∀ g ∈ ids, ⟨ruleID, g⟩ ∉ (ruleGroupsOf s).rows) {g : String} :
    ⟨ruleID, g⟩ ∈ (ruleGroupsOf (withGroups s ruleID ids)).rows ↔
      g ∈ ids ∨ ⟨ruleID, g⟩ ∈ (ruleGroupsOf s).rows := by
  have hrows : ruleGroupsOf (withGroups s ruleID ids) =
      (groupsOfList ruleID ids).foldl Table.put (ruleGroupsOf s) := rfl
  rw [hrows, Table.mem_rows_foldl_put_of_free (nodup_groupsOfList.mpr hnodup)
    (free_groupsOfList.mpr hfree)]
  simp [groupsOfList]

theorem commits_groups :
    (insertions (ids.map fun gid => Store.insertRuleGroup ⟨ruleID, gid⟩)).Commits refuses 3 s s' ↔
      RuleGoesThrough refuses s ruleID ids ∧ s' = withGroups s ruleID ids := by
  have hfold : (ids.map fun gid => Store.insertRuleGroup ⟨ruleID, gid⟩).foldlM
      (fun s statement => statement s) s =
        ((groupsOfList ruleID ids).foldlM Table.insert (ruleGroupsOf s)).map
          (withRuleGroups s) := by
    rw [← foldlM_insertRuleGroup, groupsOfList, List.map_map]
    rfl
  rw [commits_insertions, hfold, List.length_map, Option.map_eq_some_iff, RuleGoesThrough,
    and_assoc]
  refine and_congr_right fun _ => ?_
  constructor
  · rintro ⟨t, ht, rfl⟩
    obtain ⟨hnodup, hfree, rfl⟩ := Table.foldlM_insert.mp ht
    exact ⟨⟨nodup_groupsOfList.mp hnodup, free_groupsOfList.mp hfree⟩, rfl⟩
  · rintro ⟨⟨hnodup, hfree⟩, rfl⟩
    refine ⟨_, Table.foldlM_insert.mpr ⟨?_, ?_, rfl⟩, rfl⟩
    · exact nodup_groupsOfList.mpr hnodup
    · exact free_groupsOfList.mpr hfree

/-- Nothing up to `Prepare` makes the reply an error. -/
def Begins (refuses : Nat → Bool) (s : Store) (ruleID resourceID name : String) : Prop :=
  resourceID ≠ "" ∧ name ≠ "" ∧ refuses 0 = false ∧ refuses 1 = false ∧
    s.tables.db.accessRules.get ruleID = none ∧ refuses 2 = false

theorem run_uiCreateAccessRule :
    (uiCreateAccessRule errorText ruleID resourceID name (some ids) enabled).run refuses 0 s =
        (none, s') ↔
      Begins refuses s ruleID resourceID name ∧
        (RuleGoesThrough refuses s ruleID ids ∧
            s' = withGroups (withRule s ⟨ruleID, resourceID, if enabled then 1 else 0⟩) ruleID ids ∨
          ¬ RuleGoesThrough refuses s ruleID ids ∧ s' = s) := by
  rw [uiCreateAccessRule, Begins]
  simp only [ErrorReplies.required]
  split
  next hempty =>
    rcases hempty with hempty | hempty <;> simp [ErrorReplies.fail, Script.run, hempty]
  next hfull =>
    rw [not_or] at hfull
    have hsame : ∀ row, RuleGoesThrough refuses (withRule s row) ruleID ids ↔
        RuleGoesThrough refuses s ruleID ids := fun _ => Iff.rfl
    have hsettles : ∀ row o,
        (insertions (ids.map fun gid => Store.insertRuleGroup ⟨ruleID, gid⟩)).Settles refuses 3
          (withRule s row) o ↔
            RuleGoesThrough refuses s ruleID ids ∧
                o = some (withGroups (withRule s row) ruleID ids) ∨
              ¬ RuleGoesThrough refuses s ruleID ids ∧ o = none := by
      intro row o
      rw [← hsame row]
      exact Body.settles_iff noRollback_insertions fun _ => commits_groups
    simp only [ErrorReplies.ok]
    rw [Script.run_transaction, Body.settles_checked, Body.settles_checked]
    simp only [insertRule_eq_some, Body.settles_checked, Store.elsewhere, Option.some.injEq,
      exists_eq_left', ← insertions.eq_1, and_assoc, exists_and_left, exists_eq_left, hsettles,
      reduceCtorEq, and_false, or_false, and_true, false_or]
    tauto

/-- A rule is there with its groups iff nothing fails and no row of a rule with the same id is
left over; or the reply is an error. -/
theorem createsRule_iff :
    CreatesRule errorText refuses s ruleID resourceID name ids enabled ↔
      ¬ Begins refuses s ruleID resourceID name ∨
        Unrefused refuses 3 (ids.length + 1) ∧ ids.Nodup ∧
          ∀ g, ⟨ruleID, g⟩ ∉ (ruleGroupsOf s).rows := by
  unfold CreatesRule
  simp only [run_uiCreateAccessRule]
  constructor
  · intro h
    by_cases hbegins : Begins refuses s ruleID resourceID name
    · right
      by_cases hthrough : RuleGoesThrough refuses s ruleID ids
      · obtain ⟨-, hgroups⟩ := h _ ⟨hbegins, Or.inl ⟨hthrough, rfl⟩⟩
        obtain ⟨hran, hnodup, hfree⟩ := hthrough
        refine ⟨hran, hnodup, fun g hold => ?_⟩
        -- a row that was there before is there now, so it is one of the list
        have hmem := (hgroups g).mp ((mem_withGroups hnodup hfree).mpr (Or.inr hold))
        exact hfree g hmem hold
      · obtain ⟨hrow, -⟩ := h s ⟨hbegins, Or.inr ⟨hthrough, rfl⟩⟩
        obtain ⟨-, -, -, -, hfree, -⟩ := hbegins
        exact absurd rfl (Table.get_eq_none.mp hfree _ hrow)
    · exact Or.inl hbegins
  · rintro (h | ⟨hran, hnodup, hnone⟩) s' ⟨hbegins, hrest⟩
    · exact absurd hbegins h
    · have hthrough : RuleGoesThrough refuses s ruleID ids := ⟨hran, hnodup, fun g _ => hnone g⟩
      rcases hrest with ⟨-, rfl⟩ | ⟨hnot, -⟩
      · refine ⟨Table.mem_rows_put.mpr (Or.inl rfl), fun g => ?_⟩
        have hfree := hthrough.2.2
        exact (mem_withGroups (s := withRule s _) hnodup hfree).trans (or_iff_left (hnone g))
      · exact absurd hthrough hnot

end Rule

/-- An ok reply means what it says iff nothing that is dropped has failed. -/
theorem ok_reply_takes_effect_iff (errorText : String) (refuses : Nat → Bool) (s : Store)
    (groupID ruleID resourceID name : String) (ids : List String) (enabled : Bool) :
    (SetsMembers refuses s groupID ids ↔
      groupID = "" ∨ refuses 0 = true ∨ refuses 1 = true ∨ GoesThrough refuses 2 ids ∨
        ∀ u, ⟨u, groupID⟩ ∈ (membersOf s).rows ↔ u ∈ ids) ∧
    (CreatesRule errorText refuses s ruleID resourceID name ids enabled ↔
      ¬ Begins refuses s ruleID resourceID name ∨
        Unrefused refuses 3 (ids.length + 1) ∧ ids.Nodup ∧
          ∀ g, ⟨ruleID, g⟩ ∉ (ruleGroupsOf s).rows) :=
  ⟨setsMembers_iff, createsRule_iff⟩

/-- A user, a group without members and a resource without rules. -/
def newcomers : Store where
  tables :=
    { db :=
        { connectors := ∅, remoteNetworkConnectors := ∅, accessRules := ∅
          accessRuleGroups := ∅, userGroupMembers := ∅, connectorPolicyVersions := ∅
          users := Table.single ⟨"usr_1", "active", some "identity-1"⟩
          resources := Table.single ⟨"res_1", "dns", "wiki.internal", "TCP", none, none, "net_1",
            "unprotected"⟩ }
      userGroups := Table.single ⟨"grp_1", "Engineering", ""⟩, remoteNetworks := ∅ }
  authorizations := ∅
  workspaces := ∅
  members := ∅
  invites := ∅

/-- A user who is named twice is not added, and a rule whose group is named twice is not there. -/
theorem named_twice :
    ¬ SetsMembers (fun _ => false) newcomers "grp_1" ["usr_1", "usr_1"] ∧
      ¬ CreatesRule "" (fun _ => false) newcomers "rule_1" "res_1" "rule" ["grp_1", "grp_1"]
        true := by
  constructor
  · intro h
    have hmem := (h newcomers rfl "usr_1").mpr (by decide)
    exact absurd hmem (by decide)
  · intro h
    have hrow := (h newcomers rfl).1
    exact absurd hrow (by decide)

end ZeroTrust.Admin.OkReplies
