import Mathlib.Data.List.Basic
import Mathlib.Tactic.Lemma
import TokenAuthority.Proofs.GrantEffect
import TokenAuthority.Proofs.ScopeGrammar
import TokenAuthority.Proofs.StoreCalls

/-!
# Users as they are loaded

A user is loaded with the record that was stored last, with the groups that it was added to, and
with the attributes that were set last for it and for them. What else is asked of the store
meanwhile has no part in it.

## Main definitions

* `TokenAuthority.DirectoryUpdate` — a change of the users, groups and attributes.
* `TokenAuthority.StoreCall.last` — what was stored or set last;
  `TokenAuthority.StoreCall.storedGroup` — a group as it was stored last.
* `TokenAuthority.StoreCall.joinedGroups` — the groups that a user was added to.
* `TokenAuthority.Store.SameDirectory` — the users, groups and attributes are the same.
* `TokenAuthority.Store.JoinedStored` — no user is in a group that is not there.

## Main results

* `TokenAuthority.StoreCall.directory_cases` — only five calls change users, groups and attributes.
* `TokenAuthority.StoreCall.observed_after` — what is observed after calls is what was stored last.
* `TokenAuthority.StoreCall.groupsOf_after`, `TokenAuthority.StoreCall.joinedStored_after` — the
  groups of a user, which are all there.
* `TokenAuthority.StoreCall.hydration` — all of this for a user that is loaded.
-/

set_option autoImplicit false

namespace TokenAuthority

/-! ## Changes of the directory -/

/-- The user without groups and attributes. -/
def User.bare (u : User) : User := { u with groups := [], attributes := [] }

/-- The group without attributes. -/
def Group.bare (g : Group) : Group := { g with attributes := [] }

/-- A change of the users, groups and attributes. -/
inductive DirectoryUpdate where
  | insertUser (user : User)
  | insertGroup (group : Group)
  | addUserToGroup (user group : Int)
  | setUserAttributes (user : Int) (attributes : List Attribute)
  | setGroupAttributes (group : Int) (attributes : List Attribute)

namespace DirectoryUpdate

/-- The change as an update of the records. -/
def asRecordUpdate : DirectoryUpdate → RecordUpdate
  | insertUser user => .insertUser user
  | insertGroup group => .insertGroup group
  | addUserToGroup user group => .addUserToGroup user group
  | setUserAttributes user attributes => .setUserAttributes user attributes
  | setGroupAttributes group attributes => .setGroupAttributes group attributes

/-- The change as a call. -/
def call (now : Instant) (u : DirectoryUpdate) : StoreCall := .serve now (.update u.asRecordUpdate)

/-- The user that is stored under the number. -/
def userUnder (id : Int) : DirectoryUpdate → Option User
  | insertUser user => if user.id = id then some user else none
  | _ => none

/-- The group that is stored under the number. -/
def groupUnder (id : Int) : DirectoryUpdate → Option Group
  | insertGroup group => if group.id = id then some group else none
  | _ => none

/-- The attributes that are set for the user of the number. -/
def userAttributesOf (id : Int) : DirectoryUpdate → Option (List Attribute)
  | setUserAttributes user attributes => if user = id then some attributes else none
  | _ => none

/-- The attributes that are set for the group of the number. -/
def groupAttributesOf (id : Int) : DirectoryUpdate → Option (List Attribute)
  | setGroupAttributes group attributes => if group = id then some attributes else none
  | _ => none

end DirectoryUpdate

namespace StoreCall

/-- The change of the directory that a call asks for. -/
def directoryUpdate? : StoreCall → Option DirectoryUpdate
  | serve _ (.update (.insertUser user)) => some (.insertUser user)
  | serve _ (.update (.insertGroup group)) => some (.insertGroup group)
  | serve _ (.update (.addUserToGroup user group)) => some (.addUserToGroup user group)
  | serve _ (.update (.setUserAttributes user attributes)) =>
    some (.setUserAttributes user attributes)
  | serve _ (.update (.setGroupAttributes group attributes)) =>
    some (.setGroupAttributes group attributes)
  | _ => none

/-- The call with a record that carries no groups and attributes. -/
def bare : StoreCall → StoreCall
  | serve now (.update (.insertUser user)) => serve now (.update (.insertUser user.bare))
  | serve now (.update (.insertGroup group)) => serve now (.update (.insertGroup group.bare))
  | call => call

/-- What is read off the last change of the directory off which something is read. -/
def last {α : Type} (f : DirectoryUpdate → Option α) (calls : List StoreCall) : Option α :=
  (calls.filterMap directoryUpdate?).reverse.findSome? f

end StoreCall

/-- The group that the call has added the user to. -/
def StoreEvent.joined (user : Int) (e : StoreEvent) : Option Int :=
  match e.call.directoryUpdate?, e.answer with
  | some (.addUserToGroup member group), .served (.ok _) =>
    if member = user then some group else none
  | _, _ => none

/-- The groups that calls add a user to, in the order in which they first do. -/
def StoreCall.joinedGroups (user : Int) (calls : List StoreCall) : List Int :=
  ((history {} calls).filterMap (StoreEvent.joined user)).eraseDups

/-- The group of a number as calls have stored it, with the attributes that they have set for it. -/
def StoreCall.storedGroup (calls : List StoreCall) (id : Int) : Option Group :=
  (last (DirectoryUpdate.groupUnder id) calls).map fun group =>
    { group with attributes := (last (DirectoryUpdate.groupAttributesOf id) calls).getD [] }

/-! ## Calls that leave the directory alone -/

namespace Store

/-- Users, groups, memberships and attributes are the same. -/
structure SameDirectory (s t : Store) : Prop where
  users : t.users = s.users
  groups : t.groups = s.groups
  memberships : t.memberships = s.memberships
  userAttributes : t.userAttributes = s.userAttributes
  groupAttributes : t.groupAttributes = s.groupAttributes

/-- All groups that users were added to are there. -/
def JoinedStored (s : Store) : Prop :=
  ∀ user, ∀ group ∈ s.groupsOf user, s.groups.has group = true

/-- A store has the directory that it has. -/
lemma SameDirectory.refl (s : Store) : s.SameDirectory s := ⟨rfl, rfl, rfl, rfl, rfl⟩

/-- Storing a row leaves the directory alone. -/
lemma sameDirectory_createRow (s : Store) (row : RefreshToken) :
    s.SameDirectory (s.createRow row).2 := by
  rw [createRow]
  split
  · exact .refl s
  · dsimp only
    split <;> exact ⟨rfl, rfl, rfl, rfl, rfl⟩

/-- The check of a row that is going to be redeemed leaves the directory alone. -/
lemma sameDirectory_verifyTip (s : Store) (stored : RefreshToken) (presented : String) :
    s.SameDirectory (s.verifyTip stored presented).2 := by
  rw [verifyTip]
  split_ifs <;> exact ⟨rfl, rfl, rfl, rfl, rfl⟩

/-- Operations on rows leave the directory alone. -/
lemma sameDirectory_rowOperation (s : Store) (op : RowOperation) :
    s.SameDirectory (op.run s).2 := by
  cases op with
  | create row => exact s.sameDirectory_createRow row
  | _ => exact ⟨rfl, rfl, rfl, rfl, rfl⟩

/-- A plan that is carried out leaves the directory alone. -/
lemma sameDirectory_commit (s : Store) (plan : GrantPlan) (replaced : Option RefreshToken) :
    s.SameDirectory (plan.commit s replaced).2 := by
  have hcreate := s.sameDirectory_createRow plan.row
  rw [GrantPlan.commit]
  split
  case h_1 e t ht => exact (congrArg Prod.snd ht) ▸ hcreate
  case h_2 row t ht =>
    rw [ht] at hcreate
    cases replaced with
    | none => exact hcreate
    | some old => exact ⟨hcreate.1, hcreate.2, hcreate.3, hcreate.4, hcreate.5⟩

/-- An exchange leaves the directory alone. -/
lemma sameDirectory_exchangeCode (s : Store) (settings : Settings) (now : Instant) (ids : TokenIds)
    (code : Code) : s.SameDirectory (exchangeCode s settings now ids code).2 := by
  rw [exchangeCode]
  split
  · exact .refl s
  · exact s.sameDirectory_commit _ none

/-- A refresh leaves the directory alone. -/
lemma sameDirectory_refresh (s : Store) (settings : Settings) (now : Instant) (ids : TokenIds)
    (request : RefreshRequest) : s.SameDirectory (refresh s settings now ids request).2 := by
  have htip := s.sameDirectory_verifyTip request.stored request.presented
  rw [refresh]
  split
  case h_1 e t ht => exact (congrArg Prod.snd ht) ▸ htip
  case h_2 t ht =>
    obtain rfl := eq_of_verifyTip ht
    split
    · exact .refl _
    · exact sameDirectory_commit _ _ _

end Store

namespace StoreCall

/-- A call asks for one of five changes of the directory, or it leaves the directory alone. -/
theorem directory_cases (s : Store) (call : StoreCall) :
    (∃ now u, call = DirectoryUpdate.call now u ∧ call.directoryUpdate? = some u) ∨
      (call.directoryUpdate? = none ∧ s.SameDirectory (call.run s).2) := by
  cases call with
  | look lookup => exact .inr ⟨rfl, .refl s⟩
  | rows op => exact .inr ⟨rfl, s.sameDirectory_rowOperation op⟩
  | verifyTip stored presented => exact .inr ⟨rfl, s.sameDirectory_verifyTip stored presented⟩
  | serve now op =>
    cases op with
    | exchange settings ids code =>
      exact .inr ⟨rfl, s.sameDirectory_exchangeCode settings now ids code⟩
    | refresh settings ids request =>
      exact .inr ⟨rfl, s.sameDirectory_refresh settings now ids request⟩
    | update u =>
      cases u with
      | insertUser user => exact .inl ⟨now, .insertUser user, rfl, rfl⟩
      | insertGroup group => exact .inl ⟨now, .insertGroup group, rfl, rfl⟩
      | addUserToGroup user group => exact .inl ⟨now, .addUserToGroup user group, rfl, rfl⟩
      | setUserAttributes user attributes =>
        exact .inl ⟨now, .setUserAttributes user attributes, rfl, rfl⟩
      | setGroupAttributes group attributes =>
        exact .inl ⟨now, .setGroupAttributes group attributes, rfl, rfl⟩
      | createCode code =>
        refine .inr ⟨rfl, ?_⟩
        change s.SameDirectory (s.createCode code).2
        rcases createCode_cases s code with ⟨-, h⟩ | ⟨-, h⟩ <;>
          exact h ▸ ⟨rfl, rfl, rfl, rfl, rfl⟩
      | markCodeUsed value =>
        refine .inr ⟨rfl, ?_⟩
        simp only [run, Operation.run, RecordUpdate.run, Store.markCodeUsed]
        cases s.code? value with
        | none => exact .refl s
        | some c =>
          dsimp only
          split_ifs <;> exact ⟨rfl, rfl, rfl, rfl, rfl⟩
      | touchSession identifier t =>
        refine .inr ⟨rfl, ?_⟩
        simp only [run, Operation.run, RecordUpdate.run, Store.touchSession?]
        split_ifs <;> exact ⟨rfl, rfl, rfl, rfl, rfl⟩
      | _ => exact .inr ⟨rfl, ⟨rfl, rfl, rfl, rfl, rfl⟩⟩
    | _ => exact .inr ⟨rfl, ⟨rfl, rfl, rfl, rfl, rfl⟩⟩

/-! ## What was stored last -/

/-- What is read off later calls comes before what is read off the first one. -/
lemma last_cons {α : Type} (f : DirectoryUpdate → Option α) (call : StoreCall)
    (calls : List StoreCall) :
    last f (call :: calls) = (last f calls).or (call.directoryUpdate?.bind f) := by
  cases h : call.directoryUpdate? with
  | none => simp [last, h]
  | some u => simp [last, h, List.findSome?_append]

/-- What is observed of a store after calls is what is read off the last change off which something
is read, if this is so for every single change: it makes what is observed what is read off it, or it
leaves it as it was.

**Proof sketch.** Induction on the calls. What is read off the first one is observed before the
others, and so it is what remains if nothing is read off them. -/
theorem observed_after {α : Type} {observe : Store → Option α} {f : DirectoryUpdate → Option α}
    (hsame : ∀ s t, s.SameDirectory t → observe t = observe s)
    (hupdate : ∀ s (u : DirectoryUpdate),
      observe (u.asRecordUpdate.run s).2 = (f u).or (observe s))
    (s : Store) (calls : List StoreCall) :
    observe (after s calls) = (last f calls).or (observe s) := by
  induction calls generalizing s with
  | nil => rfl
  | cons call calls ih =>
    have hcall : observe (call.run s).2 = (call.directoryUpdate?.bind f).or (observe s) := by
      rcases call.directory_cases s with ⟨now, u, rfl, hu⟩ | ⟨hnone, hdirectory⟩
      · rw [hu]
        exact hupdate s u
      · rw [hnone, hsame s _ hdirectory]
        rfl
    rw [after, ih, hcall, last_cons, Option.or_assoc]

/-- The groups after one more is added, unless it is one of them. -/
def withGroup (groups : List Int) (group : Int) : List Int :=
  if groups.contains group then groups else groups ++ [group]

/-- A user is added to a group if both are there; otherwise nothing changes. -/
lemma run_addUserToGroup (s : Store) (user group : Int) :
    (RecordUpdate.addUserToGroup user group).run s =
      if s.users.has user = false then (.error (.userMissing user), s)
      else if s.groups.has group = false then (.error (.groupMissing group), s)
      else (.ok .done, { s with
        memberships := s.memberships.put ⟨user, withGroup (s.groupsOf user) group⟩ }) := by
  rw [RecordUpdate.run, Store.addUserToGroup]
  cases s.users.has user with
  | false => rfl
  | true => cases s.groups.has group <;> rfl

/-- Adding a member changes no more than the memberships. -/
lemma run_addUserToGroup_snd (s : Store) (user group : Int) :
    ∃ memberships, ((RecordUpdate.addUserToGroup user group).run s).2 = { s with memberships } := by
  rw [run_addUserToGroup]
  split_ifs <;> exact ⟨_, rfl⟩

/-- What a change of the directory does to the user of a number. -/
lemma user?_run (s : Store) (u : DirectoryUpdate) (id : Int) :
    (u.asRecordUpdate.run s).2.users.find? id =
      ((u.userUnder id).map User.bare).or (s.users.find? id) := by
  cases u with
  | insertUser user =>
    refine (Table.find?_put s.users user.bare id).trans ?_
    by_cases h : user.id = id <;> simp [DirectoryUpdate.userUnder, User.bare, h]
  | addUserToGroup user group =>
    obtain ⟨memberships, h⟩ := run_addUserToGroup_snd s user group
    exact congrArg (·.users.find? id) h
  | _ => rfl

/-- What a change of the directory does to the group of a number. -/
lemma group?_run (s : Store) (u : DirectoryUpdate) (id : Int) :
    (u.asRecordUpdate.run s).2.groups.find? id =
      ((u.groupUnder id).map Group.bare).or (s.groups.find? id) := by
  cases u with
  | insertGroup group =>
    refine (Table.find?_put s.groups group.bare id).trans ?_
    by_cases h : group.id = id <;> simp [DirectoryUpdate.groupUnder, Group.bare, h]
  | addUserToGroup user group =>
    obtain ⟨memberships, h⟩ := run_addUserToGroup_snd s user group
    exact congrArg (·.groups.find? id) h
  | _ => rfl

/-- What a change of the directory does to the attributes of a user. -/
lemma userAttributes_run (s : Store) (u : DirectoryUpdate) (id : Int) :
    ((u.asRecordUpdate.run s).2.userAttributes.find? id).map (·.attributes) =
      (u.userAttributesOf id).or ((s.userAttributes.find? id).map (·.attributes)) := by
  cases u with
  | setUserAttributes user attributes =>
    refine (congrArg _ (Table.find?_put s.userAttributes ⟨user, attributes⟩ id)).trans ?_
    by_cases h : user = id <;> simp [DirectoryUpdate.userAttributesOf, h]
  | addUserToGroup user group =>
    obtain ⟨memberships, h⟩ := run_addUserToGroup_snd s user group
    exact congrArg (fun t : Store => (t.userAttributes.find? id).map (·.attributes)) h
  | _ => rfl

/-- What a change of the directory does to the attributes of a group. -/
lemma groupAttributes_run (s : Store) (u : DirectoryUpdate) (id : Int) :
    ((u.asRecordUpdate.run s).2.groupAttributes.find? id).map (·.attributes) =
      (u.groupAttributesOf id).or ((s.groupAttributes.find? id).map (·.attributes)) := by
  cases u with
  | setGroupAttributes group attributes =>
    refine (congrArg _ (Table.find?_put s.groupAttributes ⟨group, attributes⟩ id)).trans ?_
    by_cases h : group = id <;> simp [DirectoryUpdate.groupAttributesOf, h]
  | addUserToGroup user group =>
    obtain ⟨memberships, h⟩ := run_addUserToGroup_snd s user group
    exact congrArg (fun t : Store => (t.groupAttributes.find? id).map (·.attributes)) h
  | _ => rfl

/-- What is read off a change may be mapped before or behind. -/
lemma last_map {α β : Type} (f : DirectoryUpdate → Option α) (g : α → β) (calls : List StoreCall) :
    last (fun u => (f u).map g) calls = (last f calls).map g :=
  List.map_findSome?.symm

/-- Where nothing was observed at the start, it is what is read off the last change. -/
lemma observed_start {α : Type} {f : DirectoryUpdate → Option α} (observe : Store → Option α)
    (hsame : ∀ s t, s.SameDirectory t → observe t = observe s)
    (hupdate : ∀ s (u : DirectoryUpdate),
      observe (u.asRecordUpdate.run s).2 = (f u).or (observe s))
    (hstart : observe {} = none) (calls : List StoreCall) :
    observe (after {} calls) = last f calls := by
  rw [observed_after hsame hupdate, hstart, Option.or_none]

/-- The user of a number is that which was stored last. -/
lemma user?_after (calls : List StoreCall) (id : Int) :
    (after {} calls).user? id = (last (DirectoryUpdate.userUnder id) calls).map User.bare :=
  (observed_start (fun s => s.users.find? id) (fun s t h => by rw [h.users])
    (fun s u => user?_run s u id) rfl calls).trans (last_map _ _ _)

/-- The group of a number is that which was stored last. -/
lemma group?_after (calls : List StoreCall) (id : Int) :
    (after {} calls).groups.find? id =
      (last (DirectoryUpdate.groupUnder id) calls).map Group.bare :=
  (observed_start (fun s => s.groups.find? id) (fun s t h => by rw [h.groups])
    (fun s u => group?_run s u id) rfl calls).trans (last_map _ _ _)

/-- The attributes of a user are those that were set last. -/
lemma userAttributes_after (calls : List StoreCall) (id : Int) :
    Store.attributesIn (after {} calls).userAttributes id =
      (last (DirectoryUpdate.userAttributesOf id) calls).getD [] :=
  congrArg (·.getD []) <| observed_start
    (fun s => (s.userAttributes.find? id).map (·.attributes))
    (fun s t h => by rw [h.userAttributes]) (fun s u => userAttributes_run s u id) rfl calls

/-- The attributes of a group are those that were set last. -/
lemma groupAttributes_after (calls : List StoreCall) (id : Int) :
    Store.attributesIn (after {} calls).groupAttributes id =
      (last (DirectoryUpdate.groupAttributesOf id) calls).getD [] :=
  congrArg (·.getD []) <| observed_start
    (fun s => (s.groupAttributes.find? id).map (·.attributes))
    (fun s t h => by rw [h.groupAttributes]) (fun s u => groupAttributes_run s u id) rfl calls

/-! ## The groups of a user -/

/-- What adding a member does to the groups of a user. -/
lemma groupsOf_withMember (s : Store) (member group user : Int) :
    ({ s with memberships := s.memberships.put ⟨member, withGroup (s.groupsOf member) group⟩ } :
        Store).groupsOf user =
      if member = user then withGroup (s.groupsOf user) group else s.groupsOf user := by
  rw [Store.groupsOf, Table.find?_put]
  split_ifs with h
  · rw [← h]
    rfl
  · rfl

/-- A user is added to a group by a call that asks for it, if both are there. -/
lemma joined_addUserToGroup (s : Store) (now : Instant) (member group user : Int) :
    StoreEvent.joined user ⟨DirectoryUpdate.call now (.addUserToGroup member group),
        ((DirectoryUpdate.call now (.addUserToGroup member group)).run s).1⟩ =
      if s.users.has member = false ∨ s.groups.has group = false then none
      else if member = user then some group else none := by
  change StoreEvent.joined user
    ⟨_, .served ((RecordUpdate.addUserToGroup member group).run s).1⟩ = _
  rw [run_addUserToGroup]
  cases s.users.has member with
  | false => rfl
  | true => cases s.groups.has group <;> rfl

/-- What a call does to the groups of a user. -/
lemma groupsOf_run (s : Store) (call : StoreCall) (user : Int) :
    (call.run s).2.groupsOf user =
      (StoreEvent.joined user ⟨call, (call.run s).1⟩).toList.foldl withGroup (s.groupsOf user) := by
  rcases call.directory_cases s with ⟨now, u, rfl, -⟩ | ⟨hnone, hdirectory⟩
  · cases u with
    | addUserToGroup member group =>
      rw [joined_addUserToGroup]
      change ((RecordUpdate.addUserToGroup member group).run s).2.groupsOf user = _
      rw [run_addUserToGroup]
      cases s.users.has member with
      | false => rfl
      | true =>
        cases s.groups.has group with
        | false => rfl
        | true =>
          refine (groupsOf_withMember s member group user).trans ?_
          by_cases h : member = user <;> simp [h]
    | _ => rfl
  · rw [Store.groupsOf, hdirectory.memberships, StoreEvent.joined, hnone]
    rfl

/-- The groups of a user are those that calls have added it to. -/
theorem groupsOf_after (s : Store) (calls : List StoreCall) (user : Int) :
    (after s calls).groupsOf user =
      ((history s calls).filterMap (StoreEvent.joined user)).foldl withGroup
        (s.groupsOf user) := by
  induction calls generalizing s with
  | nil => rfl
  | cons call calls ih =>
    rw [after, ih, groupsOf_run, history, List.filterMap_cons]
    cases StoreEvent.joined user ⟨call, (call.run s).1⟩ <;> rfl

/-- In a store that held nothing, they are those that calls have added it to, each at its first
place. -/
lemma groupsOf_start (calls : List StoreCall) (user : Int) :
    (after {} calls).groupsOf user = joinedGroups user calls := by
  rw [groupsOf_after, joinedGroups, ← foldl_eq_eraseDups]
  rfl

/-- A group that is there remains. -/
lemma has_group_run {s : Store} {group : Int} (h : s.groups.has group = true) (call : StoreCall) :
    (call.run s).2.groups.has group = true := by
  rcases call.directory_cases s with ⟨now, u, rfl, -⟩ | ⟨-, hdirectory⟩
  · have hgroup := group?_run s u group
    rw [Table.has] at h ⊢
    exact (congrArg Option.isSome hgroup).trans (by rw [Option.isSome_or, h, Bool.or_true])
  · rwa [hdirectory.groups]

/-- A group that a user is added to is there. -/
lemma has_group_of_joined {s : Store} {call : StoreCall} {user group : Int}
    (h : StoreEvent.joined user ⟨call, (call.run s).1⟩ = some group) :
    s.groups.has group = true := by
  rcases call.directory_cases s with ⟨now, u, rfl, -⟩ | ⟨hnone, -⟩
  · cases u with
    | addUserToGroup member joined =>
      rw [joined_addUserToGroup] at h
      split_ifs at h with hmissing hmember
      cases h
      exact eq_true_of_ne_false fun hgroup => hmissing (.inr hgroup)
    | _ => cases h
  · rw [StoreEvent.joined, hnone] at h
    cases h

/-- If all groups that users were added to are there, they remain there. -/
lemma joinedStored_run {s : Store} (h : s.JoinedStored) (call : StoreCall) :
    (call.run s).2.JoinedStored := by
  intro user group hgroup
  rw [groupsOf_run] at hgroup
  cases hjoined : StoreEvent.joined user ⟨call, (call.run s).1⟩ with
  | none =>
    rw [hjoined] at hgroup
    exact has_group_run (h user group hgroup) call
  | some joined =>
    rw [hjoined] at hgroup
    change group ∈ withGroup (s.groupsOf user) joined at hgroup
    rw [withGroup] at hgroup
    have hcases : group ∈ s.groupsOf user ∨ group = joined := by
      split_ifs at hgroup
      · exact .inl hgroup
      · simpa using hgroup
    rcases hcases with hold | rfl
    · exact has_group_run (h user group hold) call
    · exact has_group_run (has_group_of_joined hjoined) call

/-- In a store that held nothing, all groups that users were added to are there. -/
theorem joinedStored_after (calls : List StoreCall) : (after {} calls).JoinedStored := by
  have hrun (s : Store) (h : s.JoinedStored) : (after s calls).JoinedStored := by
    induction calls generalizing s with
    | nil => exact h
    | cons call calls ih => exact ih _ (joinedStored_run h call)
  exact hrun {} fun user group hgroup => by cases hgroup

/-! ## Users that are loaded -/

/-- The groups of a user are loaded as they were stored last, and none is missing. -/
lemma loadGroups_after (calls : List StoreCall) (user : Int) :
    ((after {} calls).loadGroups user).map some =
      (joinedGroups user calls).map (storedGroup calls) := by
  have hload (id : Int) :
      ((after {} calls).groups.find? id).map (fun g =>
          { g with attributes :=
            Store.attributesIn (after {} calls).groupAttributes g.id }) =
        storedGroup calls id := by
    cases hfound : (after {} calls).groups.find? id with
    | none =>
      rw [group?_after, Option.map_eq_none_iff] at hfound
      rw [storedGroup, hfound]
      rfl
    | some g =>
      obtain rfl : g.id = id := (Table.of_find? hfound).2
      rw [group?_after, Option.map_eq_some_iff] at hfound
      obtain ⟨group, hlast, hbare⟩ := hfound
      rw [storedGroup, hlast, Option.map_some, Option.map_some, groupAttributes_after, ← hbare]
      rfl
  have hthere : ∀ id ∈ (after {} calls).groupsOf user, (storedGroup calls id).isSome = true := by
    intro id hid
    rw [← hload, Option.isSome_map]
    exact joinedStored_after calls user id hid
  rw [Store.loadGroups, funext hload, List.map_filterMap_some_eq_filter_map_isSome,
    ← groupsOf_start, List.filter_eq_self]
  exact List.forall_mem_map.mpr hthere

/-- A record is stored the same way whether or not it carries groups and attributes. -/
lemma run_bare (s : Store) (call : StoreCall) : call.bare.run s = call.run s := by
  cases call with
  | serve now op =>
    cases op with
    | update u => cases u <;> rfl
    | _ => rfl
  | _ => rfl

/-- So are the records of a run. -/
lemma after_map_bare (s : Store) (calls : List StoreCall) :
    after s (calls.map bare) = after s calls := by
  induction calls generalizing s with
  | nil => rfl
  | cons call calls ih => rw [List.map_cons, after, after, run_bare, ih]

/-- A user is loaded with the record that was stored last. -/
lemma relations_after (calls : List StoreCall) (id : Int) :
    ((after {} calls).user? id).map (after {} calls).loadRelations =
      (last (DirectoryUpdate.userUnder id) calls).map fun u =>
        { u with
          groups := (after {} calls).loadGroups id
          attributes := (last (DirectoryUpdate.userAttributesOf id) calls).getD [] } := by
  have hfound := user?_after calls id
  cases hlast : last (DirectoryUpdate.userUnder id) calls with
  | none =>
    rw [hfound, hlast]
    rfl
  | some u =>
    rw [hlast] at hfound
    obtain rfl : u.id = id := (Table.of_find? hfound).2
    rw [hfound, ← userAttributes_after]
    rfl

/-- A user was stored if it is there. -/
lemma has_user_after (calls : List StoreCall) (id : Int) :
    (after {} calls).users.has id = (last (DirectoryUpdate.userUnder id) calls).isSome :=
  (congrArg Option.isSome (user?_after calls id)).trans Option.isSome_map

/-- A group was stored if it is there. -/
lemma has_group_after (calls : List StoreCall) (id : Int) :
    (after {} calls).groups.has id = (storedGroup calls id).isSome := by
  rw [Table.has, group?_after, storedGroup, Option.isSome_map, Option.isSome_map]

/-- A user is loaded as it was stored. Whatever is asked of a store that held nothing, the user of a
number is there exactly if one was stored under it, and it is loaded with the record that was stored
last, with the attributes that were set for it last, and with the groups that it was added to, each
once, in the order in which it first was: each of them with the record that was stored last and the
attributes that were set for it last. None of them is missing. Groups and attributes that records
carry when they are stored have no part in it, and a user that cannot be added to a group, since one
of both is not there, changes nothing. -/
theorem hydration (calls : List StoreCall) (id : Int) :
    let s := after {} calls
    let stored := last (DirectoryUpdate.userUnder id) calls
    ∃ groups : List Group, groups.map some = (joinedGroups id calls).map (storedGroup calls) ∧
      let loaded := stored.map fun u =>
        { u with groups, attributes := (last (DirectoryUpdate.userAttributesOf id) calls).getD [] }
      (s.user? id).map s.loadRelations = loaded ∧
      (∀ code : Code, s.loadCode { code with userId := id } =
        (s.codeClient code).bind fun client => match loaded with
          | some user => .ok (client, user)
          | none => .error (.codeUserMissing id code.id)) ∧
      after {} (calls.map bare) = s ∧
      ∀ now group,
        let (answer, t) := (DirectoryUpdate.call now (.addUserToGroup id group)).run s
        if stored.isNone then answer = .served (.error (.userMissing id)) ∧ t = s
        else if (storedGroup calls group).isNone then
          answer = .served (.error (.groupMissing group)) ∧ t = s
        else answer = .served (.ok .done) := by
  intro s stored
  refine ⟨s.loadGroups id, loadGroups_after calls id, relations_after calls id, fun code => ?code,
    after_map_bare {} calls, fun now group => ?join⟩
  case code =>
    rw [← relations_after, Store.loadCode]
    change (s.codeClient code >>= fun client => _) = _
    cases s.codeClient code with
    | error e => rfl
    | ok client =>
      change (s.codeUser { code with userId := id } >>= fun user => _) = _
      rw [Store.codeUser]
      cases s.user? id <;> rfl
  case join =>
    have huser : s.users.has id = stored.isSome := has_user_after calls id
    have hgroup : s.groups.has group = (storedGroup calls group).isSome :=
      has_group_after calls group
    have hrun := run_addUserToGroup s id group
    rw [huser, hgroup] at hrun
    simp only [DirectoryUpdate.call, DirectoryUpdate.asRecordUpdate, run, Operation.run, hrun]
    cases stored with
    | none => exact ⟨rfl, rfl⟩
    | some u =>
      cases storedGroup calls group with
      | none => exact ⟨rfl, rfl⟩
      | some g => rfl

end StoreCall

end TokenAuthority
