import NetconfGate.Password.Script
import NetconfGate.Settings.Layers
import Mathlib.Data.List.Dedup
import Mathlib.Data.List.Induction

/-!
# What a user table keeps

The additions that have succeeded, in order, say all that there is to a table:
of each user it keeps the last one. Nothing gets in that cannot be read as a
stored hash, so a login may fail for its password or for what the hash asks for,
and not for the form of the hash. The users of a settings file are such
additions, one after the other.
-/

namespace NetconfGate

namespace Password

/-- Only what cannot be read is refused for its form. -/
theorem verify_ne_format {hash : String} {h : Phc} (read : Phc.parse hash = .ok h)
    (password reason : String) : verify password hash ≠ .error (.format reason) := by
  unfold verify
  rw [read]
  intro refused
  change (agrees h (.ofText password)).mapError _ = _ at refused
  cases agreed : agrees h (.ofText password) <;> rw [agreed] at refused <;> cases refused

namespace Table

/-- The user and the hash of a call that adds them. -/
def Call.addition? : Call → Option (String × String)
  | .add _ user hash =>
      match Phc.parse hash with
      | .ok _ => some (user, hash)
      | .error _ => none
  | _ => none

/-- What was added successfully, in order. -/
def additions (past : List Call) : List (String × String) := past.filterMap Call.addition?

/-- The hash that was added last for exactly this name. -/
def lastHash? (added : List (String × String)) (user : String) : Option String :=
  (added.filter fun entry => entry.1 == user).getLast?.map Prod.snd

theorem lastHash?_concat (added : List (String × String)) (entry : String × String)
    (user : String) :
    lastHash? (added ++ [entry]) user =
      if entry.1 = user then some entry.2 else lastHash? added user := by
  unfold lastHash?
  rw [List.filter_append]
  by_cases same : entry.1 = user
  · simp [same]
  · simp [same]

theorem mem_of_lastHash? {added : List (String × String)} {user hash : String}
    (last : lastHash? added user = some hash) : (user, hash) ∈ added := by
  obtain ⟨entry, found, rfl⟩ := Option.map_eq_some_iff.mp last
  obtain ⟨member, same⟩ := List.mem_filter.mp (List.mem_of_getLast? found)
  rw [← beq_iff_eq.mp same]
  exact member

/-- The table with one more entry, in the place of an earlier one of its user. -/
def put (t : Table) (user hash : String) : Table :=
  ⟨(user, hash) :: t.entries.filter fun entry => entry.1 != user⟩

theorem add_eq (t : Table) (user hash : String) :
    t.add user hash =
      match Phc.parse hash with
      | .ok _ => .ok (t.put user hash)
      | .error fault => .error (.format fault.message) := by
  unfold add put
  cases Phc.parse hash <;> rfl

theorem lookup_filter_ne (entries : List (String × String)) {user other : String}
    (different : other ≠ user) :
    (entries.filter fun entry => entry.1 != user).lookup other = entries.lookup other := by
  induction entries with
  | nil => rfl
  | cons entry rest ih =>
      by_cases own : entry.1 = user
      · have passed : (other == entry.1) = false := by simpa [own] using different
        rw [List.filter_cons_of_neg (by simp [own]), ih, List.lookup_cons, passed]
      · rw [List.filter_cons_of_pos (by simpa using own), List.lookup_cons, List.lookup_cons, ih]

theorem get?_put (t : Table) (user hash other : String) :
    (t.put user hash).get? other = if user = other then some hash else t.get? other := by
  unfold get? put
  by_cases same : user = other
  · simp [same]
  · have passed : (other == user) = false := by simpa using Ne.symm same
    rw [List.lookup_cons, passed, if_neg same]
    exact lookup_filter_ne t.entries (Ne.symm same)

theorem users_put (t : Table) (user hash : String) :
    (t.put user hash).entries.map Prod.fst =
      user :: (t.entries.map Prod.fst).filter fun other => other != user := by
  simp [put, List.filter_map, Function.comp_def]

/-- The table keeps the last of what was added for each user, and nothing else. -/
structure Keeps (t : Table) (added : List (String × String)) : Prop where
  get? : ∀ user, t.get? user = lastHash? added user
  nodup : (t.entries.map Prod.fst).Nodup
  users : ∀ user, user ∈ t.entries.map Prod.fst ↔ user ∈ added.map Prod.fst
  readable : ∀ entry ∈ added, ∃ h, Phc.parse entry.2 = .ok h

theorem keeps_empty : empty.Keeps [] := by
  refine ⟨fun _ => rfl, List.nodup_nil, fun _ => Iff.rfl, ?_⟩
  intro entry member
  cases member

namespace Keeps

variable {t : Table} {added : List (String × String)}

theorem put (keeps : t.Keeps added) {user hash : String} {h : Phc}
    (read : Phc.parse hash = .ok h) : (t.put user hash).Keeps (added ++ [(user, hash)]) := by
  refine ⟨?_, ?_, ?_, ?_⟩
  · intro other
    rw [get?_put, lastHash?_concat, keeps.get?]
  · rw [users_put]
    refine List.nodup_cons.mpr ⟨?_, keeps.nodup.filter _⟩
    simp
  · intro other
    rw [users_put, List.mem_cons, List.mem_filter, keeps.users, List.map_append, List.mem_append]
    by_cases same : other = user <;> simp [same]
  · intro entry member
    rcases List.mem_append.mp member with before | last
    · exact keeps.readable entry before
    · rw [List.mem_singleton.mp last]
      exact ⟨h, read⟩

/-- A call adds what it adds, and no other changes the table. -/
theorem perform (keeps : t.Keeps added) (call : Call) :
    (t.perform call).2.Keeps (added ++ call.addition?.toList) := by
  cases call with
  | size | isEmpty | login => simpa [Table.perform, Call.addition?] using keeps
  | add way user hash =>
      simp only [Table.perform, Call.addition?, add_eq, Table.added]
      cases read : Phc.parse hash with
      | error fault => simpa using keeps
      | ok h => exact keeps.put read

theorem performAll (past : List Call) : (empty.performAll past).Keeps (additions past) := by
  induction past using List.reverseRecOn with
  | nil => exact keeps_empty
  | append_singleton past last ih =>
      have longer : additions (past ++ [last]) = additions past ++ last.addition?.toList := by
        cases added : last.addition? <;> simp [additions, added]
      rw [performAll_concat, longer]
      exact ih.perform last

theorem size (keeps : t.Keeps added) : t.size = (added.map Prod.fst).dedup.length := by
  have same : (t.entries.map Prod.fst).Perm (added.map Prod.fst).dedup := by
    rw [List.perm_ext_iff_of_nodup keeps.nodup (List.nodup_dedup _)]
    intro user
    rw [keeps.users, List.mem_dedup]
  rw [Table.size, ← List.length_map Prod.fst]
  exact same.length_eq

theorem isEmpty (keeps : t.Keeps added) : t.isEmpty = added.isEmpty := by
  have none_left : t.entries = [] ↔ added = [] := by
    rw [← List.map_eq_nil_iff (f := Prod.fst), ← List.map_eq_nil_iff (f := Prod.fst) (l := added)]
    simp only [List.eq_nil_iff_forall_not_mem, keeps.users]
  rw [Table.isEmpty, Bool.eq_iff_iff, List.isEmpty_iff, List.isEmpty_iff]
  exact none_left

theorem login (keeps : t.Keeps added) (user password : String) :
    t.login user password = true ↔
      ∃ hash, lastHash? added user = some hash ∧ verify password hash = .ok true := by
  rw [Table.login, keeps.get?]
  cases last : lastHash? added user with
  | none => simp
  | some hash =>
      cases verified : verify password hash with
      | error e => simp [verified, Except.toOption]
      | ok valid => simp [verified, Except.toOption]

theorem verify_ne_format (keeps : t.Keeps added) {user hash : String}
    (last : lastHash? added user = some hash) (password reason : String) :
    verify password hash ≠ .error (.format reason) := by
  obtain ⟨h, read⟩ := keeps.readable _ (mem_of_lastHash? last)
  exact Password.verify_ne_format read password reason

end Keeps

end Table

end Password

/-! ## The users of a settings file -/

namespace Settings

open Password

/-- A user entry as a call. -/
def User.call (u : User) : Table.Call := .add .inPlace u.name u.hash

theorem addUser_of_read {u : User} {h : Phc} (read : Phc.parse u.hash = .ok h) (t : Table) :
    addUser t u = .ok (t.perform u.call).2 := by
  simp only [addUser, User.call, Table.perform, Table.add_eq, read]
  rfl

theorem addUser_of_unread {u : User} {fault : Fault} (unread : Phc.parse u.hash = .error fault)
    (t : Table) : addUser t u = .error ⟨u.name, .format fault.message⟩ := by
  simp only [addUser, Table.add_eq, unread]
  rfl

theorem addUsers {users : List User} (read : ∀ u ∈ users, ∃ h, Phc.parse u.hash = .ok h)
    (t : Table) : users.foldlM addUser t = .ok (t.performAll (users.map User.call)) := by
  induction users generalizing t with
  | nil => rfl
  | cons u rest ih =>
      obtain ⟨h, first⟩ := read u List.mem_cons_self
      rw [List.foldlM_cons, addUser_of_read first]
      exact ih (fun other member => read other (List.mem_cons_of_mem _ member)) _

/-- The users before the first whose hash cannot be read are added in vain. -/
theorem addUsers_of_unread {before after : List User} {u : User} {fault : Fault}
    (read : ∀ u ∈ before, ∃ h, Phc.parse u.hash = .ok h)
    (unread : Phc.parse u.hash = .error fault) (t : Table) :
    (before ++ u :: after).foldlM addUser t = .error ⟨u.name, .format fault.message⟩ := by
  rw [List.foldlM_append, addUsers read]
  change (u :: after).foldlM addUser _ = _
  rw [List.foldlM_cons, addUser_of_unread unread]
  rfl

/-- Either all hashes can be read, or there is a first that cannot. -/
theorem readable_or_first (users : List User) :
    (∀ u ∈ users, ∃ h, Phc.parse u.hash = .ok h) ∨
      ∃ before u after fault, users = before ++ u :: after ∧
        (∀ other ∈ before, ∃ h, Phc.parse other.hash = .ok h) ∧
        Phc.parse u.hash = .error fault := by
  induction users with
  | nil => exact .inl nofun
  | cons u rest ih =>
      cases first : Phc.parse u.hash with
      | error fault => exact .inr ⟨[], u, rest, fault, rfl, nofun, first⟩
      | ok h =>
          have own : ∃ h, Phc.parse u.hash = .ok h := ⟨h, first⟩
          rcases ih with all | ⟨before, bad, after, fault, rfl, read, unread⟩
          · exact .inl (List.forall_mem_cons.mpr ⟨own, all⟩)
          · exact .inr ⟨u :: before, bad, after, fault, rfl,
              List.forall_mem_cons.mpr ⟨own, read⟩, unread⟩

theorem credentials_cases (s : Settings) :
    ((∀ u ∈ s.users, ∃ h, Phc.parse u.hash = .ok h) ∧
        s.credentials = .ok (Table.empty.performAll (s.users.map User.call))) ∨
      ∃ before u after fault, s.users = before ++ u :: after ∧
        (∀ other ∈ before, ∃ h, Phc.parse other.hash = .ok h) ∧
        Phc.parse u.hash = .error fault ∧
        s.credentials = .error ⟨u.name, .format fault.message⟩ := by
  rcases readable_or_first s.users with read | ⟨before, u, after, fault, users, read, unread⟩
  · exact .inl ⟨read, addUsers read .empty⟩
  · refine .inr ⟨before, u, after, fault, users, read, unread, ?_⟩
    rw [credentials, users]
    exact addUsers_of_unread read unread .empty

theorem additions_calls {users : List User} (read : ∀ u ∈ users, ∃ h, Phc.parse u.hash = .ok h) :
    Table.additions (users.map User.call) = users.map fun u => (u.name, u.hash) := by
  rw [Table.additions, List.filterMap_map, ← List.filterMap_eq_map]
  refine List.filterMap_congr fun u member => ?_
  obtain ⟨h, first⟩ := read u member
  simp [User.call, Table.Call.addition?, first]

/-- The entry of a user that counts is the last one. -/
theorem lastHash?_users (users : List User) (name : String) :
    Table.lastHash? (users.map fun u => (u.name, u.hash)) name =
      (users.filter fun u => u.name == name).getLast?.map User.hash := by
  rw [Table.lastHash?, List.filter_map, List.getLast?_map, Option.map_map]
  rfl

end Settings

namespace Password.Table

/--
A table after any script.  A user is added, in place or on a copy, if and only if
the hash can be read; an addition that fails tells why and changes nothing.  Its
size is the number of different names that were added.  A login is accepted if
and only if the hash that was added last for exactly that name verifies the
password, and no hash in it is ever refused for its form.

The users of any settings become a table if and only if all their hashes can be
read; otherwise the first that cannot is named.  The table answers every login by
the last entry of the user.
-/
theorem logins_performAll (past : List Call) (s : Settings) :
    let t := empty.performAll past
    let added := additions past
    (∀ way user hash,
      match Phc.parse hash with
      | .ok _ =>
          t.perform (.add way user hash) =
            (.added none, empty.performAll (past ++ [.add way user hash]))
      | .error fault =>
          t.perform (.add way user hash) = (.added (some (.format fault.message)), t)) ∧
    t.perform .size = (.size (added.map Prod.fst).dedup.length, t) ∧
    t.perform .isEmpty = (.isEmpty added.isEmpty, t) ∧
    (∀ user password, ∃ accepted, t.perform (.login user password) = (.login accepted, t) ∧
      (accepted = true ↔
        ∃ hash, lastHash? added user = some hash ∧ verify password hash = .ok true)) ∧
    (∀ user hash, lastHash? added user = some hash →
      ∀ password reason, verify password hash ≠ .error (.format reason)) ∧
    ((∃ users, s.credentials = .ok users) ↔ ∀ u ∈ s.users, ∃ h, Phc.parse u.hash = .ok h) ∧
    (∀ e, s.credentials = .error e → ∃ before u after fault, s.users = before ++ u :: after ∧
      (∀ other ∈ before, ∃ h, Phc.parse other.hash = .ok h) ∧
      Phc.parse u.hash = .error fault ∧ e = ⟨u.name, .format fault.message⟩) ∧
    ∀ users, s.credentials = .ok users → ∀ name password,
      (users.login name password = true ↔
        ∃ u, (s.users.filter fun u => u.name == name).getLast? = some u ∧
          verify password u.hash = .ok true) := by
  intro t added
  have keeps : t.Keeps added := .performAll past
  refine ⟨?adds, ?size, ?isEmpty, ?logins, fun user hash last => keeps.verify_ne_format last,
    ?succeeds, ?names, ?answers⟩
  case adds =>
    intro way user hash
    rw [performAll_concat]
    simp only [perform, add_eq, Table.added]
    cases Phc.parse hash <;> rfl
  case size =>
    rw [← keeps.size]
    rfl
  case isEmpty =>
    rw [← keeps.isEmpty]
    rfl
  case logins =>
    exact fun user password => ⟨t.login user password, rfl, keeps.login user password⟩
  case succeeds =>
    rcases s.credentials_cases with ⟨read, made⟩ | ⟨before, u, after, fault, users, _, unread, failed⟩
    · exact iff_of_true ⟨_, made⟩ read
    · refine iff_of_false ?_ fun read => ?_
      · rintro ⟨_, made⟩
        rw [failed] at made
        cases made
      · obtain ⟨h, first⟩ := read u (by simp [users])
        rw [unread] at first
        cases first
  case names =>
    intro e failed
    rcases s.credentials_cases with ⟨_, made⟩ | ⟨before, u, after, fault, users, read, unread, named⟩
    · rw [made] at failed
      cases failed
    · rw [named] at failed
      cases failed
      exact ⟨before, u, after, fault, users, read, unread, rfl⟩
  case answers =>
    intro users made name password
    rcases s.credentials_cases with ⟨read, same⟩ | ⟨_, _, _, _, _, _, _, failed⟩
    · rw [same] at made
      cases made
      have kept := Keeps.performAll (s.users.map Settings.User.call)
      rw [Settings.additions_calls read] at kept
      rw [kept.login, Settings.lastHash?_users]
      simp
    · rw [failed] at made
      cases made

end Password.Table

end NetconfGate
