import Mathlib
import NetconfGate.Proofs.FileTree.Writing
import NetconfGate.Proofs.Settings.Ranges
import NetconfGate.Proofs.Yaml.Decoding
import NetconfGate.Proofs.Yaml.Fields

/-!
# The settings file takes every key or fails

A mapping is loaded exactly if its keys are known names, each once, and all of
its values read as their fields do; in each user entry likewise, and there both
names are given. So a file that is loaded says nothing that is not taken up, and
it says the same in whatever order its keys stand, and those of its users.
-/

namespace NetconfGate.Settings.File

open Yaml

def UserField.get (u : User) : UserField → String
  | .name => u.name
  | .hash => u.hash

theorem UserField.text_injective : Function.Injective UserField.text := by
  intro one other
  cases one <;> cases other <;> decide

/-- What an entry says of a user. Every scalar is a text, whatever it looks like. -/
def UserField.said (d : Document) (entry : Node × Node) : Said fun _ : UserField => Option String :=
  ⟨d.text? entry.1, fun _ value => ∃ text, d.text? entry.2 = some text ∧ value = some text⟩

/-- The node is an entry for the user: it gives both fields and no others. -/
def IsUser (d : Document) (node : Node) (u : User) : Prop :=
  ∃ mark given, d.resolve node = .mapping mark given ∧
    Fills UserField.text (given.map (UserField.said d)) (fun field => some (field.get u)) ∧
    ∀ field, ¬Omits UserField.text (given.map (UserField.said d)) field

theorem isUser_of_mapping {d : Document} {node : Node} {mark : Mark} {given : List (Node × Node)}
    {u : User} (meant : d.resolve node = .mapping mark given) :
    IsUser d node u ↔
      Fills UserField.text (given.map (UserField.said d)) (fun field => some (field.get u)) ∧
        ∀ field, ¬Omits UserField.text (given.map (UserField.said d)) field := by
  simp [IsUser, meant]

def UserDraft.get (u : UserDraft) : UserField → Option String
  | .name => u.name
  | .hash => u.hash

def UserDraft.put (u : UserDraft) : UserField → Option String → UserDraft
  | .name, name => { u with name }
  | .hash, hash => { u with hash }

def UserDraft.slots : Slots UserDraft fun _ : UserField => Option String :=
  ⟨UserDraft.get, fun u field => (u.get field).isSome, UserDraft.put⟩

/-- A field is set once. -/
theorem taken_eq_ok_iff (d : Document) (path : Option String) (node : Node) (u next : UserDraft)
    (field : UserField) (fault : Decoding.Fault) :
    (if (u.get field).isSome then Except.error fault
      else do
        let (value, _) ← Decoding.text d path "a string" node
        pure (u.put field (some (String.ofList value)))) = .ok next ↔
      ∃ value, ¬(u.get field).isSome ∧ (∃ text, d.text? node = some text ∧ value = some text) ∧
        next = u.put field value := by
  by_cases there : (u.get field).isSome
  · simp [there]
  · rw [if_neg there, bind_eq_ok_iff]
    constructor
    · rintro ⟨⟨text, mark⟩, read, same⟩
      cases same
      have found := Decoding.text?_eq_some_iff.mpr ⟨text, mark, read, rfl⟩
      exact ⟨_, there, ⟨_, found, rfl⟩, rfl⟩
    · rintro ⟨_, _, ⟨text, found, rfl⟩, rfl⟩
      obtain ⟨text, mark, read, rfl⟩ := Decoding.text?_eq_some_iff.mp found
      exact ⟨(text, mark), read, rfl⟩

theorem userEntry_eq_ok_iff {d : Document} {spot : Decoding.Spot} {u next : UserDraft}
    {entry : Node × Node} :
    userEntry d spot u entry = .ok next ↔
      ∃ field value, d.text? entry.1 = some (UserField.text field) ∧ ¬(u.get field).isSome ∧
        (∃ text, d.text? entry.2 = some text ∧ value = some text) ∧ next = u.put field value := by
  unfold userEntry
  rw [bind_eq_ok_iff]
  constructor
  · rintro ⟨⟨name, path⟩, named, made⟩
    obtain ⟨key, known⟩ := Decoding.fieldName_eq_ok_iff.mp ⟨path, named⟩
    rcases List.mem_pair.mp known with rfl | rfl
    · obtain ⟨value, taken⟩ := (taken_eq_ok_iff d path entry.2 u next .name _).mp made
      exact ⟨.name, value, key, taken⟩
    · obtain ⟨value, taken⟩ := (taken_eq_ok_iff d path entry.2 u next .hash _).mp made
      exact ⟨.hash, value, key, taken⟩
  · rintro ⟨field, value, key, taken⟩
    have known : UserField.text field ∈ UserField.names := by cases field <;> decide
    obtain ⟨path, named⟩ := Decoding.fieldName_eq_ok_iff.mpr ⟨key, known⟩
    refine ⟨(UserField.text field, path), named, ?_⟩
    cases field with
    | name => exact (taken_eq_ok_iff d path entry.2 u next .name _).mpr ⟨value, taken⟩
    | hash => exact (taken_eq_ok_iff d path entry.2 u next .hash _).mpr ⟨value, taken⟩

theorem userEntry_strict (d : Document) (spot : Decoding.Spot) :
    UserDraft.slots.Strict UserField.text (UserField.said d) (userEntry d spot) where
  step _ _ _ := userEntry_eq_ok_iff
  get u field value := by
    funext other
    cases field <;> cases other <;> rfl
  has u entry field value reads other := by
    obtain ⟨text, _, rfl⟩ := reads
    cases field <;> cases other <;> simp [UserDraft.slots, UserDraft.get, UserDraft.put]

theorem UserDraft.complete_eq_ok_iff {draft : UserDraft} {spot : Decoding.Spot} {u : User} :
    draft.complete spot = .ok u ↔ draft.get = fun field => some (field.get u) := by
  obtain ⟨name, hash⟩ := draft
  obtain ⟨name', hash'⟩ := u
  constructor
  · intro made
    cases name with
    | none => cases made
    | some name =>
        cases hash with
        | none => cases made
        | some hash =>
            cases made
            funext field
            cases field <;> rfl
  · intro same
    obtain rfl : name = some name' := congrFun same .name
    obtain rfl : hash = some hash' := congrFun same .hash
    rfl

theorem user_eq_ok_iff {d : Document} {path : Option String} {node : Node} {u : User} :
    user d path node = .ok u ↔ IsUser d node u := by
  unfold user
  rw [bind_eq_ok_iff]
  constructor
  · rintro ⟨⟨given, spot⟩, opened, made⟩
    obtain ⟨draft, folded, completed⟩ := bind_eq_ok_iff.mp made
    have shown := UserDraft.complete_eq_ok_iff.mp completed
    obtain ⟨said, _⟩ := ((userEntry_strict d spot).run UserField.text_injective).mp
      ⟨draft, folded, shown⟩
    have both (field : UserField) : ¬Omits UserField.text (given.map (UserField.said d)) field := by
      intro omitted
      -- A field that is left out would show nothing, as at the start.
      have nothing := said.absent field omitted
      cases field <;> cases nothing
    -- A node left empty opens as a mapping without entries, and lacks both.
    rcases (Decoding.entries_eq_ok_iff.mp opened).2 with mapping | ⟨rfl, _⟩
    · exact ⟨spot.mark, given, mapping, said.toFills, both⟩
    · exact absurd (fun e => nofun) (both .name)
  · rintro ⟨mark, given, mapping, fills, both⟩
    refine ⟨(given, ⟨path, mark⟩), Decoding.entries_eq_ok_iff.mpr ⟨rfl, .inl mapping⟩, ?_⟩
    have free : UserDraft.slots.Free UserField.text ⟨none, none⟩ (given.map (UserField.said d)) := by
      intro field there
      cases field <;> cases there
    obtain ⟨draft, folded, shown⟩ :=
      ((userEntry_strict d ⟨path, mark⟩).run UserField.text_injective).mpr
        ⟨⟨fills, fun field omitted => absurd omitted (both field)⟩, free⟩
    exact bind_eq_ok_iff.mpr ⟨draft, folded, UserDraft.complete_eq_ok_iff.mpr shown⟩

/-- The node lists the users in order. One left empty lists none. -/
def ListsUsers (d : Document) (node : Node) (users : List User) : Prop :=
  (∃ mark nodes, d.resolve node = .sequence mark nodes ∧ List.Forall₂ (IsUser d) nodes users) ∨
    (∃ s, d.scalar? node = some s ∧ Decoding.isEmptyScalar s) ∧ users = []

theorem usersFrom_eq_ok_iff {d : Document} {path : Option String} {nodes : List Node} {index : Nat}
    {users : List User} :
    usersFrom d path index nodes = .ok users ↔ List.Forall₂ (IsUser d) nodes users := by
  induction nodes generalizing index users with
  | nil =>
      constructor
      · intro same
        cases same
        exact .nil
      · intro all
        cases all
        rfl
  | cons node rest ih =>
      rw [usersFrom, bind_eq_ok_iff]
      constructor
      · rintro ⟨first, made, rest⟩
        obtain ⟨more, others, same⟩ := bind_eq_ok_iff.mp rest
        cases same
        exact .cons (user_eq_ok_iff.mp made) (ih.mp others)
      · intro all
        cases all with
        | cons first others =>
            exact ⟨_, user_eq_ok_iff.mpr first, bind_eq_ok_iff.mpr ⟨_, ih.mpr others, rfl⟩⟩

theorem userList_eq_ok_iff {d : Document} {path : Option String} {node : Node} {users : List User} :
    userList d path node = .ok users ↔ ListsUsers d node users := by
  unfold userList
  rw [bind_eq_ok_iff]
  simp only [usersFrom_eq_ok_iff, Decoding.items_eq_ok_iff]
  constructor
  · rintro ⟨nodes, ⟨mark, listed⟩ | ⟨rfl, empty⟩, all⟩
    · exact .inl ⟨mark, nodes, listed, all⟩
    · cases all
      exact .inr ⟨empty, rfl⟩
  · rintro (⟨mark, nodes, listed, all⟩ | ⟨empty, rfl⟩)
    · exact ⟨nodes, .inl ⟨mark, listed⟩, all⟩
    · exact ⟨[], .inr ⟨rfl, empty⟩, .nil⟩

/-! ## Fields -/

def Field.Value : Field → Type
  | .bind | .backend => Option Address
  | .hostKey => Option String
  | .idle | .auth | .connect | .workerThreads => Option Nat
  | .users => List User

def get (f : File) : (field : Field) → field.Value
  | .bind => f.bind
  | .backend => f.backend
  | .hostKey => f.hostKey
  | .idle => f.idle
  | .auth => f.auth
  | .connect => f.connect
  | .workerThreads => f.workerThreads
  | .users => f.users

def ofValues (values : (field : Field) → field.Value) : File :=
  ⟨values .bind, values .backend, values .hostKey, values .idle, values .auth, values .connect,
    values .workerThreads, values .users⟩

theorem ofValues_get (f : File) : ofValues f.get = f := rfl

theorem get_ofValues (values : (field : Field) → field.Value) : (ofValues values).get = values := by
  funext field
  cases field <;> rfl

def put (f : File) (field : Field) (value : field.Value) : File :=
  ofValues (Function.update f.get field value)

theorem Field.name_injective : Function.Injective Field.name := by
  intro one other same
  have found := congrArg Field.ofName? same
  rw [Field.ofName?_name, Field.ofName?_name] at found
  exact Option.some.inj found

/-- What a scalar reads as. -/
def address? (s : Scalar) : Option Address := Address.parse? (String.ofList s.text)

def keyPath? (s : Scalar) : Option String := some (String.ofList s.text)

/-- The value of a field that a node stands for. -/
def Field.Reads (d : Document) (node : Node) : (field : Field) → field.Value → Prop
  | .bind, value | .backend, value => d.value? address? node = some value
  | .hostKey, value => d.value? keyPath? node = some value
  | .idle, value | .auth, value | .connect, value | .workerThreads, value =>
      d.value? Scalar.unsigned? node = some value
  | .users, value => ListsUsers d node value

def Field.said (d : Document) (entry : Node × Node) : Said Field.Value :=
  ⟨d.text? entry.1, Field.Reads d entry.2⟩

theorem decodes_address (d : Document) (path : Option String) :
    Decoding.Decodes d (address d path) address? :=
  Decoding.decodes_of_text (fun _ => rfl) fun s mark a => by
    unfold address?
    dsimp only
    cases Address.parse? (String.ofList s.text) with
    | none => exact iff_of_false nofun nofun
    | some found =>
        change Except.ok found = .ok a ↔ _
        simp

theorem decodes_keyPath (d : Document) (path : Option String) :
    Decoding.Decodes d (keyPath d path) keyPath? :=
  Decoding.decodes_of_text (fun _ => rfl) fun s mark a => by
    change Except.ok _ = Except.ok a ↔ _
    simp [keyPath?]

theorem set_eq_ok_iff {d : Document} {outer : Decoding.Spot} {path : Option String} {node : Node}
    {f next : File} {field : Field} (settled : d.Settled) :
    set d outer path node f field = .ok next ↔
      ∃ value, field.Reads d node value ∧ next = f.put field value := by
  have taken {β : Type} {decoded : Except Decoding.Fault β} {Reads : β → Prop} {made : β → File}
      (reads : ∀ value, decoded = .ok value ↔ Reads value) :
      (decoded >>= fun value => pure (made value)) = .ok next ↔
        ∃ value, Reads value ∧ next = made value := by
    rw [bind_eq_ok_iff]
    simp only [reads]
    refine exists_congr fun value => and_congr_right fun _ => ?_
    exact ⟨fun same => by cases same; rfl, fun same => by rw [same]; rfl⟩
  cases field with
  | bind | backend =>
      exact taken fun value => Decoding.optional_eq_ok_iff settled (decodes_address d path)
  | hostKey => exact taken fun value => Decoding.optional_eq_ok_iff settled (decodes_keyPath d path)
  | idle | auth | connect | workerThreads =>
      exact taken fun value => Decoding.optional_eq_ok_iff settled (Decoding.decodes_number d path _)
  | users => exact taken fun value => userList_eq_ok_iff

def slots : Slots (List Field × File) Field.Value :=
  ⟨fun s => s.2.get, fun s field => field ∈ s.1, fun s field value => (field :: s.1, s.2.put field value)⟩

theorem entry_eq_ok_iff {d : Document} {outer : Decoding.Spot} {s next : List Field × File}
    {pair : Node × Node} (settled : d.Settled) :
    entry d outer s pair = .ok next ↔
      ∃ (field : Field) (value : field.Value), d.text? pair.1 = some field.name ∧ field ∉ s.1 ∧
        field.Reads d pair.2 value ∧ next = (field :: s.1, s.2.put field value) := by
  unfold entry
  rw [bind_eq_ok_iff]
  constructor
  · rintro ⟨⟨name, path⟩, named, made⟩
    obtain ⟨key, known⟩ := Decoding.fieldName_eq_ok_iff.mp ⟨path, named⟩
    obtain ⟨field, _, rfl⟩ := List.mem_map.mp known
    dsimp only at made
    rw [Field.ofName?_name] at made
    dsimp only at made
    split at made
    · cases made
    · next unset =>
        obtain ⟨file, given, same⟩ := bind_eq_ok_iff.mp made
        cases same
        obtain ⟨value, reads, rfl⟩ := (set_eq_ok_iff settled).mp given
        rw [List.contains_iff_mem] at unset
        exact ⟨field, value, key, unset, reads, rfl⟩
  · rintro ⟨field, value, key, unset, reads, rfl⟩
    have known : field.name ∈ Field.names := by cases field <;> decide
    obtain ⟨path, named⟩ := Decoding.fieldName_eq_ok_iff.mpr ⟨key, known⟩
    refine ⟨(field.name, path), named, ?_⟩
    dsimp only
    rw [Field.ofName?_name]
    dsimp only
    rw [if_neg (mt List.contains_iff_mem.mp unset)]
    exact bind_eq_ok_iff.mpr ⟨_, (set_eq_ok_iff settled).mpr ⟨value, reads, rfl⟩, rfl⟩

theorem entry_strict {d : Document} (outer : Decoding.Spot) (settled : d.Settled) :
    slots.Strict Field.name (Field.said d) (entry d outer) where
  step _ _ _ := entry_eq_ok_iff settled
  get _ _ _ := get_ofValues _
  has _ _ _ _ _ _ := List.mem_cons

section Rearranged

variable {d other : Document} {node twin : Node}

theorem UserField.said_eq (e e' : Node × Node) (keys : d.Alike other e.1 e'.1)
    (values : d.Alike other e.2 e'.2) : UserField.said d e = UserField.said other e' := by
  unfold UserField.said
  rw [keys.text?_eq, values.text?_eq]

theorem isUser_iff (alike : d.Alike other node twin) {u : User} :
    IsUser d node u ↔ IsUser other twin u := by
  cases alike with
  | scalar here there | sequence here there => simp [IsUser, here, there]
  | mapping here there order keys values =>
      have same := order.map (UserField.said d)
      rw [Document.map_eq_of_alike UserField.said_eq keys values] at same
      rw [isUser_of_mapping here, isUser_of_mapping there, fills_perm same]
      simp only [omits_perm same]

theorem forall₂_isUser_iff {nodes twins : List Node}
    (each : List.Forall₂ (d.Alike other) nodes twins) {users : List User} :
    List.Forall₂ (IsUser d) nodes users ↔ List.Forall₂ (IsUser other) twins users := by
  induction each generalizing users with
  | nil => rw [List.forall₂_nil_left_iff, List.forall₂_nil_left_iff]
  | cons first _ ih =>
      cases users with
      | nil => exact iff_of_false nofun nofun
      | cons u rest => rw [List.forall₂_cons, List.forall₂_cons, isUser_iff first, ih]

theorem listsUsers_iff (alike : d.Alike other node twin) {users : List User} :
    ListsUsers d node users ↔ ListsUsers other twin users := by
  unfold ListsUsers
  rw [alike.scalar?_eq]
  refine or_congr_left ?_
  cases alike with
  | scalar here there | mapping here there => simp [here, there]
  | sequence here there each =>
      rw [here, there]
      simp [forall₂_isUser_iff each]

theorem Field.said_eq (e e' : Node × Node) (keys : d.Alike other e.1 e'.1)
    (values : d.Alike other e.2 e'.2) : Field.said d e = Field.said other e' := by
  have reads (field : Field) (value : field.Value) :
      field.Reads d e.2 value ↔ field.Reads other e'.2 value := by
    cases field with
    | users => exact listsUsers_iff values
    | _ => rw [Field.Reads, Field.Reads, values.value?_eq]
  unfold Field.said
  rw [keys.text?_eq]
  congr 1
  funext field value
  exact propext (reads field value)

end Rearranged

/-! ## The whole file -/

theorem ofDocument_eq_ok_iff {d : Document} {mark : Mark} {given : List (Node × Node)} {f : File}
    (settled : d.Settled) (mapping : d.resolve d.root = .mapping mark given) :
    ofDocument d = .ok f ↔
      d.Whole ∧ Describes Field.name (given.map (Field.said d)) File.empty.get f.get := by
  unfold ofDocument
  rw [bind_eq_ok_iff]
  constructor
  · rintro ⟨⟨found, spot⟩, opened, made⟩
    obtain ⟨⟨seen, file⟩, folded, made⟩ := bind_eq_ok_iff.mp made
    obtain rfl : found = given := by
      rcases (Decoding.entries_eq_ok_iff.mp opened).2 with same | ⟨_, s, same, _⟩
      · rw [mapping] at same
        cases same
        rfl
      · rw [mapping] at same
        cases same
    obtain ⟨said, _⟩ := ((entry_strict spot settled).run Field.name_injective).mp
      ⟨_, folded, rfl⟩
    dsimp only at made
    split at made
    · cases made
    · next sound =>
        split at made
        · cases made
        · next alone =>
            cases made
            exact ⟨⟨sound, eq_false_of_ne_true alone⟩, said⟩
  · rintro ⟨⟨sound, alone⟩, said⟩
    refine ⟨(given, ⟨none, mark⟩), Decoding.entries_eq_ok_iff.mpr ⟨rfl, .inl mapping⟩, ?_⟩
    have free : slots.Free Field.name ([], File.empty) (given.map (Field.said d)) := fun _ => nofun
    obtain ⟨⟨seen, file⟩, folded, shown⟩ :=
      ((entry_strict ⟨none, mark⟩ settled).run Field.name_injective).mpr ⟨said, free⟩
    obtain rfl : file = f := by rw [← ofValues_get file, ← ofValues_get f]; exact congrArg _ shown
    refine bind_eq_ok_iff.mpr ⟨_, folded, ?_⟩
    dsimp only
    rw [sound, alone]
    rfl

theorem load_iff_describes {tree : FileTree} {path text : String} {mark : Mark}
    {given : List (Node × Node)} {f : File} (read : tree.readText path = .ok text)
    (mapping : (Document.ofText text).resolve (Document.ofText text).root = .mapping mark given) :
    load tree path = .ok f ↔ (Document.ofText text).Whole ∧
      Describes Field.name (given.map (Field.said (Document.ofText text))) File.empty.get f.get := by
  rw [load_eq_ok_iff, ← ofDocument_eq_ok_iff (Document.settled_ofText text) mapping]
  constructor
  · rintro ⟨found, same, parsed⟩
    rw [read] at same
    cases same
    exact parsed
  · intro parsed
    exact ⟨text, read, parsed⟩

/-- Whatever order is chosen, the same is loaded. -/
theorem load_rearranged {tree tree' : FileTree} {path path' text text' : String} {mark : Mark}
    {given : List (Node × Node)} (read : tree.readText path = .ok text)
    (read' : tree'.readText path' = .ok text')
    (mapping : (Document.ofText text).resolve (Document.ofText text).root = .mapping mark given)
    (rearranged : (Document.ofText text).Rearranged (Document.ofText text')) (f : File) :
    load tree path = .ok f ↔ load tree' path' = .ok f := by
  cases rearranged.root with
  | scalar here | sequence here =>
      rw [here] at mapping
      cases mapping
  | mapping here there order keys values =>
      have same := order.map (Field.said (Document.ofText text))
      rw [Document.map_eq_of_alike Field.said_eq keys values] at same
      rw [load_iff_describes read here, load_iff_describes read' there, describes_perm same]
      exact and_congr_left fun _ => iff_of_true rearranged.whole rearranged.twin

/-- A file that holds a mapping is loaded exactly if each of its keys is a known
name, none comes twice and all values read; then each field is what its key says,
and fields without a key are left open. Another order of the entries, at the top
or inside of a user's, makes no difference. -/
theorem load_strict {tree : FileTree} {path text : String} {mark : Mark}
    {given : List (Node × Node)} (read : tree.readText path = .ok text)
    (mapping : (Document.ofText text).root = .mapping mark given) :
    let d := Document.ofText text
    let said := given.map (Field.said d)
    ((∃ f, load tree path = .ok f) ↔ d.Whole ∧ Admissible Field.name said) ∧
    (∀ f, load tree path = .ok f ↔ d.Whole ∧ Describes Field.name said File.empty.get f.get) ∧
    ∀ (tree' : FileTree) (path' text' : String), tree'.readText path' = .ok text' →
      d.Rearranged (Document.ofText text') →
      ∀ f, load tree path = .ok f ↔ load tree' path' = .ok f := by
  intro d said
  have meant : d.resolve d.root = .mapping mark given := by
    rw [mapping]
    rfl
  have loaded (f : File) : load tree path = .ok f ↔
      d.Whole ∧ Describes Field.name said File.empty.get f.get := load_iff_describes read meant
  refine ⟨?_, loaded, fun _ _ _ read' rearranged => load_rearranged read read' meant rearranged⟩
  simp only [loaded, exists_and_left]
  rw [← exists_describes Field.name_injective File.empty.get]
  refine and_congr_right fun _ => ⟨?_, ?_⟩
  · rintro ⟨f, described⟩
    exact ⟨f.get, described⟩
  · rintro ⟨values, described⟩
    refine ⟨ofValues values, ?_⟩
    rw [get_ofValues]
    exact described

theorem load_strict_two_orders :
    let one := "users:\n- username: a\n  password_hash: h\nworker_threads: 4"
    let other := "worker_threads: 4\nusers:\n- password_hash: h\n  username: a"
    let tree : FileTree := ⟨[(["home", "one"], .file (.ofText one) 0o644),
      (["home", "other"], .file (.ofText other) 0o644)]⟩
    let f : File := ⟨none, none, none, none, none, none, some 4, [⟨"a", "h"⟩]⟩
    tree.readText "one" = .ok one ∧
    (∃ mark given, (Document.ofText one).root = .mapping mark given ∧
      Admissible Field.name (given.map (Field.said (Document.ofText one)))) ∧
    load tree "one" = .ok f ∧ load tree "other" = .ok f := by
  intro one other tree f
  have located : tree.locate true "one" = .ok ["home", "one"] := by cbv
  have located' : tree.locate true "other" = .ok ["home", "other"] := by cbv
  have read : tree.readText "one" = .ok one := FileTree.readText_of_ofText located rfl
  have read' : tree.readText "other" = .ok other := FileTree.readText_of_ofText located' rfl
  have root : (Document.ofText one).root = .mapping ⟨0, 0, 0⟩
      [(.plain ⟨0, 0, 0⟩ "users", .sequence ⟨7, 1, 0⟩ [.mapping ⟨9, 1, 2⟩
        [(.plain ⟨9, 1, 2⟩ "username", .plain ⟨19, 1, 12⟩ "a"),
          (.plain ⟨23, 2, 2⟩ "password_hash", .plain ⟨38, 2, 17⟩ "h")]]),
        (.plain ⟨40, 3, 0⟩ "worker_threads", .plain ⟨56, 3, 16⟩ "4")] := by decide +kernel
  have root' : (Document.ofText other).root = .mapping ⟨0, 0, 0⟩
      [(.plain ⟨0, 0, 0⟩ "worker_threads", .plain ⟨16, 0, 16⟩ "4"),
        (.plain ⟨18, 1, 0⟩ "users", .sequence ⟨25, 2, 0⟩ [.mapping ⟨27, 2, 2⟩
        [(.plain ⟨27, 2, 2⟩ "password_hash", .plain ⟨42, 2, 17⟩ "h"),
          (.plain ⟨46, 3, 2⟩ "username", .plain ⟨56, 3, 12⟩ "a")]])] := by decide +kernel
  have same (mark mark' : Mark) (text : String) :
      (Document.ofText one).Alike (Document.ofText other) (.plain mark text) (.plain mark' text) :=
    .scalar rfl rfl
  have rearranged : (Document.ofText one).Rearranged (Document.ofText other) := by
    refine ⟨by decide +kernel, by decide +kernel, ?_⟩
    rw [root, root']
    refine .mapping rfl rfl (.swap _ _ _) (.cons (same _ _ _) (.cons (same _ _ _) .nil))
      (.cons (same _ _ _) (.cons (.sequence rfl rfl (.cons ?_ .nil)) .nil))
    exact .mapping rfl rfl (.swap _ _ _) (.cons (same _ _ _) (.cons (same _ _ _) .nil))
      (.cons (same _ _ _) (.cons (same _ _ _) .nil))
  have parsed : parse one = .ok f := toOption_eq_some_iff.mp (by decide +kernel)
  have loaded : load tree "one" = .ok f := load_eq_ok_iff.mpr ⟨one, read, parsed⟩
  obtain ⟨succeeds, _, orders⟩ := load_strict read root
  exact ⟨read, ⟨_, _, root, (succeeds.mp ⟨f, loaded⟩).2⟩, loaded,
    (orders tree "other" other read' rearranged f).mp loaded⟩

/-- A text without characters lists no users, and the word for nothing is a name. -/
theorem load_lenient :
    let unlisted := "users: !!str"
    let unnamed := "users:\n- username: ~\n  password_hash: h"
    let tree : FileTree := ⟨[(["home", "one"], .file (.ofText unlisted) 0o644),
      (["home", "other"], .file (.ofText unnamed) 0o644)]⟩
    (∃ mark key users s, (Document.ofText unlisted).root = .mapping mark [(key, users)] ∧
      (Document.ofText unlisted).text? key = some "users" ∧
      (Document.ofText unlisted).scalar? users = some s ∧ s.value = .ok (.text []) ∧
      load tree "one" = .ok File.empty) ∧
    ∃ mark key mark' mark'' name null hash s, (Document.ofText unnamed).root =
        .mapping mark [(key, .sequence mark' [.mapping mark'' [(name, null), hash]])] ∧
      (Document.ofText unnamed).text? name = some "username" ∧
      (Document.ofText unnamed).scalar? null = some s ∧ s.value = .ok .null ∧
      load tree "other" = .ok { File.empty with users := [⟨"~", "h"⟩] } := by
  intro unlisted unnamed tree
  have root : (Document.ofText unlisted).root = .mapping ⟨0, 0, 0⟩
      [(.plain ⟨0, 0, 0⟩ "users", .scalar ⟨7, 0, 7⟩ ⟨[], .plain, Scalar.core "str"⟩)] := by
    decide +kernel
  have root' : (Document.ofText unnamed).root = .mapping ⟨0, 0, 0⟩
      [(.plain ⟨0, 0, 0⟩ "users", .sequence ⟨7, 1, 0⟩ [.mapping ⟨9, 1, 2⟩
        [(.plain ⟨9, 1, 2⟩ "username", .plain ⟨19, 1, 12⟩ "~"),
          (.plain ⟨23, 2, 2⟩ "password_hash", .plain ⟨38, 2, 17⟩ "h")]])] := by decide +kernel
  have located : tree.locate true "one" = .ok ["home", "one"] := by cbv
  have located' : tree.locate true "other" = .ok ["home", "other"] := by cbv
  have parsed : parse unlisted = .ok File.empty := toOption_eq_some_iff.mp (by decide +kernel)
  have parsed' : parse unnamed = .ok { File.empty with users := [⟨"~", "h"⟩] } :=
    toOption_eq_some_iff.mp (by decide +kernel)
  refine ⟨⟨_, _, _, _, root, by decide, rfl, rfl, ?_⟩,
    _, _, _, _, _, _, _, _, root', by decide, rfl, rfl, ?_⟩
  · exact load_eq_ok_iff.mpr ⟨unlisted, FileTree.readText_of_ofText located rfl, parsed⟩
  · exact load_eq_ok_iff.mpr ⟨unnamed, FileTree.readText_of_ofText located' rfl, parsed'⟩

end NetconfGate.Settings.File
