import NetconfGate.Proofs.Server.Closedown

/-!
# Whose each task is

The first task is that of the loop. Each other one belongs to one visit, as its
own task or as that of one of its links, and so does each connection to the
backend, which is told by its token. So whatever is done for one visit leaves the
tasks of the others as they are, and the visits themselves; what is shared by all
of them are the signals of the group, and these only a close raises.
-/

namespace NetconfGate.Server

open Channel

def Visit.tasks (visit : Visit) : List Nat :=
  visit.arrival.task.toList ++ visit.links.map Link.task

theorem Visit.mem_tasks (visit : Visit) {task : Nat} (arrived : visit.arrival.task = some task) :
    task ∈ visit.tasks := by
  simp [tasks, arrived]

theorem Visit.mem_tasks_of_link (visit : Visit) {index : Nat} {link : Link}
    (held : visit.links[index]? = some link) : link.task ∈ visit.tasks :=
  List.mem_append_right _ (List.mem_map_of_mem (List.mem_of_getElem? held))

/-- The tokens of its connections to the backend. -/
def Visit.tokens (visit : Visit) : List Nat := visit.links.map fun link => link.backend.token

namespace Traffic

variable {t middle next : Traffic} {number : Nat} {visit changed : Visit}
  {keys : Visit → List Nat} {low old new : Nat}

/-- The keys that belong to a visit. -/
def keysAt (keys : Visit → List Nat) (t : Traffic) (number : Nat) : List Nat :=
  (t.visits[number]?.map keys).getD []

theorem keysAt_of_held (held : t.visits[number]? = some visit) :
    t.keysAt keys number = keys visit := by
  rw [keysAt, held]
  rfl

theorem keysAt_congr (same : next.visits[number]? = t.visits[number]?) :
    next.keysAt keys number = t.keysAt keys number := by
  rw [keysAt, same]
  rfl

/-- No key belongs to two. -/
structure Distinct (keys : Visit → List Nat) (low high : Nat) (t : Traffic) : Prop where
  inside : ∀ number, ∀ key ∈ t.keysAt keys number, low ≤ key ∧ key < high
  own : ∀ one other key, key ∈ t.keysAt keys one → key ∈ t.keysAt keys other → one = other
  nodup : ∀ number, (t.keysAt keys number).Nodup

/-- One visit may be given keys that were given to nobody before. -/
structure Grows (keys : Visit → List Nat) (old new : Nat) (t next : Traffic) (number : Nat) :
    Prop where
  bound : old ≤ new
  elsewhere : ∀ other, other ≠ number → next.visits[other]? = t.visits[other]?
  own : ∃ fresh, next.keysAt keys number = t.keysAt keys number ++ fresh ∧ fresh.Nodup ∧
    ∀ key ∈ fresh, old ≤ key ∧ key < new

theorem Grows.of_same (bound : old ≤ new)
    (elsewhere : ∀ other, other ≠ number → next.visits[other]? = t.visits[other]?)
    (same : next.keysAt keys number = t.keysAt keys number) : t.Grows keys old new next number :=
  ⟨bound, elsewhere, [], same.trans (List.append_nil _).symm, List.nodup_nil, nofun⟩

theorem Grows.trans {between : Nat} (first : Grows keys old between t middle number)
    (second : Grows keys between new middle next number) : Grows keys old new t next number where
  bound := Nat.le_trans first.bound second.bound
  elsewhere := fun other different =>
    (second.elsewhere other different).trans (first.elsewhere other different)
  own := by
    obtain ⟨fresh, grown, nodup, added⟩ := first.own
    obtain ⟨more, further, others, later⟩ := second.own
    have long := first.bound
    have longer := second.bound
    refine ⟨fresh ++ more, by rw [further, grown, List.append_assoc], ?_, ?_⟩
    · refine List.nodup_append.mpr ⟨nodup, others, ?_⟩
      rintro key one _ other rfl
      have below := (added key one).2
      have above := (later key other).1
      omega
    · intro key member
      rcases List.mem_append.mp member with one | other
      · obtain ⟨above, below⟩ := added key one
        omega
      · obtain ⟨above, below⟩ := later key other
        omega

theorem Distinct.grows (distinct : Distinct keys low old t)
    (grows : Grows keys old new t next number) (above : low ≤ old) :
    Distinct keys low new next := by
  obtain ⟨long, elsewhere, fresh, grown, fresh_nodup, added⟩ := grows
  -- A key is one that its visit had, or a fresh one of the visit that grows.
  have known {other key : Nat} (member : key ∈ next.keysAt keys other) :
      key ∈ t.keysAt keys other ∨ other = number ∧ key ∈ fresh := by
    by_cases same : other = number
    · subst same
      rw [grown, List.mem_append] at member
      exact member.imp_right fun added => ⟨rfl, added⟩
    · rw [keysAt_congr (elsewhere other same)] at member
      exact Or.inl member
  refine ⟨?inside, ?own, ?nodup⟩
  case inside =>
    intro other key member
    rcases known member with before | ⟨_, new⟩
    · have held := distinct.inside other key before
      omega
    · have beyond := added key new
      omega
  case own =>
    intro one other key first second
    rcases known first with before | ⟨rfl, given⟩ <;> rcases known second with held | ⟨same, taken⟩
    · exact distinct.own one other key before held
    · have beyond := (added key taken).1
      have within := (distinct.inside one key before).2
      omega
    · have beyond := (added key given).1
      have within := (distinct.inside other key held).2
      omega
    · exact same.symm
  case nodup =>
    intro other
    by_cases same : other = number
    · subst same
      rw [grown]
      refine List.nodup_append.mpr ⟨distinct.nodup other, fresh_nodup, ?_⟩
      rintro key held _ given rfl
      have beyond := (added key given).1
      have within := (distinct.inside other key held).2
      omega
    · rw [keysAt_congr (elsewhere other same)]
      exact distinct.nodup other

/-- The visits have the keys that they had. -/
theorem Distinct.of_same (distinct : Distinct keys low old t)
    (same : ∀ number, next.keysAt keys number = t.keysAt keys number) (bound : old ≤ new) :
    Distinct keys low new next := by
  refine ⟨fun number key member => ?_, fun one other key first second => ?_, fun number => ?_⟩
  · rw [same] at member
    obtain ⟨above, below⟩ := distinct.inside number key member
    omega
  · rw [same] at first second
    exact distinct.own one other key first second
  · rw [same]
    exact distinct.nodup number

/-- No task and no connection belongs to two, and none of the visits has the first
task. -/
structure Owned (t : Traffic) : Prop where
  looped : 0 < t.service.group.tasks.length
  tasks : t.Distinct Visit.tasks 1 t.service.group.tasks.length
  tokens : t.Distinct Visit.tokens 0 t.service.group.tokens.length

/-- Something is done for one visit. Its tasks may end, and it may be given new ones. -/
structure Touches (t next : Traffic) (number : Nat) : Prop where
  works : t.service.Works next.service
  setup : next.setup = t.setup
  visits : t.visits.length ≤ next.visits.length
  others : ∀ task, task < t.service.group.tasks.length → task ∉ t.keysAt Visit.tasks number →
    next.service.group.tasks[task]? = t.service.group.tasks[task]?
  tasks : t.Grows Visit.tasks t.service.group.tasks.length next.service.group.tasks.length next
    number
  tokens : t.Grows Visit.tokens t.service.group.tokens.length next.service.group.tokens.length next
    number

namespace Touches

theorem elsewhere (touches : t.Touches next number) {other : Nat} (different : other ≠ number) :
    next.visits[other]? = t.visits[other]? :=
  touches.tasks.elsewhere other different

/-- The visits are as they were, and so are the tasks. -/
theorem of_same (works : t.service.Works next.service) (setup : next.setup = t.setup)
    (visits : next.visits = t.visits)
    (tasks : next.service.group.tasks = t.service.group.tasks)
    (tokens : t.service.group.tokens.length ≤ next.service.group.tokens.length) :
    t.Touches next number := by
  refine ⟨works, setup, Nat.le_of_eq (by rw [visits]), fun task _ _ => by rw [tasks], ?_, ?_⟩
  · exact .of_same works.length (fun _ _ => by rw [visits]) (keysAt_congr (by rw [visits]))
  · exact .of_same tokens (fun _ _ => by rw [visits]) (keysAt_congr (by rw [visits]))

theorem refl (t : Traffic) (number : Nat) : t.Touches t number :=
  .of_same (.refl _) rfl rfl rfl (Nat.le_refl _)

theorem trans (first : t.Touches middle number) (second : middle.Touches next number) :
    t.Touches next number where
  works := first.works.trans second.works
  setup := second.setup.trans first.setup
  visits := Nat.le_trans first.visits second.visits
  tasks := first.tasks.trans second.tasks
  tokens := first.tokens.trans second.tokens
  others := by
    intro task inside apart
    obtain ⟨fresh, grown, _, added⟩ := first.tasks.own
    have still : task ∉ middle.keysAt Visit.tasks number := by
      rw [grown, List.mem_append]
      rintro (before | new)
      · exact apart before
      · have beyond := (added task new).1
        omega
    exact (second.others task (Nat.lt_of_lt_of_le inside first.works.length) still).trans
      (first.others task inside apart)

end Touches

/-- Ownership survives whatever is done for a visit. -/
theorem Owned.touched (owned : t.Owned) (touches : t.Touches next number) : next.Owned where
  looped := Nat.lt_of_lt_of_le owned.looped touches.works.length
  tasks := owned.tasks.grows touches.tasks owned.looped
  tokens := owned.tokens.grows touches.tokens (Nat.zero_le _)

/-! ## What is done for a visit -/

section Ways

variable (held : t.visits[number]? = some visit)
include held

theorem held_setVisit (changed : Visit) :
    (t.setVisit number changed).visits[number]? = some changed :=
  List.getElem?_set_self (List.getElem?_eq_some_iff.mp held).1

/-- The visit goes on, with the tasks and the connections that it has. -/
theorem touches_setVisit (tasks : changed.tasks = visit.tasks)
    (tokens : changed.tokens = visit.tokens) :
    t.Touches (t.setVisit number changed) number := by
  have after := held_setVisit held changed
  have elsewhere (other : Nat) (different : other ≠ number) :
      (t.setVisit number changed).visits[other]? = t.visits[other]? :=
    List.getElem?_set_ne (Ne.symm different)
  refine ⟨.refl _, rfl, Nat.le_of_eq List.length_set.symm, fun _ _ _ => rfl, ?_, ?_⟩
  · refine .of_same (Nat.le_refl _) elsewhere ?_
    rw [keysAt_of_held after, keysAt_of_held held, tasks]
  · refine .of_same (Nat.le_refl _) elsewhere ?_
    rw [keysAt_of_held after, keysAt_of_held held, tokens]

omit held in
theorem map_set {α : Type} {f : Link → α} {index : Nat} {link changed : Link}
    (found : visit.links[index]? = some link) (kept : f changed = f link) :
    (visit.links.set index changed).map f = visit.links.map f := by
  obtain ⟨inRange, same⟩ := List.getElem?_eq_some_iff.mp found
  rw [List.map_set, kept, ← same, ← List.map_set, List.set_getElem_self]

/-- A link of the visit goes on, in its task and over its connection. -/
theorem touches_setLink {index : Nat} {link : Link} (found : visit.links[index]? = some link)
    (changed : Link) (task : changed.task = link.task)
    (backend : changed.backend = link.backend) :
    t.Touches (t.setVisit number { visit with links := visit.links.set index changed })
      number := by
  refine touches_setVisit held ?_ (map_set found (congrArg Departure.token backend))
  rw [Visit.tasks, map_set found task]
  rfl

/-- A task of the visit ends. -/
theorem touches_finish {task : Nat} (member : task ∈ visit.tasks) (outcome : Outcome) :
    t.Touches (t.onService fun service => service.finish task outcome) number := by
  have works := Service.works_finish t.service task outcome
  refine ⟨works, rfl, Nat.le_refl _, ?_, ?_, ?_⟩
  · intro other _ apart
    have differ : other ≠ task := by
      rintro rfl
      exact apart (keysAt_of_held held ▸ member)
    change (t.service.group.finish task outcome).tasks[other]? = _
    unfold Group.finish
    split
    · exact List.getElem?_set_ne (Ne.symm differ)
    · rfl
  · exact .of_same works.length (fun _ _ => rfl) rfl
  · refine .of_same (Nat.le_of_eq ?_) (fun _ _ => rfl) rfl
    exact congrArg List.length (Group.finish_tokens t.service.group task outcome).symm

/-- The visit gets one link more, over a connection and in a task of its own. -/
theorem touches_start (isOpen : t.service.group.draining = false) {link : Link}
    (latest : link.task = t.service.group.tasks.length)
    (departure : link.backend = t.service.depart.1) (session : Secure.Session) :
    let tasks := t.service.group.tasks ++ [none]
    let departed := t.service.depart.2
    let service : Service := { departed with group := { departed.group with tasks } }
    t.Touches
      (Traffic.setVisit { t with service := service } number
        { visit with session := session, links := visit.links ++ [link] })
      number := by
  intro tasks departed service
  have tokens : service.group.tokens = t.service.group.tokens ++ [false] := by
    simp [service, departed, Service.depart, Service.drawId, Group.token]
  have works : t.service.Works service := by
    refine .of_tasks rfl rfl rfl [none] (t.service.group.tokens ++ [false]) ?_ fun drains => ?_
    · simp [service, departed, tasks, Service.depart, Service.drawId, Group.token]
    · rw [isOpen] at drains
      cases drains
  let after : Visit := { visit with session := session, links := visit.links ++ [link] }
  have elsewhere (other : Nat) (different : other ≠ number) :
      (Traffic.setVisit { t with service := service } number after).visits[other]? =
        t.visits[other]? :=
    List.getElem?_set_ne (Ne.symm different)
  have given : (Traffic.setVisit { t with service := service } number after).visits[number]? =
      some after := held_setVisit (t := { t with service := service }) held after
  refine ⟨works, rfl, Nat.le_of_eq List.length_set.symm, ?_, ?_, ?_⟩
  · intro task inside _
    exact List.getElem?_append_left inside
  · refine ⟨works.length, elsewhere, [t.service.group.tasks.length], ?_,
      List.pairwise_singleton _ _, ?_⟩
    · rw [keysAt_of_held given, keysAt_of_held held]
      simp [after, Visit.tasks, latest]
    · intro task member
      rw [List.mem_singleton.mp member]
      change _ ∧ _ < (t.service.group.tasks ++ [none]).length
      simp
  · refine ⟨?_, elsewhere, [t.service.group.tokens.length], ?_, List.pairwise_singleton _ _, ?_⟩
    · change _ ≤ service.group.tokens.length
      simp [tokens]
    · rw [keysAt_of_held given, keysAt_of_held held]
      simp [after, Visit.tokens, departure, Service.depart, Service.drawId, Group.token]
    · intro token member
      rw [List.mem_singleton.mp member]
      change _ ∧ _ < service.group.tokens.length
      simp [tokens]

end Ways

/-- The book of the dials is nobody's. -/
theorem touches_dials (t : Traffic) (number : Nat) (dials : List DialMade) :
    t.Touches { t with dials := dials } number :=
  .of_same (.refl _) rfl rfl rfl (Nat.le_refl _)

/-- A connection to the backend is numbered. -/
theorem touches_depart (t : Traffic) (number : Nat) :
    t.Touches { t with service := t.service.depart.2 } number := by
  refine .of_same ?_ rfl rfl rfl ?_
  · exact .of_tasks rfl rfl rfl [] (t.service.group.tokens ++ [false])
      (by simp [Service.depart, Service.drawId, Group.token]) fun _ => rfl
  · simp [Service.depart, Service.drawId, Group.token]

/-- A visit that arrives is the next one. -/
theorem touches_arrive (t : Traffic) (loop : Loop) :
    t.Touches
      { t with
        service := (t.service.accept loop).2
        visits := t.visits ++ [.new (t.service.accept loop).1] }
      t.visits.length := by
  obtain ⟨tasks, task, arrival, service, how⟩ := t.service.accept_eq loop
  have works := Service.works_accept t.service loop
  have elsewhere (other : Nat) (different : other ≠ t.visits.length) :
      (t.visits ++ [.new (t.service.accept loop).1])[other]? = t.visits[other]? := by
    rw [List.getElem?_append]
    split
    · rfl
    · rw [List.getElem?_eq_none (by simp; omega), List.getElem?_eq_none (by omega)]
  have none_before (keys : Visit → List Nat) : t.keysAt keys t.visits.length = [] := by
    rw [keysAt, List.getElem?_eq_none (Nat.le_refl _)]
    rfl
  have group : (t.service.accept loop).2.group.tasks = tasks := by
    rw [service]
  refine ⟨works, rfl, by simp, ?_, ?_, ?_⟩
  · intro other inside _
    dsimp only
    rw [group]
    rcases how with ⟨_, rfl⟩ | ⟨_, rfl⟩
    · rfl
    · exact List.getElem?_append_left inside
  · refine ⟨works.length, elsewhere, task.toList, ?_, ?_, ?_⟩
    · rw [none_before, keysAt]
      simp [Visit.tasks, arrival]
    · cases task <;> simp
    · dsimp only
      rw [group]
      rcases how with ⟨rfl, rfl⟩ | ⟨rfl, rfl⟩
      · exact nofun
      · simp
  · refine .of_same ?_ elsewhere ?_
    · dsimp only
      rw [service]
      simp
    · rw [none_before, keysAt]
      simp [Visit.tokens]

end Traffic

end NetconfGate.Server
