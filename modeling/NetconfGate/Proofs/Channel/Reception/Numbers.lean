import NetconfGate.Proofs.Channel.Reception.Turns
import Mathlib.Data.List.Nodup
import Mathlib.Data.List.Perm.Basic

/-!
# Numbers and tasks of a reception

The numbers that a service has given out, whatever for, are the first ones of
its counter; so no two are the same before the counter is back at its start. The
tasks of loops and connections are tasks of the group, each of its own.
-/

namespace NetconfGate.Channel

/-- The number of the connection before which `drawn` others were made. -/
def SessionId.after (drawn : Nat) : SessionId := ⟨UInt64.ofNat (drawn + 1)⟩

theorem SessionId.after_injective {one other : Nat} (small : one < Nat.pow 2 64)
    (small' : other < Nat.pow 2 64) (same : SessionId.after one = SessionId.after other) :
    one = other := by
  have numbers := congrArg (fun id => id.number.toNat) same
  simp only [SessionId.after, UInt64.toNat_ofNat'] at numbers
  have bound : Nat.pow 2 64 = 18446744073709551616 := by decide
  omega

/-- Filling in what was left open adds to the collected. -/
theorem filterMap_set_perm {α β : Type} {f : α → Option β} {list : List α} {index : Nat}
    {old : α} (found : list[index]? = some old) (left : f old = none) (new : α) :
    ((list.set index new).filterMap f).Perm ((f new).toList ++ list.filterMap f) := by
  induction list generalizing index with
  | nil => cases found
  | cons first rest ih =>
      cases index with
      | zero =>
          cases found
          rw [List.set_cons_zero, List.filterMap_cons, List.filterMap_cons, left]
          cases f new <;> exact .refl _
      | succ index =>
          have later := ih (show rest[index]? = some old from found)
          rw [List.set_cons_succ, List.filterMap_cons, List.filterMap_cons]
          cases f first with
          | none => exact later
          | some value => exact (later.cons value).trans List.perm_middle.symm

/-- What a modification leaves alone may be collected before or after it. -/
theorem map_modify_of_kept {α β : Type} {f : α → β} {g : α → α} (kept : ∀ a, f (g a) = f a)
    (list : List α) (index : Nat) : (list.modify index g).map f = list.map f := by
  apply List.ext_getElem?
  intro other
  rw [List.getElem?_map, List.getElem?_map, List.getElem?_modify]
  cases list[other]? with
  | none => rfl
  | some a => by_cases own : index = other <;> simp [own, kept]

theorem set_of_getElem? {α : Type} {list : List α} {index : Nat} {a : α}
    (found : list[index]? = some a) : list.set index a = list := by
  obtain ⟨inside, rfl⟩ := List.getElem?_eq_some_iff.mp found
  exact List.set_getElem_self inside

namespace Reception

/-- What was given out are the first numbers, and the counter stands after them. -/
structure Numbered (r : Reception) : Prop where
  next : r.service.counter.next = UInt64.ofNat (r.ids.length + 1)
  first : r.ids.Perm ((List.range r.ids.length).map SessionId.after)

theorem numbered_new : new.Numbered := ⟨rfl, .refl _⟩

theorem Numbered.nodup {r : Reception} (numbered : r.Numbered)
    (few : r.ids.length ≤ Nat.pow 2 64) : r.ids.Nodup := by
  refine numbered.first.nodup_iff.mpr (List.Nodup.map_on ?_ List.nodup_range)
  intro one among other amongst same
  rw [List.mem_range] at among amongst
  exact SessionId.after_injective (by omega) (by omega) same

/-- What is new at the end of each record was given out. -/
theorem given_of_append {r later : Reception} (taken dialled missed : List SessionId)
    (connections : later.connections.map Connection.id = r.connections.map Connection.id ++ taken)
    (departures : later.service.departures.map Departure.id =
      r.service.departures.map Departure.id ++ dialled)
    (inVain : later.missed = r.missed ++ missed) :
    r.given later = taken ++ (dialled ++ missed) ∧ later.ids.Perm (r.ids ++ r.given later) := by
  have given : r.given later = taken ++ (dialled ++ missed) := by
    rw [Reception.given, List.map_drop, List.map_drop, connections, departures, inVain,
      ← List.length_map Connection.id, ← List.length_map Departure.id, List.drop_left,
      List.drop_left, List.drop_left]
  refine ⟨given, List.perm_iff_count.mpr fun id => ?_⟩
  rw [given, ids, ids, connections, departures, inVain]
  simp only [List.count_append]
  omega

theorem map_id_set {connections : List Connection} {index : Nat} {c : Connection}
    (found : connections[index]? = some c) (fate : Fate) :
    (connections.set index { c with fate := fate }).map Connection.id =
      connections.map Connection.id := by
  have own : (connections.map Connection.id)[index]? = some c.id := by
    rw [List.getElem?_map, found]
    rfl
  rw [List.map_set]
  exact set_of_getElem? own

/-- What an event does to the numbers: it gives out the one of the counter or none. -/
structure Gives (r later : Reception) : Prop where
  ids : later.ids.Perm (r.ids ++ r.given later)
  counter : later.service.counter = r.service.counter ∧ r.given later = [] ∨
    later.service.counter = r.service.counter.generate.2 ∧
      r.given later = [r.service.counter.generate.1]

theorem Gives.of_same {r later : Reception} (counter : later.service.counter = r.service.counter)
    (connections : later.connections.map Connection.id = r.connections.map Connection.id)
    (departures : later.service.departures = r.service.departures)
    (inVain : later.missed = r.missed) : r.Gives later := by
  obtain ⟨given, perm⟩ := given_of_append [] [] [] (connections.trans (List.append_nil _).symm)
    (departures ▸ (List.append_nil _).symm) (inVain.trans (List.append_nil _).symm)
  exact ⟨perm, Or.inl ⟨counter, given⟩⟩

theorem Gives.of_one {r later : Reception} (taken dialled missed : List SessionId)
    (counter : later.service.counter = r.service.counter.generate.2)
    (one : taken ++ (dialled ++ missed) = [r.service.counter.generate.1])
    (connections : later.connections.map Connection.id = r.connections.map Connection.id ++ taken)
    (departures : later.service.departures.map Departure.id =
      r.service.departures.map Departure.id ++ dialled)
    (inVain : later.missed = r.missed ++ missed) : r.Gives later := by
  obtain ⟨given, perm⟩ := given_of_append taken dialled missed connections departures inVain
  exact ⟨perm, Or.inr ⟨counter, given.trans one⟩⟩

theorem gives_turn {r later : Reception} {event : Event} (turn : r.Turn event later)
    (inside : ∀ task ∈ r.tasks, task < r.service.group.tasks.length) : r.Gives later := by
  cases turn with
  | idle => exact .of_same rfl rfl rfl rfl
  | aside isAside =>
      rename_i event
      rcases (spares_aside inside isAside).numbers with ⟨counter, same⟩ | ⟨counter, token, more⟩
      · exact .of_same counter rfl same rfl
      · have departures : (r.course.step event).service.departures.map Departure.id =
            r.service.departures.map Departure.id ++ [r.service.counter.generate.1] := by
          rw [more, List.map_append]
          rfl
        exact .of_one [] [r.service.counter.generate.1] [] counter rfl (List.append_nil _).symm
          departures (List.append_nil _).symm
  | unbinds => exact .of_same rfl rfl rfl rfl
  | returns => exact .of_same rfl rfl rfl rfl
  | stops => exact .of_same rfl rfl rfl rfl
  | takes =>
      exact .of_one [r.service.counter.generate.1] [] [] rfl rfl List.map_append
        (List.append_nil _).symm (List.append_nil _).symm
  | settles found held =>
      rename_i connection c readable
      obtain ⟨arrivals, tasks, settled, _⟩ := r.service.settle_eq c readable
      rw [settled]
      exact .of_same rfl (map_id_set found _) rfl rfl
  | calls => exact .of_same rfl rfl rfl rfl
  | answers => exact .of_same rfl rfl rfl rfl
  | drops => exact .of_same rfl rfl rfl rfl
  | misses =>
      exact .of_one [] [] [r.service.counter.generate.1] rfl rfl (List.append_nil _).symm
        (List.append_nil _).symm rfl

theorem Numbered.turn {r later : Reception} (numbered : r.Numbered) {event : Event}
    (turn : r.Turn event later) (inside : ∀ task ∈ r.tasks, task < r.service.group.tasks.length) :
    later.Numbered := by
  obtain ⟨perm, ⟨counter, nothing⟩ | ⟨counter, drawn⟩⟩ := gives_turn turn inside
  · rw [nothing, List.append_nil] at perm
    have length := perm.length_eq
    refine ⟨?_, ?_⟩
    · rw [counter, length]
      exact numbered.next
    · rw [length]
      exact perm.trans numbered.first
  · rw [drawn] at perm
    have length := perm.length_eq
    rw [List.length_append, List.length_singleton] at length
    have last : r.service.counter.generate.1 = SessionId.after r.ids.length :=
      congrArg SessionId.mk numbered.next
    refine ⟨?_, ?_⟩
    · rw [counter, length, SessionCounter.generate_snd]
      dsimp only
      rw [numbered.next]
      simp
    · rw [length, List.range_succ, List.map_append, List.map_singleton, ← last]
      exact perm.trans (numbered.first.append_right _)

/-- Loops and connections have tasks of the group, each its own. -/
structure Tracked (r : Reception) : Prop where
  inside : ∀ task ∈ r.tasks, task < r.service.group.tasks.length
  distinct : r.tasks.Nodup

theorem tracked_new : new.Tracked := ⟨by simp [new, tasks, service, Course.new, Service.new], .nil⟩

/-- One task more at most, and it is the next of the group. -/
theorem tasks_turn {r later : Reception} {event : Event} (turn : r.Turn event later)
    (inside : ∀ task ∈ r.tasks, task < r.service.group.tasks.length) :
    later.tasks.Perm r.tasks ∧
        r.service.group.tasks.length ≤ later.service.group.tasks.length ∨
      later.tasks.Perm (r.service.group.tasks.length :: r.tasks) ∧
        later.service.group.tasks.length = r.service.group.tasks.length + 1 := by
  cases turn with
  | idle => exact Or.inl ⟨.refl _, Nat.le_refl _⟩
  | aside isAside =>
      rename_i event
      have spares := spares_aside inside isAside
      have listed : ({ r with course := r.course.step event } : Reception).tasks =
          (r.course.step event).service.loops.map Loop.task ++
            r.connections.filterMap Connection.task? := rfl
      rcases spares.bindings with ⟨loops, _⟩ | ⟨acceptor, address, _, _, _, tasks, loops, _⟩
      · refine Or.inl ⟨?_, spares.group.length⟩
        rw [listed, loops]
        exact .refl _
      · refine Or.inr ⟨?_, ?_⟩
        · rw [listed, loops, List.map_append, List.append_assoc]
          exact List.perm_middle
        · change (r.course.step event).service.group.tasks.length = _
          rw [tasks]
          exact List.length_append
  | unbinds bound =>
      refine Or.inl ⟨?_, Nat.le_refl _⟩
      rename_i acceptor loop
      have same : (r.service.loops.modify loop fun loop => { loop with stopped := true }).map
          Loop.task = r.service.loops.map Loop.task := map_modify_of_kept (by intro _; rfl) _ _
      rw [tasks]
      dsimp only [withService, service] at same ⊢
      rw [same]
      exact .refl _
  | returns => exact Or.inl ⟨.refl _, Nat.le_refl _⟩
  | stops =>
      exact Or.inl ⟨.refl _, Nat.le_of_eq (Group.length_tasks_finish _ _ _).symm⟩
  | takes =>
      refine Or.inl ⟨?_, Nat.le_refl _⟩
      rw [tasks, tasks, List.filterMap_append]
      change (_ ++ (_ ++ [])).Perm _
      rw [List.append_nil]
      exact .refl _
  | settles found held =>
      rename_i connection c readable
      have left : c.task? = none := by simp [Connection.task?, held]
      have filled := filterMap_set_perm found left { c with fate := r.service.fate readable }
      obtain ⟨arrivals, tasks, settled, how⟩ := r.service.settle_eq c readable
      rw [settled]
      rcases how with ⟨rfl, dropped⟩ | ⟨rfl, isOpen, handed⟩
      · have none_ : ({ c with fate := r.service.fate readable } : Connection).task? = none := by
          unfold Connection.task?
          split
          · rename_i task decided
            exact absurd decided (dropped task)
          · rfl
        rw [none_] at filled
        exact Or.inl ⟨filled.append_left _, Nat.le_refl _⟩
      · have some_ : ({ c with fate := r.service.fate readable } : Connection).task? =
            some r.service.group.tasks.length := by
          simp [Connection.task?, handed]
        rw [some_] at filled
        exact Or.inr ⟨(filled.append_left _).trans List.perm_middle, List.length_append⟩
  | calls => exact Or.inl ⟨.refl _, Nat.le_refl _⟩
  | answers =>
      exact Or.inl ⟨.refl _, Nat.le_of_eq (Group.length_tasks_finish _ _ _).symm⟩
  | drops => exact Or.inl ⟨.refl _, Nat.le_of_eq (Group.length_tasks_finish _ _ _).symm⟩
  | misses => exact Or.inl ⟨.refl _, Nat.le_refl _⟩

theorem Tracked.turn {r later : Reception} (tracked : r.Tracked) {event : Event}
    (turn : r.Turn event later) : later.Tracked := by
  rcases tasks_turn turn tracked.inside with ⟨kept, longer⟩ | ⟨more, longer⟩
  · refine ⟨?_, kept.nodup_iff.mpr tracked.distinct⟩
    intro task among
    exact Nat.lt_of_lt_of_le (tracked.inside task (kept.mem_iff.mp among)) longer
  · refine ⟨?_, more.nodup_iff.mpr (List.nodup_cons.mpr ⟨?_, tracked.distinct⟩)⟩
    · intro task among
      rcases List.mem_cons.mp (more.mem_iff.mp among) with rfl | before
      · omega
      · have := tracked.inside task before
        omega
    · intro among
      exact absurd (tracked.inside _ among) (Nat.lt_irrefl _)

end Reception

end NetconfGate.Channel
