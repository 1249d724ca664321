import NetconfGate.Channel.Sharing
import NetconfGate.Proofs.Session.Families

/-!
# Numbers of shared services

Whichever handle of a service it is done through, a session that is made gets the
next number of the service's one counter. The handles of a service are a family,
as generators that are clones of one another are.
-/

namespace NetconfGate.Channel

namespace Sharing

/-- What a reply tells of a command. -/
def deed : Command → Reply → Deed
  | .service _, .made _ => .founds
  | .clone handle, .made _ => .joins handle
  | .acceptor handle, .made _ => .joins handle
  | .connector handle, .made _ => .joins handle
  | .tells handle _, .done ids => .draws handle ids
  | _, _ => .nothing

/-- What came of a script. -/
def deeds (s : Sharing) (script : List Command) : List Deed :=
  List.zipWith deed script (s.run script)

def after (s : Sharing) (script : List Command) : Sharing :=
  script.foldl (fun s command => (s.step command).1) s

def owners (s : Sharing) : List Nat := s.handles.map Handle.service

def counters (s : Sharing) : List SessionCounter := s.services.map fun r => r.service.counter

/-- Handles keep to their services, and the sessions of a service are what was
drawn through them. -/
structure Sound (s : Sharing) (kin : Kin) (draws : List (Nat × SessionId)) : Prop where
  follows : Follows s.owners s.counters kin draws
  tracked : ∀ r ∈ s.services, r.Tracked
  sessions : ∀ (service : Nat) (r : Reception), s.services[service]? = some r →
    r.ids.Perm (idsOf draws service)

theorem sound_nothing : nothing.Sound .nobody [] := ⟨.nobody, nofun, nofun⟩

variable {s : Sharing} {kin : Kin} {draws : List (Nat × SessionId)}

/-- The command changes nothing. -/
theorem Sound.idle (sound : s.Sound kin draws) :
    s.Sound (kin.add .nothing) (draws ++ kin.credit .nothing) :=
  ⟨sound.follows.nothing, sound.tracked, (List.append_nil draws).symm ▸ sound.sessions⟩

theorem Sound.grant (sound : s.Sound kin draws) {handle service : Nat}
    (of : s.owners[handle]? = some service) (role : Handle.Role) :
    (s.grant ⟨service, role⟩).1.Sound (kin.add (.joins handle))
      (draws ++ kin.credit (.joins handle)) where
  follows := by
    change Follows ((s.handles ++ [(⟨service, role⟩ : Handle)]).map Handle.service) s.counters _ _
    rw [List.map_append]
    exact sound.follows.join of
  tracked := sound.tracked
  sessions := (List.append_nil draws).symm ▸ sound.sessions

theorem Sound.found (sound : s.Sound kin draws) (role : Handle.Role) :
    ({ s with services := s.services ++ [Reception.new] }.grant
      ⟨s.services.length, role⟩).1.Sound (kin.add .founds) (draws ++ kin.credit .founds) where
  follows := by
    have length : s.counters.length = s.services.length := List.length_map _
    change Follows ((s.handles ++ [(⟨s.services.length, role⟩ : Handle)]).map Handle.service)
      ((s.services ++ [Reception.new]).map fun r => r.service.counter) _ _
    rw [List.map_append, List.map_append, ← length]
    exact sound.follows.found
  tracked := by
    intro r among
    rcases List.mem_append.mp among with old | new
    · exact sound.tracked r old
    · rw [List.mem_singleton.mp new]
      exact Reception.tracked_new
  sessions := by
    intro service r at_
    change r.ids.Perm (idsOf (draws ++ []) service)
    rw [List.append_nil]
    rcases Nat.lt_trichotomy service s.services.length with before | rfl | beyond
    · exact sound.sessions service r ((List.getElem?_append_left before).symm.trans at_)
    · cases List.getElem?_concat_length.symm.trans at_
      rw [sound.follows.tallied.unborn _ (Nat.le_of_eq (List.length_map _))]
      exact .refl _
    · change (s.services ++ [Reception.new])[service]? = some r at at_
      rw [List.getElem?_eq_none (by simp; omega)] at at_
      cases at_

/-- What one service does is put down to the handle. -/
theorem Sound.serve (sound : s.Sound kin draws) {handle service : Nat}
    (of : s.owners[handle]? = some service) {r later : Reception}
    (at_ : s.services[service]? = some r) (tracked : later.Tracked) (gives : r.Gives later) :
    Sound { s with services := s.services.set service later }
      (kin.add (.draws handle (r.given later)))
      (draws ++ kin.credit (.draws handle (r.given later))) where
  follows := by
    have own : s.counters[service]? = some r.service.counter := by
      rw [counters, List.getElem?_map, at_]
      rfl
    have set : (s.services.set service later).map (fun r => r.service.counter) =
        s.counters.set service later.service.counter := List.map_set
    rw [counters, set]
    rcases gives.counter with ⟨counter, nothing⟩ | ⟨counter, one⟩
    · rw [nothing, counter, set_of_getElem? own]
      refine ⟨sound.follows.same, sound.follows.founded, sound.follows.inside, ?_⟩
      rw [Kin.credit_draws (sound.follows.same ▸ of), List.map_nil, List.append_nil]
      exact sound.follows.tallied
    · rw [one, counter]
      exact sound.follows.draw of own
  tracked := by
    intro other among
    rcases List.mem_or_eq_of_mem_set among with old | rfl
    · exact sound.tracked other old
    · exact tracked
  sessions := by
    intro other q found
    rw [idsOf_append, Kin.credit_draws (sound.follows.same ▸ of), idsOf_map]
    split
    · rename_i same
      subst same
      rw [List.getElem?_set_self (List.getElem?_eq_some_iff.mp at_).1] at found
      cases found
      exact gives.ids.trans ((sound.sessions service r at_).append_right _)
    · rename_i different
      rw [List.getElem?_set_ne different] at found
      rw [List.append_nil]
      exact sound.sessions other q found

theorem Sound.tell (sound : s.Sound kin draws) {handle : Nat} {of : Handle}
    (there : s.handles[handle]? = some of) (event : Reception.Event) :
    (s.tell of event).1.Sound (kin.add (deed (.tells handle event) (s.tell of event).2))
      (draws ++ kin.credit (deed (.tells handle event) (s.tell of event).2)) := by
  have own : s.owners[handle]? = some of.service := by
    rw [owners, List.getElem?_map, there]
    rfl
  unfold Sharing.tell
  split
  · exact sound.idle
  · rename_i r at_
    split
    · have tracked := sound.tracked r (List.mem_of_getElem? at_)
      have turn := r.turn_step event
      exact sound.serve own at_ (tracked.turn turn) (Reception.gives_turn turn tracked.inside)
    · exact sound.idle

theorem Sound.grantAcceptor (sound : s.Sound kin draws) {handle service : Nat}
    (of : s.owners[handle]? = some service) :
    (s.grantAcceptor service).1.Sound
      (kin.add (deed (.acceptor handle) (s.grantAcceptor service).2))
      (draws ++ kin.credit (deed (.acceptor handle) (s.grantAcceptor service).2)) := by
  unfold Sharing.grantAcceptor
  split
  · exact sound.idle
  · rename_i r at_
    have tracked := sound.tracked r (List.mem_of_getElem? at_)
    have turn := r.turn_step (.aside .acceptor)
    have served := sound.serve of at_ (tracked.turn turn) (Reception.gives_turn turn tracked.inside)
    have nothing : r.given (r.step (.aside .acceptor)) = [] := by
      simp [Reception.given, Reception.step, Reception.aside, Reception.isAside, Course.step,
        Service.acceptor, Reception.service]
    rw [nothing, Kin.credit_draws (sound.follows.same ▸ of), List.map_nil, List.append_nil] at served
    exact served.grant of _

theorem Sound.step (sound : s.Sound kin draws) (command : Command) :
    (s.step command).1.Sound (kin.add (deed command (s.step command).2))
      (draws ++ kin.credit (deed command (s.step command).2)) := by
  have own {handle : Nat} {of : Handle} (there : s.handles[handle]? = some of) :
      s.owners[handle]? = some of.service := by
    rw [owners, List.getElem?_map, there]
    rfl
  cases command with
  | service pool =>
      cases made : Service.onPool pool with
      | error e =>
          simp only [Sharing.step, made]
          exact sound.idle
      | ok service =>
          obtain ⟨_, rfl⟩ := (Service.onPool_eq_ok_iff pool service).mp made
          simp only [Sharing.step, made]
          exact sound.found .service
  | clone handle =>
      simp only [Sharing.step]
      split
      · rename_i there
        exact sound.grant (own there) .service
      · rename_i timeout there
        exact sound.grant (own there) (.connector timeout)
      · exact sound.idle
  | acceptor handle =>
      simp only [Sharing.step]
      split
      · rename_i service there
        exact sound.grantAcceptor (own there)
      · exact sound.idle
  | connector handle =>
      simp only [Sharing.step]
      split
      · rename_i there
        exact sound.grant (own there) _
      · exact sound.idle
  | limit handle timeout =>
      simp only [Sharing.step]
      split
      · rename_i service old there
        refine ⟨?_, sound.tracked, (List.append_nil draws).symm ▸ sound.sessions⟩
        have owner : s.owners[handle]? = some service := own there
        have same : (s.handles.set handle ⟨service, .connector timeout⟩).map Handle.service =
            s.owners := List.map_set.trans (set_of_getElem? owner)
        rw [owners, same]
        exact sound.follows.nothing
      · exact sound.idle
  | tells handle event =>
      cases there : s.handles[handle]? with
      | none =>
          simp only [Sharing.step, there]
          exact sound.idle
      | some of =>
          simp only [Sharing.step, there]
          exact sound.tell there event

theorem Sound.after (sound : s.Sound kin draws) (script : List Command) :
    (s.after script).Sound (kin.after (s.deeds script)) (draws ++ kin.draws (s.deeds script)) := by
  induction script generalizing s kin draws with
  | nil => exact (List.append_nil draws).symm ▸ sound
  | cons command rest ih =>
      have later := ih (sound.step command)
      rwa [List.append_assoc] at later

theorem sound_script (script : List Command) :
    (nothing.after script).Sound (Kin.nobody.after (nothing.deeds script))
      (Kin.nobody.draws (nothing.deeds script)) := sound_nothing.after script

/-- For every script over generators and every script over services and their handles.

A family of generators is one that was created and all clones of it, also clones of
clones. A call on a generator is answered by how many calls its family has had before,
whichever of its members they were made on and whatever was done with other families:
the first by 1, and so on modulo 2^64. So among any 2^64 calls of a family in a row no
number comes twice, and the first 2^64 - 1 numbers increase.

The handles of a service are a family too: its clones, the acceptors and connectors
that were made from any of them, and the clones of these connectors. Whatever the
handles are told, the sessions of a service, taken in by any acceptor or dialled
through any connector, have the numbers that its family drew, and these follow one
another in the same way. -/
theorem ids_by_family :
    (∀ script : List Generators.Command,
      (∀ family, InSequence (drawnBy family (Generators.empty.deeds script))) ∧
      ∀ generator family rest,
        (Kin.nobody.after (Generators.empty.deeds script)).families[generator]? = some family →
        (Generators.empty.run (script ++ .generate generator :: rest))[script.length]? =
          some (.drawn
            (SessionId.after (drawnBy family (Generators.empty.deeds script)).length))) ∧
    ∀ script : List Command,
      (∀ family, InSequence (drawnBy family (nothing.deeds script))) ∧
      (nothing.after script).handles.map Handle.service =
        (Kin.nobody.after (nothing.deeds script)).families ∧
      ∀ (service : Nat) (r : Reception), (nothing.after script).services[service]? = some r →
        r.ids.Perm (drawnBy service (nothing.deeds script)) := by
  refine ⟨fun script => ⟨fun family => ?_, fun generator family rest of =>
    Generators.run_generate of rest⟩, fun script => ?_⟩
  · exact ((Generators.follows_script script).tallied.consecutive family).inSequence
  · have sound := sound_script script
    exact ⟨fun family => (sound.follows.tallied.consecutive family).inSequence,
      sound.follows.same, sound.sessions⟩

/-- A call on the first of two families, after one on a clone of it and one on the other. -/
theorem ids_by_family_cloned :
    (Kin.nobody.after (Generators.empty.deeds
        [.create, .create, .clone 0, .generate 2, .generate 1])).families[0]? = some 0 ∧
      (Generators.empty.run
        [.create, .create, .clone 0, .generate 2, .generate 1, .generate 0])[5]? =
          some (.drawn ⟨2⟩) :=
  ⟨rfl, ((ids_by_family.1 [.create, .create, .clone 0, .generate 2, .generate 1]).2 0 0 []
    rfl).trans rfl⟩

/-- A connection that comes in and one that is dialled, through handles that were
made from two clones of a service. -/
example :
    let script : List Command :=
      [.service .multiThreaded, .clone 0, .acceptor 0, .connector 1,
        .tells 2 (.aside (.listens 0 (.v4 127 0 0 1 2022))), .tells 2 (.takes 0 true),
        .tells 3 (.aside (.dials (.v4 127 0 0 1 2830) defaultConnectTimeout)),
        .tells 3 (.aside (.pursues 0 (some .accepted) true))]
    drawnBy 0 (nothing.deeds script) = [⟨1⟩, ⟨2⟩] := by
  decide

end Sharing

end NetconfGate.Channel
