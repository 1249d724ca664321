import NetconfGate.Proofs.Channel.Reception.Numbers

/-!
# Families of holders

Session numbers are drawn through holders, such as generators. A holder is new
or made from another, and all that go back to the same one are a family. What a
family is follows from the steps of a script alone. The draws of a family, in
their order, are to be the first numbers of one counter, whichever of its holders
they went through and whatever came in between.
-/

namespace NetconfGate

open Channel

/-- What came of one step of a script. -/
inductive Deed where
  | founds
  /-- A new holder is made from another. -/
  | joins (holder : Nat)
  | draws (holder : Nat) (ids : List SessionId)
  | nothing

/-- The family of each holder. Families are numbered as they are founded. -/
structure Kin where
  founded : Nat
  families : List Nat

namespace Kin

def nobody : Kin := ⟨0, []⟩

def add (kin : Kin) : Deed → Kin
  | .founds => ⟨kin.founded + 1, kin.families ++ [kin.founded]⟩
  | .joins holder => ⟨kin.founded, kin.families ++ kin.families[holder]?.toList⟩
  | .draws _ _ => kin
  | .nothing => kin

/-- The draws of a step, each with the family that it belongs to. -/
def credit (kin : Kin) : Deed → List (Nat × SessionId)
  | .draws holder ids => kin.families[holder]?.toList.flatMap fun family => ids.map (family, ·)
  | _ => []

def after (kin : Kin) (deeds : List Deed) : Kin := deeds.foldl add kin

def draws (kin : Kin) : List Deed → List (Nat × SessionId)
  | [] => []
  | deed :: rest => kin.credit deed ++ (kin.add deed).draws rest

end Kin

/-- The draws of one family. -/
def idsOf (draws : List (Nat × SessionId)) (family : Nat) : List SessionId :=
  (draws.filter fun draw => draw.1 == family).map Prod.snd

/-- What the holders of a family drew in the course of some steps. -/
def drawnBy (family : Nat) (deeds : List Deed) : List SessionId := idsOf (Kin.nobody.draws deeds) family

theorem idsOf_append (draws more : List (Nat × SessionId)) (family : Nat) :
    idsOf (draws ++ more) family = idsOf draws family ++ idsOf more family := by
  simp [idsOf]

theorem Kin.credit_draws {kin : Kin} {holder family : Nat} (of : kin.families[holder]? = some family)
    (ids : List SessionId) : kin.credit (.draws holder ids) = ids.map (family, ·) := by
  simp [Kin.credit, of]

theorem idsOf_map (ids : List SessionId) (own family : Nat) :
    idsOf (ids.map (own, ·)) family = if own = family then ids else [] := by
  by_cases same : own = family <;> simp [idsOf, List.filter_map, Function.comp_def, same]

/-- The first numbers of a counter. -/
def Consecutive (ids : List SessionId) : Prop :=
  ids = (List.range ids.length).map SessionId.after

namespace Consecutive

variable {ids : List SessionId}

theorem nil : Consecutive [] := rfl

theorem concat (consecutive : Consecutive ids) : Consecutive (ids ++ [SessionId.after ids.length]) := by
  rw [Consecutive, List.length_append, List.length_singleton, List.range_succ, List.map_append,
    ← consecutive, List.map_singleton]

theorem getElem (consecutive : Consecutive ids) {k : Nat} (inside : k < ids.length) :
    ids[k] = SessionId.after k := by
  have same : ids[k]? = ((List.range ids.length).map SessionId.after)[k]? :=
    congrArg (·[k]?) consecutive
  rw [List.getElem?_eq_getElem inside, List.getElem?_map, List.getElem?_range inside] at same
  exact Option.some.inj same

end Consecutive

theorem number_after (drawn : Nat) :
    (SessionId.after drawn).number.toNat = (drawn + 1) % Nat.pow 2 64 := by
  rw [SessionId.after, UInt64.toNat_ofNat']

/-- How ids follow one another that are drawn from one counter. -/
structure InSequence (ids : List SessionId) : Prop where
  /-- The first has the index 0 and the number 1. -/
  kth : ∀ (k : Nat) (id : SessionId), ids[k]? = some id → id.number.toNat = (k + 1) % Nat.pow 2 64
  distinct : ∀ before, ((ids.drop before).take (Nat.pow 2 64)).Nodup
  increasing : (ids.take (Nat.pow 2 64 - 1)).Pairwise fun earlier later =>
    earlier.number < later.number

theorem Consecutive.inSequence {ids : List SessionId} (consecutive : Consecutive ids) :
    InSequence ids := by
  have size : Nat.pow 2 64 = 18446744073709551616 := by decide
  refine ⟨?kth, ?distinct, ?increasing⟩
  case kth =>
    intro k id found
    obtain ⟨inside, rfl⟩ := List.getElem?_eq_some_iff.mp found
    rw [consecutive.getElem inside, number_after]
  case distinct =>
    intro before
    rw [List.Nodup, List.pairwise_iff_getElem]
    intro i j iInside jInside less same
    rw [List.getElem_take, List.getElem_take, List.getElem_drop, List.getElem_drop,
      consecutive.getElem, consecutive.getElem] at same
    have numbers := congrArg (fun id => id.number.toNat) same
    simp only [number_after, size] at numbers
    have short := List.length_take_le (Nat.pow 2 64) (ids.drop before)
    omega
  case increasing =>
    rw [List.pairwise_iff_getElem]
    intro i j iInside jInside less
    rw [List.getElem_take, List.getElem_take, consecutive.getElem, consecutive.getElem,
      UInt64.lt_iff_toNat_lt, number_after, number_after, size]
    have short := List.length_take_le (Nat.pow 2 64 - 1) ids
    omega

/-! ## The counters of all families -/

def SessionCounter.after (drawn : Nat) : SessionCounter := ⟨UInt64.ofNat (drawn + 1)⟩

theorem SessionCounter.generate_after (drawn : Nat) :
    (SessionCounter.after drawn).generate =
      (SessionId.after drawn, SessionCounter.after (drawn + 1)) := by
  simp [SessionCounter.after, SessionCounter.generate, SessionId.after]

/-- Each family has a counter, which stands after the family's draws. -/
structure Tallied (draws : List (Nat × SessionId)) (counters : List SessionCounter) : Prop where
  consecutive : ∀ family, Consecutive (idsOf draws family)
  stands : ∀ (family : Nat) (counter : SessionCounter), counters[family]? = some counter →
    counter = .after (idsOf draws family).length
  unborn : ∀ family, counters.length ≤ family → idsOf draws family = []

namespace Tallied

variable {draws : List (Nat × SessionId)} {counters : List SessionCounter}

theorem nothing : Tallied [] [] := ⟨fun _ => .nil, nofun, fun _ _ => rfl⟩

theorem found (tallied : Tallied draws counters) : Tallied draws (counters ++ [.new]) := by
  refine ⟨tallied.consecutive, ?_, ?_⟩
  · intro family counter at_
    rcases Nat.lt_trichotomy family counters.length with before | rfl | beyond
    · rw [List.getElem?_append_left before] at at_
      exact tallied.stands family counter at_
    · rw [List.getElem?_concat_length] at at_
      cases at_
      rw [tallied.unborn _ (Nat.le_refl _)]
      rfl
    · rw [List.getElem?_eq_none (by simp; omega)] at at_
      cases at_
  · intro family beyond
    rw [List.length_append] at beyond
    exact tallied.unborn family (by omega)

theorem draw (tallied : Tallied draws counters) {family : Nat} {counter : SessionCounter}
    (own : counters[family]? = some counter) :
    Tallied (draws ++ [counter.generate.1].map (family, ·))
      (counters.set family counter.generate.2) := by
  have inside := (List.getElem?_eq_some_iff.mp own).1
  obtain rfl := tallied.stands family counter own
  rw [SessionCounter.generate_after]
  -- Only the family's own draws and its counter change.
  refine ⟨?_, ?_, ?_⟩
  · intro other
    rw [idsOf_append, idsOf_map]
    split
    · rename_i same
      subst same
      exact (tallied.consecutive family).concat
    · rw [List.append_nil]
      exact tallied.consecutive other
  · intro other counter at_
    rw [idsOf_append, idsOf_map]
    split
    · rename_i same
      subst same
      rw [List.getElem?_set_self inside] at at_
      cases at_
      rw [List.length_append, List.length_singleton]
    · rename_i different
      rw [List.getElem?_set_ne different] at at_
      rw [List.append_nil]
      exact tallied.stands other counter at_
  · intro other beyond
    rw [List.length_set] at beyond
    rw [idsOf_append, idsOf_map, if_neg (by omega), List.append_nil]
    exact tallied.unborn other beyond

end Tallied

/-- The holders stand for the counters of their families. -/
structure Follows (families : List Nat) (counters : List SessionCounter) (kin : Kin)
    (draws : List (Nat × SessionId)) : Prop where
  same : families = kin.families
  founded : counters.length = kin.founded
  inside : ∀ family ∈ families, family < counters.length
  tallied : Tallied draws counters

namespace Follows

variable {families : List Nat} {counters : List SessionCounter} {kin : Kin}
  {draws : List (Nat × SessionId)}

theorem nobody : Follows [] [] .nobody [] := ⟨rfl, rfl, nofun, .nothing⟩

theorem nothing (follows : Follows families counters kin draws) :
    Follows families counters (kin.add .nothing) (draws ++ kin.credit .nothing) :=
  ⟨follows.same, follows.founded, follows.inside, (List.append_nil draws).symm ▸ follows.tallied⟩

theorem found (follows : Follows families counters kin draws) :
    Follows (families ++ [counters.length]) (counters ++ [.new]) (kin.add .founds)
      (draws ++ kin.credit .founds) where
  same := by
    rw [follows.same, follows.founded]
    rfl
  founded := by
    rw [List.length_append, follows.founded]
    rfl
  inside := by
    intro family among
    rw [List.length_append, List.length_singleton]
    rcases List.mem_append.mp among with old | new
    · exact Nat.lt_succ_of_lt (follows.inside family old)
    · rw [List.mem_singleton.mp new]
      exact Nat.lt_succ_self _
  tallied := (List.append_nil draws).symm ▸ follows.tallied.found

theorem join (follows : Follows families counters kin draws) {holder family : Nat}
    (of : families[holder]? = some family) :
    Follows (families ++ [family]) counters (kin.add (.joins holder))
      (draws ++ kin.credit (.joins holder)) where
  same := by
    rw [follows.same] at of ⊢
    simp [Kin.add, of]
  founded := follows.founded
  inside := by
    intro other among
    rcases List.mem_append.mp among with old | new
    · exact follows.inside other old
    · rw [List.mem_singleton.mp new]
      exact follows.inside family (List.mem_of_getElem? of)
  tallied := (List.append_nil draws).symm ▸ follows.tallied

theorem draw (follows : Follows families counters kin draws) {holder family : Nat}
    {counter : SessionCounter} (of : families[holder]? = some family)
    (own : counters[family]? = some counter) :
    Follows families (counters.set family counter.generate.2)
      (kin.add (.draws holder [counter.generate.1]))
      (draws ++ kin.credit (.draws holder [counter.generate.1])) where
  same := follows.same
  founded := List.length_set.trans follows.founded
  inside := by
    intro other among
    rw [List.length_set]
    exact follows.inside other among
  tallied := by
    rw [follows.same] at of
    rw [Kin.credit_draws of]
    exact follows.tallied.draw own

/-- The counter of a holder stands after the draws of the whole family. -/
theorem counter (follows : Follows families counters kin draws) {holder family : Nat}
    (of : kin.families[holder]? = some family) :
    families[holder]? = some family ∧
      counters[family]? = some (.after (idsOf draws family).length) := by
  rw [← follows.same] at of
  have own := List.getElem?_eq_getElem (follows.inside family (List.mem_of_getElem? of))
  exact ⟨of, own.trans (congrArg some (follows.tallied.stands family _ own))⟩

end Follows

namespace Generators

/-- What a reply tells of a command. -/
def deed : Command → Reply → Deed
  | .create, .made _ => .founds
  | .clone generator, .made _ => .joins generator
  | .generate generator, .drawn id => .draws generator [id]
  | _, _ => .nothing

/-- What came of a script. -/
def deeds (g : Generators) (script : List Command) : List Deed :=
  List.zipWith deed script (g.run script)

def after (g : Generators) (script : List Command) : Generators :=
  script.foldl (fun g command => (g.step command).1) g

theorem run_append (g : Generators) (script more : List Command) :
    g.run (script ++ more) = g.run script ++ (g.after script).run more := by
  induction script generalizing g with
  | nil => rfl
  | cons command rest ih => exact congrArg (_ :: ·) (ih _)

theorem length_run (g : Generators) (script : List Command) :
    (g.run script).length = script.length := by
  induction script generalizing g with
  | nil => rfl
  | cons command rest ih => exact congrArg (· + 1) (ih _)

variable {g : Generators} {kin : Kin} {draws : List (Nat × SessionId)}

theorem follows_step (follows : Follows g.families g.counters kin draws) (command : Command) :
    Follows (g.step command).1.families (g.step command).1.counters
      (kin.add (deed command (g.step command).2))
      (draws ++ kin.credit (deed command (g.step command).2)) := by
  cases command with
  | create => exact follows.found
  | clone generator =>
      cases of : g.families[generator]? with
      | none =>
          simp only [step, of]
          exact follows.nothing
      | some family =>
          simp only [step, of]
          exact follows.join of
  | generate generator =>
      cases of : g.families[generator]? with
      | none =>
          simp only [step, of]
          exact follows.nothing
      | some family =>
          have own := List.getElem?_eq_getElem (follows.inside family (List.mem_of_getElem? of))
          simp only [step, of, own]
          exact follows.draw of own

theorem follows_after (follows : Follows g.families g.counters kin draws) (script : List Command) :
    Follows (g.after script).families (g.after script).counters (kin.after (g.deeds script))
      (draws ++ kin.draws (g.deeds script)) := by
  induction script generalizing g kin draws with
  | nil => exact (List.append_nil draws).symm ▸ follows
  | cons command rest ih =>
      have later := ih (follows_step follows command)
      rwa [List.append_assoc] at later

theorem follows_script (script : List Command) :
    Follows (empty.after script).families (empty.after script).counters
      (Kin.nobody.after (empty.deeds script)) (Kin.nobody.draws (empty.deeds script)) :=
  follows_after (g := empty) .nobody script

/-- A call is answered by how many calls its family has answered before. -/
theorem run_generate {script : List Command} {generator family : Nat}
    (of : (Kin.nobody.after (empty.deeds script)).families[generator]? = some family)
    (rest : List Command) :
    (empty.run (script ++ .generate generator :: rest))[script.length]? =
      some (.drawn (SessionId.after (drawnBy family (empty.deeds script)).length)) := by
  obtain ⟨held, own⟩ := (follows_script script).counter of
  rw [run_append, List.getElem?_append_right (Nat.le_of_eq (length_run _ _)), length_run,
    Nat.sub_self]
  change some ((empty.after script).step (.generate generator)).2 = _
  simp only [step, held, own, SessionCounter.generate_after]
  rfl

end Generators

end NetconfGate
