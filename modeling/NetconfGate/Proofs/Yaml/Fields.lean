import Mathlib.Data.List.Nodup
import Mathlib.Data.List.Perm.Basic
import Mathlib.Logic.Function.Basic
import NetconfGate.Proofs.Except

/-!
# Mappings that fill in fields

Each key of such a mapping is the name of a field, no two keys are the same, and
each value reads as one of its field. A loop over the entries that gives up at
an unknown key, at a repeated one and at a value that does not read succeeds on
these mappings and on no others. What it ends with says which fields were given
and does not depend on the order of the entries.
-/

namespace NetconfGate.Yaml

variable {κ ε σ φ : Type} {Value : κ → Type}

/-- The text of an entry's key, and what its value reads as in each field. -/
structure Said (Value : κ → Type) where
  key : Option String
  reads : (field : κ) → Value field → Prop

/-- The mapping fills in fields, and `values` are those that it gives. -/
structure Fills (name : κ → String) (entries : List (Said Value))
    (values : (field : κ) → Value field) : Prop where
  known : ∀ e ∈ entries, ∃ field, e.key = some (name field)
  once : (entries.map Said.key).Nodup
  given : ∀ e ∈ entries, ∀ field, e.key = some (name field) → e.reads field (values field)

/-- No key is the name of the field. -/
def Omits (name : κ → String) (entries : List (Said Value)) (field : κ) : Prop :=
  ∀ e ∈ entries, e.key ≠ some (name field)

/-- Fields without a key are as they were before. -/
structure Describes (name : κ → String) (entries : List (Said Value))
    (before values : (field : κ) → Value field) : Prop extends Fills name entries values where
  absent : ∀ field, Omits name entries field → values field = before field

/-- Values for the fields can be read from the mapping. -/
structure Admissible (name : κ → String) (entries : List (Said Value)) : Prop where
  known : ∀ e ∈ entries, ∃ field, e.key = some (name field)
  once : (entries.map Said.key).Nodup
  decodes : ∀ e ∈ entries, ∀ field, e.key = some (name field) → ∃ value, e.reads field value

variable {name : κ → String} {entries moved rest : List (Said Value)} {e : Said Value}
variable {before values : (field : κ) → Value field}

theorem fills_perm (perm : entries.Perm moved) :
    Fills name entries values ↔ Fills name moved values := by
  have onward {one other : List (Said Value)} (same : one.Perm other)
      (f : Fills name one values) : Fills name other values :=
    ⟨fun e member => f.known e (same.mem_iff.mpr member), (same.map Said.key).nodup_iff.mp f.once,
      fun e member => f.given e (same.mem_iff.mpr member)⟩
  exact ⟨onward perm, onward perm.symm⟩

theorem omits_perm (perm : entries.Perm moved) {field : κ} :
    Omits name entries field ↔ Omits name moved field := by
  unfold Omits
  simp only [perm.mem_iff]

theorem describes_iff : Describes name entries before values ↔
    Fills name entries values ∧ ∀ field, Omits name entries field → values field = before field :=
  ⟨fun d => ⟨d.toFills, d.absent⟩, fun ⟨fills, absent⟩ => ⟨fills, absent⟩⟩

theorem describes_perm (perm : entries.Perm moved) :
    Describes name entries before values ↔ Describes name moved before values := by
  rw [describes_iff, describes_iff, fills_perm perm]
  simp only [omits_perm perm]

theorem omits_of_once {field : κ} (once : ((e :: rest).map Said.key).Nodup)
    (named : e.key = some (name field)) : Omits name rest field := by
  intro other member same
  exact (List.nodup_cons.mp once).1 (List.mem_map.mpr ⟨other, member, same.trans named.symm⟩)

theorem omits_cons {field : κ} :
    Omits name (e :: rest) field ↔ e.key ≠ some (name field) ∧ Omits name rest field :=
  List.forall_mem_cons

variable [DecidableEq κ]

/-- The first entry gives its field a value, which the others leave as it is. -/
theorem describes_cons (distinct : Function.Injective name) :
    Describes name (e :: rest) before values ↔
      ∃ field, e.key = some (name field) ∧ e.reads field (values field) ∧ Omits name rest field ∧
        Describes name rest (Function.update before field (values field)) values := by
  constructor
  · intro d
    obtain ⟨field, named⟩ := d.known e List.mem_cons_self
    refine ⟨field, named, d.given e List.mem_cons_self field named, omits_of_once d.once named, ?_⟩
    refine ⟨⟨(List.forall_mem_cons.mp d.known).2, (List.nodup_cons.mp d.once).2,
      (List.forall_mem_cons.mp d.given).2⟩, fun other without => ?_⟩
    by_cases same : other = field
    · subst same
      rw [Function.update_self]
    · rw [Function.update_of_ne same]
      refine d.absent other (omits_cons.mpr ⟨fun isNamed => same ?_, without⟩)
      exact distinct (Option.some.inj (isNamed.symm.trans named))
  · rintro ⟨field, named, reads, omitted, d⟩
    refine ⟨⟨?_, ?_, ?_⟩, fun other without => ?_⟩
    · exact List.forall_mem_cons.mpr ⟨⟨field, named⟩, d.known⟩
    · refine List.nodup_cons.mpr ⟨fun again => ?_, d.once⟩
      obtain ⟨other, member, same⟩ := List.mem_map.mp again
      exact omitted other member (same.trans named)
    · refine List.forall_mem_cons.mpr ⟨fun other isNamed => ?_, d.given⟩
      obtain rfl := distinct (Option.some.inj (isNamed.symm.trans named))
      exact reads
    · obtain ⟨unnamed, without⟩ := omits_cons.mp without
      rw [d.absent other without, Function.update_of_ne]
      rintro rfl
      exact unnamed named

theorem exists_describes (distinct : Function.Injective name) (before : (field : κ) → Value field) :
    (∃ values, Describes name entries before values) ↔ Admissible name entries := by
  constructor
  · rintro ⟨values, d⟩
    exact ⟨d.known, d.once, fun e member field named => ⟨_, d.given e member field named⟩⟩
  · intro admissible
    induction entries generalizing before with
    | nil => exact ⟨before, ⟨nofun, .nil, nofun⟩, fun _ _ => rfl⟩
    | cons e rest ih =>
        obtain ⟨⟨field, named⟩, known⟩ := List.forall_mem_cons.mp admissible.known
        obtain ⟨decodes, others⟩ := List.forall_mem_cons.mp admissible.decodes
        obtain ⟨value, reads⟩ := decodes field named
        have admitted : Admissible name rest := ⟨known, (List.nodup_cons.mp admissible.once).2, others⟩
        obtain ⟨values, d⟩ := ih (Function.update before field value) admitted
        have omitted : Omits name rest field := omits_of_once admissible.once named
        have kept : values field = value := by
          rw [d.absent field omitted, Function.update_self]
        subst kept
        exact ⟨values, (describes_cons distinct).mpr ⟨field, named, reads, omitted, d⟩⟩

/-- A state shows a value for each field and which fields have been given. -/
structure Slots (σ : Type) (Value : κ → Type) where
  get : σ → (field : κ) → Value field
  has : σ → κ → Prop
  put : σ → (field : κ) → Value field → σ

/-- A step puts the value of a field that was not given before, and does nothing else. -/
structure Slots.Strict (slots : Slots σ Value) (name : κ → String) (said : ε → Said Value)
    (step : σ → ε → Except φ σ) : Prop where
  step : ∀ s e next, step s e = .ok next ↔
    ∃ field value, (said e).key = some (name field) ∧ ¬slots.has s field ∧
      (said e).reads field value ∧ next = slots.put s field value
  get : ∀ s field value,
    slots.get (slots.put s field value) = Function.update (slots.get s) field value
  has : ∀ s e field value, (said e).reads field value → ∀ other,
    slots.has (slots.put s field value) other ↔ other = field ∨ slots.has s other

/-- None of the keys names a field that has been given. -/
def Slots.Free (slots : Slots σ Value) (name : κ → String) (s : σ) (entries : List (Said Value)) :
    Prop :=
  ∀ field, slots.has s field → Omits name entries field

/-- The state that the loop starts from shows the values of the fields that are left out. -/
theorem Slots.Strict.run {slots : Slots σ Value} {said : ε → Said Value}
    {step : σ → ε → Except φ σ} (strict : slots.Strict name said step)
    (distinct : Function.Injective name) {items : List ε} {s : σ} :
    (∃ last, items.foldlM step s = .ok last ∧ slots.get last = values) ↔
      Describes name (items.map said) (slots.get s) values ∧
        slots.Free name s (items.map said) := by
  induction items generalizing s with
  | nil =>
      constructor
      · rintro ⟨last, same, rfl⟩
        cases same
        exact ⟨⟨⟨nofun, .nil, nofun⟩, fun _ _ => rfl⟩, fun _ _ => nofun⟩
      · rintro ⟨d, _⟩
        exact ⟨s, rfl, funext fun field => (d.absent field nofun).symm⟩
  | cons item rest ih =>
      rw [List.map_cons, describes_cons distinct]
      simp only [List.foldlM_cons, bind_eq_ok_iff]
      constructor
      · rintro ⟨last, ⟨next, made, folded⟩, shown⟩
        obtain ⟨field, value, named, unset, reads, rfl⟩ := (strict.step s item next).mp made
        have has := strict.has s item field value reads
        obtain ⟨d, free⟩ := ih.mp ⟨last, folded, shown⟩
        have omitted : Omits name (rest.map said) field := free field ((has field).mpr (.inl rfl))
        -- No later key names the field, so what was put is what the end shows.
        have kept : values field = value := by
          rw [d.absent field omitted, strict.get, Function.update_self]
        subst kept
        rw [strict.get] at d
        refine ⟨⟨field, named, reads, omitted, d⟩, fun other given => ?_⟩
        refine omits_cons.mpr ⟨fun isNamed => ?_, free other ((has other).mpr (.inr given))⟩
        obtain rfl := distinct (Option.some.inj (isNamed.symm.trans named))
        exact unset given
      · rintro ⟨⟨field, named, reads, omitted, d⟩, free⟩
        have unset : ¬slots.has s field := fun given => (omits_cons.mp (free field given)).1 named
        rw [← strict.get] at d
        have stillFree : slots.Free name (slots.put s field (values field)) (rest.map said) := by
          intro other given
          rcases (strict.has s item field (values field) reads other).mp given with rfl | given
          · exact omitted
          · exact (omits_cons.mp (free other given)).2
        obtain ⟨last, folded, shown⟩ := ih.mpr ⟨d, stillFree⟩
        exact ⟨last, ⟨_, (strict.step s item _).mpr ⟨field, _, named, unset, reads, rfl⟩, folded⟩,
          shown⟩

end NetconfGate.Yaml
