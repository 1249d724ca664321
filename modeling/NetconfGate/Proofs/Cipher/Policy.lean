import NetconfGate.Cipher.Policy

/-!
# What a cipher policy leaves

A policy is made by excluding more and more. What it leaves of an offer is said
without any search or filter: a sublist of the offer, in which a name occurs as
often as it was offered if none of the excluded texts occurs in it, and not at
all otherwise. There is only one such list.
-/

namespace NetconfGate.CipherPolicy

/-- One exclusion after the other. -/
def excludingAll (policy : CipherPolicy) (chain : List (List String)) : CipherPolicy :=
  chain.foldl withExcluded policy

theorem excluded_excludingAll (policy : CipherPolicy) (chain : List (List String)) :
    (policy.excludingAll chain).excluded = policy.excluded ++ chain.flatten := by
  induction chain generalizing policy with
  | nil => simp [excludingAll]
  | cons names rest ih =>
      have next := ih (policy.withExcluded names)
      simpa [excludingAll, withExcluded] using next

/-- None of the excluded texts occurs in the name. -/
def Allows (policy : CipherPolicy) (name : String) : Prop :=
  ∀ weak ∈ policy.excluded, ¬ weak.toList <:+: name.toList

theorem isExcluded_eq_false_iff {policy : CipherPolicy} {name : String} :
    policy.isExcluded name = false ↔ policy.Allows name := by
  simp [isExcluded, Allows, ← occursIn_iff]

instance (policy : CipherPolicy) (name : String) : Decidable (policy.Allows name) :=
  decidable_of_iff _ isExcluded_eq_false_iff

/-- The order of the offer is kept, and so is the number of times that an
allowed name is offered. -/
structure Leaves (policy : CipherPolicy) (offered left : List String) : Prop where
  sublist : left.Sublist offered
  allowed : ∀ name, policy.Allows name → left.count name = offered.count name
  excluded : ∀ name ∈ left, policy.Allows name

theorem leaves_filtered (policy : CipherPolicy) (offered : List String) :
    policy.Leaves offered (policy.filtered offered) := by
  refine ⟨List.filter_sublist, ?_, ?_⟩
  · intro name allows
    refine List.count_filter ?_
    rw [isExcluded_eq_false_iff.mpr allows]
    rfl
  · intro name member
    exact isExcluded_eq_false_iff.mp (mem_filtered.mp member).2

/-- The empty text occurs in every name. -/
example : (default.withExcluded [""]).filtered ["aes128-ctr", "aes256-ctr"] = [] := by decide

/-- A name that may stay is not passed over, for then it would be there too few
times. -/
theorem Leaves.eq_filtered {policy : CipherPolicy} {offered left : List String}
    (leaves : policy.Leaves offered left) : left = policy.filtered offered := by
  obtain ⟨sublist, allowed, excluded⟩ := leaves
  induction sublist with
  | slnil => rfl
  | @cons left rest name sublist ih =>
      have weak : ¬ policy.Allows name := by
        intro allows
        have same := allowed name allows
        have fewer := sublist.count_le name
        rw [List.count_cons_self] at same
        omega
      have found : policy.isExcluded name = true := by
        rw [← Bool.not_eq_false, isExcluded_eq_false_iff]
        exact weak
      have counts (other : String) (allows : policy.Allows other) :
          left.count other = rest.count other := by
        have different : name ≠ other := fun same => weak (same ▸ allows)
        rw [allowed other allows, List.count_cons_of_ne different]
      rw [ih counts excluded]
      simp [filtered, found]
  | @cons_cons left rest name sublist ih =>
      have free : policy.isExcluded name = false :=
        isExcluded_eq_false_iff.mpr (excluded name List.mem_cons_self)
      have counts (other : String) (allows : policy.Allows other) :
          left.count other = rest.count other := by
        have same := allowed other allows
        rw [List.count_cons, List.count_cons] at same
        omega
      rw [ih counts fun other member => excluded other (List.mem_cons_of_mem _ member)]
      simp [filtered, free]

/-- Only which texts are excluded matters, not how often or in what order. -/
theorem filtered_congr {policy other : CipherPolicy}
    (same : ∀ text, text ∈ policy.excluded ↔ text ∈ other.excluded) (offered : List String) :
    policy.filtered offered = other.filtered offered := by
  have decides (name : String) : policy.isExcluded name = other.isExcluded name := by
    rw [Bool.eq_iff_iff]
    simp only [isExcluded, List.any_eq_true, same]
  simp only [filtered, decides]

/-- One policy after the other excludes what either does. -/
theorem filtered_filtered (policy other : CipherPolicy) (offered : List String) :
    other.filtered (policy.filtered offered) =
      (policy.withExcluded other.excluded).filtered offered := by
  simp only [filtered, List.filter_filter, isExcluded_withExcluded, Bool.not_or]
  exact List.filter_congr fun name _ => Bool.and_comm _ _

/-- A name that contains an excluded one is excluded for the same text. -/
theorem isExcluded_of_infix {policy : CipherPolicy} {name longer : String}
    (within : name.toList <:+: longer.toList) (excluded : policy.isExcluded name = true) :
    policy.isExcluded longer = true := by
  obtain ⟨weak, member, occurs⟩ := List.any_eq_true.mp excluded
  refine List.any_eq_true.mpr ⟨weak, member, ?_⟩
  exact occursIn_iff.mpr ((occursIn_iff.mp occurs).trans within)

/-- For every policy and every offer. Two more lists of exclusions may come in either order
or one after the other, and each of them leaves a part of what there was. A second
filtering changes nothing, and offers may be filtered in pieces. Repeating or reordering
the excluded texts changes nothing, and what is put around an excluded name does not
bring it back. -/
theorem exclusions_compose (policy : CipherPolicy) (a b offered : List String) :
    ((policy.withExcluded a).withExcluded b).filtered offered =
        ((policy.withExcluded b).withExcluded a).filtered offered ∧
      ((policy.withExcluded a).withExcluded b).filtered offered =
        (policy.withExcluded b).filtered ((policy.withExcluded a).filtered offered) ∧
      policy.filtered (policy.filtered offered) = policy.filtered offered ∧
      ((policy.withExcluded a).filtered offered).Sublist (policy.filtered offered) ∧
      (∀ more, policy.filtered (offered ++ more) =
        policy.filtered offered ++ policy.filtered more) ∧
      (∀ other : CipherPolicy, (∀ text, text ∈ other.excluded ↔ text ∈ policy.excluded) →
        other.filtered offered = policy.filtered offered) ∧
      ∀ before name after, policy.isExcluded name = true →
        policy.isExcluded (before ++ name ++ after) = true := by
  refine ⟨?swap, ?inTurn, ?again, ?fewer, fun more => List.filter_append ..,
    fun other same => filtered_congr same offered, ?longer⟩
  case swap =>
    refine filtered_congr (fun text => ?_) offered
    simp only [withExcluded, List.mem_append]
    exact or_right_comm
  case inTurn =>
    rw [filtered_filtered]
    refine filtered_congr (fun text => ?_) offered
    simp only [withExcluded, List.mem_append]
    constructor
    · rintro (before | more)
      · exact Or.inl before
      · exact Or.inr (Or.inr more)
    · rintro (before | before | more)
      · exact Or.inl before
      · exact Or.inl (Or.inl before)
      · exact Or.inr more
  case again =>
    rw [filtered_filtered]
    refine filtered_congr (fun text => ?_) offered
    rw [withExcluded, List.mem_append, or_self_iff]
  case fewer =>
    rw [← filtered_filtered policy ⟨a⟩ offered]
    exact List.filter_sublist
  case longer =>
    intro before name after excluded
    refine isExcluded_of_infix ⟨before.toList, after.toList, ?_⟩ excluded
    rw [String.toList_append, String.toList_append]

/-- The second text is given twice, and the second name only contains it. -/
theorem exclusions_compose_repeated :
    ((default.withExcluded ["cbc"]).withExcluded ["cbc", "gcm"]).filtered
        ["aes128-ctr", "3des-cbc@example.org", "aes256-gcm", "arcfour128"] = ["aes128-ctr"] ∧
      (mk ["gcm", "cbc", "cbc"]).filtered ["3des-cbc", "aes128-ctr"] = ["aes128-ctr"] ∧
      (mk ["cbc"]).isExcluded "x-3des-cbc@example.org" = true := by
  have laws := exclusions_compose (mk ["cbc", "gcm"]) [] [] ["3des-cbc", "aes128-ctr"]
  refine ⟨by decide, ?_, ?_⟩
  · rw [laws.2.2.2.2.2.1 _ (by simp [or_comm])]
    decide
  · exact (exclusions_compose (mk ["cbc"]) [] [] []).2.2.2.2.2.2 "x-" "3des-cbc" "@example.org"
      (by decide)

end NetconfGate.CipherPolicy
