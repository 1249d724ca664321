import NetconfGate.FileTree
import NetconfGate.Proofs.Except
import NetconfGate.Proofs.Text.Lines

/-!
# Walks through a growing tree

A tree grows when directories and files come to where nothing was and files get
another content. What a path leads to does not move then: directories and links
stay what they are, and these are all that a walk looks at on its way.
-/

namespace NetconfGate.FileTree

/-- A name of an entry of a directory. -/
structure Plain (name : String) : Prop where
  notHere : ¬(name = "" ∨ name = ".")
  notUp : name ≠ ".."
  short : ¬name.utf8ByteSize > 255

/-- Nothing, a directory or a file. -/
def Firm (found : Option Entity) : Prop := ∀ target, found ≠ some (.link target)

variable {t t' : FileTree} {follow : Bool} {links : Nat} {here l m : Location} {name target : String}
  {rest names : List String}

/-- The steps of a walk that comes to an end. -/
inductive Passes (t : FileTree) (follow : Bool) :
    Nat → Location → List String → Location → Prop where
  | done {links : Nat} {here : Location} : Passes t follow links here [] here
  | stay {links : Nat} {here l : Location} {name : String} {rest : List String}
      (inside : t.node? here = some .directory) (same : name = "" ∨ name = ".")
      (onward : Passes t follow links here rest l) : Passes t follow links here (name :: rest) l
  | up {links : Nat} {here l : Location} {rest : List String}
      (inside : t.node? here = some .directory)
      (onward : Passes t follow links here.dropLast rest l) :
      Passes t follow links here (".." :: rest) l
  | link {links : Nat} {here l : Location} {name target : String} {rest : List String}
      (inside : t.node? here = some .directory) (plain : Plain name)
      (found : t.node? (here ++ [name]) = some (.link target))
      (followed : (follow || !rest.isEmpty) = true)
      (onward : Passes t follow links (startOf target here) (FileTree.names target ++ rest) l) :
      Passes t follow (links + 1) here (name :: rest) l
  | halt {links : Nat} {here : Location} {name target : String} {rest : List String}
      (inside : t.node? here = some .directory) (plain : Plain name)
      (found : t.node? (here ++ [name]) = some (.link target))
      (last : (follow || !rest.isEmpty) = false) :
      Passes t follow links here (name :: rest) (here ++ [name])
  | down {links : Nat} {here l : Location} {name : String} {rest : List String}
      (inside : t.node? here = some .directory) (plain : Plain name)
      (firm : Firm (t.node? (here ++ [name])))
      (onward : Passes t follow links (here ++ [name]) rest l) :
      Passes t follow links here (name :: rest) l

theorem passes_of_walk (walked : t.walk follow links here names = .ok l) :
    Passes t follow links here names l := by
  induction links, here, names using walk.induct t follow with
  | case1 links here =>
      rw [FileTree.walk] at walked
      cases walked
      exact .done
  | case2 links here name rest missing =>
      rw [FileTree.walk, missing] at walked
      cases walked
  | case3 links here name rest content mode file =>
      rw [FileTree.walk, file] at walked
      cases walked
  | case4 links here name rest target link =>
      rw [FileTree.walk, link] at walked
      cases walked
  | case5 links here name rest inside same ih =>
      rw [FileTree.walk, inside] at walked
      simp only [if_pos same] at walked
      exact .stay inside same (ih walked)
  | case6 links here rest inside other ih =>
      rw [FileTree.walk, inside] at walked
      simp only [if_neg other, if_true] at walked
      exact .up inside (ih walked)
  | case7 links here name rest inside notHere notUp long =>
      rw [FileTree.walk, inside] at walked
      simp only [if_neg notHere, if_neg notUp, if_pos long] at walked
      cases walked
  | case8 here name rest inside notHere notUp short target found followed =>
      rw [FileTree.walk, inside] at walked
      simp only [if_neg notHere, if_neg notUp, if_neg short, found, followed, if_true] at walked
      cases walked
  | case9 here name rest inside notHere notUp short target found followed links ih =>
      rw [FileTree.walk, inside] at walked
      simp only [if_neg notHere, if_neg notUp, if_neg short, found, followed, if_true] at walked
      exact .link inside ⟨notHere, notUp, short⟩ found followed (ih walked)
  | case10 links here name rest inside notHere notUp short target found last =>
      rw [FileTree.walk, inside] at walked
      simp only [if_neg notHere, if_neg notUp, if_neg short, found, if_neg last] at walked
      cases walked
      exact .halt inside ⟨notHere, notUp, short⟩ found (Bool.eq_false_iff.mpr last)
  | case11 links here name rest inside notHere notUp short firm ih =>
      rw [FileTree.walk, inside] at walked
      simp only [if_neg notHere, if_neg notUp, if_neg short] at walked
      exact .down inside ⟨notHere, notUp, short⟩ firm (ih walked)

theorem Passes.walk (passes : Passes t follow links here names l) :
    t.walk follow links here names = .ok l := by
  induction passes with
  | done => rw [FileTree.walk]
  | stay inside same _ ih => rw [FileTree.walk, inside]; simp only [if_pos same, ih]
  | up inside _ ih => rw [FileTree.walk, inside]; simp [ih]
  | link inside plain found followed _ ih =>
      rw [FileTree.walk, inside]
      simp only [if_neg plain.notHere, if_neg plain.notUp, if_neg plain.short, found, followed,
        if_true, ih]
  | halt inside plain found last =>
      rw [FileTree.walk, inside]
      simp only [if_neg plain.notHere, if_neg plain.notUp, if_neg plain.short, found, last]
      rfl
  | down inside plain firm _ ih =>
      rw [FileTree.walk, inside]
      simp only [if_neg plain.notHere, if_neg plain.notUp, if_neg plain.short]
      split
      · next target found => exact absurd found (firm target)
      · exact ih

theorem walk_eq_ok_iff :
    t.walk follow links here names = .ok l ↔ Passes t follow links here names l :=
  ⟨passes_of_walk, Passes.walk⟩

/-- A walk that does not end at a link does not depend on whether one would be
followed there. -/
theorem Passes.follows (passes : Passes t false links here names l) (firm : Firm (t.node? l)) :
    Passes t true links here names l := by
  induction passes with
  | done => exact .done
  | stay inside same _ ih => exact .stay inside same (ih firm)
  | up inside _ ih => exact .up inside (ih firm)
  | link inside plain found _ _ ih => exact .link inside plain found rfl (ih firm)
  | halt _ _ found => exact absurd found (firm _)
  | down inside plain clear _ ih => exact .down inside plain clear (ih firm)

/-- Empty names behind those that lead to a directory lead no further. -/
theorem Passes.append_blanks (passes : Passes t true links here names l)
    (inside : t.node? l = some .directory) (count : Nat) :
    Passes t true links here (names ++ List.replicate count "") l := by
  induction passes with
  | done =>
      induction count with
      | zero => exact .done
      | succ count ih => exact .stay inside (.inl rfl) ih
  | stay within same _ ih => exact .stay within same (ih inside)
  | up within _ ih => exact .up within (ih inside)
  | link within plain found _ _ ih =>
      refine .link within plain found rfl ?_
      have further := ih inside
      rwa [List.append_assoc] at further
  | halt _ _ _ last => cases last
  | down within plain firm _ ih => exact .down within plain firm (ih inside)

theorem toList_trimmed (path : String) :
    ∃ count, path.toList = (trimmed path).toList ++ List.replicate count '/' := by
  let slashes := path.toList.reverse.takeWhile (· = '/')
  have same : slashes = List.replicate slashes.length '/' := by
    refine List.eq_replicate_of_mem fun c member => ?_
    have all := List.all_eq_true.mp (List.all_takeWhile (p := (· = '/')) (l := path.toList.reverse))
    exact of_decide_eq_true (all c member)
  have split := List.takeWhile_append_dropWhile (p := (· = '/')) (l := path.toList.reverse)
  refine ⟨slashes.length, ?_⟩
  rw [trimmed, String.toList_ofList, ← List.reverse_replicate, ← same, ← List.reverse_append, split,
    List.reverse_reverse]

theorem names_trimmed (path : String) :
    ∃ count, FileTree.names path = FileTree.names (trimmed path) ++ List.replicate count "" := by
  obtain ⟨count, split⟩ := toList_trimmed path
  refine ⟨count, ?_⟩
  rw [FileTree.names, split, Text.pieces_append_replicate, List.map_append, List.map_replicate]
  rfl

/-- What may come of a location in a growing tree. -/
inductive Kept : Option Entity → Option Entity → Prop where
  | same (found : Option Entity) : Kept found found
  | directory : Kept none (some .directory)
  | file (content : Bytes) (mode : Nat) : Kept none (some (.file content mode))
  | refill (content content' : Bytes) (mode mode' : Nat) :
      Kept (some (.file content mode)) (some (.file content' mode'))

namespace Kept

variable {a b c : Option Entity}

theorem trans (first : Kept a b) (second : Kept b c) : Kept a c := by
  cases first with
  | same => exact second
  | directory =>
      cases second with
      | same => exact .directory
  | file content mode =>
      cases second with
      | same => exact .file content mode
      | refill _ content' _ mode' => exact .file content' mode'
  | refill content _ mode _ =>
      cases second with
      | same => exact .refill ..
      | refill _ content' _ mode' => exact .refill content content' mode mode'

theorem directory_of (kept : Kept a b) (inside : a = some .directory) : b = some .directory := by
  cases kept with
  | same => exact inside
  | directory => rfl
  | file => cases inside
  | refill => cases inside

theorem link_of (kept : Kept a b) (found : a = some (.link target)) : b = some (.link target) := by
  cases kept with
  | same => exact found
  | directory => cases found
  | file => cases found
  | refill => cases found

theorem firm_of (kept : Kept a b) (firm : Firm a) : Firm b := by
  intro target found
  cases kept with
  | same => exact firm target found
  | directory => cases found
  | file => cases found
  | refill => cases found

end Kept

/-- Every location is kept. -/
def Grows (t t' : FileTree) : Prop := ∀ l, Kept (t.node? l) (t'.node? l)

theorem Grows.refl (t : FileTree) : Grows t t := fun _ => .same _

theorem Grows.trans {t'' : FileTree} (first : Grows t t') (second : Grows t' t'') : Grows t t'' :=
  fun l => (first l).trans (second l)

/-- A walk that comes to an end comes to the same end in a tree that has grown. -/
theorem Passes.grows (passes : Passes t follow links here names l) (grows : Grows t t') :
    Passes t' follow links here names l := by
  induction passes with
  | done => exact .done
  | stay inside same _ ih => exact .stay ((grows _).directory_of inside) same ih
  | up inside _ ih => exact .up ((grows _).directory_of inside) ih
  | link inside plain found followed _ ih =>
      exact .link ((grows _).directory_of inside) plain ((grows _).link_of found) followed ih
  | halt inside plain found last =>
      exact .halt ((grows _).directory_of inside) plain ((grows _).link_of found) last
  | down inside plain firm _ ih =>
      exact .down ((grows _).directory_of inside) plain ((grows _).firm_of firm) ih

/-- What a path leads to stays there. -/
theorem Grows.locate {path : String} (grows : Grows t t') (located : t.locate follow path = .ok l) :
    t'.locate follow path = .ok l := by
  obtain ⟨_, checked, walked⟩ := bind_eq_ok_iff.mp located
  rw [FileTree.locate, checked]
  exact ((passes_of_walk walked).grows grows).walk

theorem node?_put_of_ne (other : m ≠ l) (n : Entity) : (t.put l n).node? m = t.node? m := by
  have apart : (m == l) = false := beq_eq_false_iff_ne.mpr other
  have kept : ((t.nodes.filter fun entry => entry.1 ≠ l) ++ [(l, n)]).lookup m =
      t.nodes.lookup m := by
    induction t.nodes with
    | nil => simp [List.lookup_cons, apart]
    | cons entry rest ih =>
        obtain ⟨key, value⟩ := entry
        by_cases same : key = l
        · subst same
          simpa [List.lookup_cons, apart] using ih
        · by_cases found : m = key
          · simp [found, same]
          · have distinct : (m == key) = false := beq_eq_false_iff_ne.mpr found
            simpa [same, List.lookup_cons, distinct] using ih
  rw [node?, node?, put, kept]

theorem location_of_node? (found : t.node? l ≠ some .directory) : l ≠ [] ∧ l ≠ home := by
  constructor
  · rintro rfl
    exact found (if_pos (.inl rfl))
  · rintro rfl
    exact found (if_pos (.inr rfl))

theorem node?_put_self (found : t.node? l ≠ some .directory) (n : Entity) :
    (t.put l n).node? l = some n := by
  obtain ⟨notTop, notHome⟩ := location_of_node? found
  exact node?_put t l n notTop notHome

/-- A tree in which one location is kept and the others are the same has grown. -/
theorem grows_put {n : Entity} (found : t.node? l ≠ some .directory)
    (kept : Kept (t.node? l) (some n)) : Grows t (t.put l n) := by
  intro m
  by_cases same : m = l
  · rw [same, node?_put_self found]
    exact kept
  · rw [node?_put_of_ne same]
    exact .same _

end NetconfGate.FileTree
