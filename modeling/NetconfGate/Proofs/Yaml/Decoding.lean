import Mathlib.Data.List.Forall2
import NetconfGate.Yaml.Decoding
import NetconfGate.Proofs.Except

/-!
# What is decoded

A decoder succeeds exactly if its node means a scalar that reads as a value, a
sequence or a mapping, as asked for. Places and paths only matter for faults, so
what is decoded is told without them. What a node means is not an alias again,
so it does not matter how often an alias is followed.
-/

namespace NetconfGate.Yaml

variable {α : Type}

/-- As most scalars are written. -/
def Node.plain (mark : Mark) (text : String) : Node := .scalar mark ⟨text.toList, .plain, none⟩

mutual

/-- Whether two nodes are the same, marks included. -/
def Node.same : Node → Node → Bool
  | .scalar mark s, .scalar mark' s' => mark = mark' ∧ s = s'
  | .sequence mark items, .sequence mark' items' => mark = mark' ∧ Node.sameItems items items'
  | .mapping mark entries, .mapping mark' entries' => mark = mark' ∧ Node.sameEntries entries entries'
  | .alias number, .alias number' => number = number'
  | .missing, .missing => true
  | _, _ => false

def Node.sameItems : List Node → List Node → Bool
  | [], [] => true
  | item :: rest, item' :: rest' => item.same item' && Node.sameItems rest rest'
  | _, _ => false

def Node.sameEntries : List (Node × Node) → List (Node × Node) → Bool
  | [], [] => true
  | (key, value) :: rest, (key', value') :: rest' =>
      key.same key' && value.same value' && Node.sameEntries rest rest'
  | _, _ => false

end

mutual

theorem Node.same_iff (node other : Node) : node.same other ↔ node = other := by
  cases node with
  | sequence mark items => cases other <;> simp [Node.same, Node.sameItems_iff items]
  | mapping mark entries => cases other <;> simp [Node.same, Node.sameEntries_iff entries]
  | _ => cases other <;> simp [Node.same]

theorem Node.sameItems_iff (items others : List Node) : Node.sameItems items others ↔ items = others := by
  cases items with
  | nil => cases others <;> simp [Node.sameItems]
  | cons item rest =>
      cases others <;> simp [Node.sameItems, Node.same_iff item, Node.sameItems_iff rest]

theorem Node.sameEntries_iff (entries others : List (Node × Node)) :
    Node.sameEntries entries others ↔ entries = others := by
  match entries with
  | [] => cases others <;> simp [Node.sameEntries]
  | (key, value) :: rest =>
      cases others <;>
        simp [Node.sameEntries, Node.same_iff key, Node.same_iff value, Node.sameEntries_iff rest,
          Prod.ext_iff]

end

instance : DecidableEq Node := fun node other => decidable_of_iff _ (Node.same_iff node other)

namespace Document

/-- No alias stands for an alias. -/
def Firm (anchors : List (Nat × Node)) : Prop := ∀ p ∈ anchors, ∀ other, p.2 ≠ .alias other

theorem Firm.append {first second : List (Nat × Node)} (left : Firm first) (right : Firm second) :
    Firm (first ++ second) := by
  intro p member
  rcases List.mem_append.mp member with inFirst | inSecond
  · exact left p inFirst
  · exact right p inSecond

theorem Firm.number {node : Node} {inner : List (Nat × Node)} (anchor : Option Nat)
    (named : ∀ other, node ≠ .alias other) (firm : Firm inner) :
    Firm (Document.number anchor node inner) := by
  refine Firm.append ?_ firm
  cases anchor with
  | none => nofun
  | some n =>
      intro p member
      obtain rfl := List.mem_singleton.mp member
      exact named

/-- The recursion is that of the reader: a node has items or entries, and these have nodes. -/
theorem firm_read (fuel : Nat) :
    (∀ parts, Firm (readNode fuel parts).2.1) ∧ (∀ parts, Firm (readItems fuel parts).2.1) ∧
      ∀ parts, Firm (readEntries fuel parts).2.1 := by
  induction fuel with
  | zero =>
      refine ⟨fun parts => ?_, fun parts => ?_, fun parts => ?_⟩
      · unfold readNode; nofun
      · unfold readItems; nofun
      · unfold readEntries; nofun
  | succ fuel ih =>
      obtain ⟨nodes, items, entries⟩ := ih
      refine ⟨fun parts => ?_, fun parts => ?_, fun parts => ?_⟩
      · match parts with
        | [] => nofun
        | (.scalar anchor value, mark) :: rest => exact Firm.number anchor nofun nofun
        | (.sequence anchor, mark) :: rest => exact Firm.number anchor nofun (items rest)
        | (.mapping anchor, mark) :: rest => exact Firm.number anchor nofun (entries rest)
        | (.alias number, mark) :: rest => nofun
        | (.close, mark) :: rest => nofun
      · unfold readItems
        split
        · nofun
        · nofun
        · nofun
        · rename_i parts _ _ _ same _ _
          cases same
          exact (nodes parts).append (items (readNode fuel parts).2.2)
      · unfold readEntries
        split
        · nofun
        · nofun
        · nofun
        · rename_i parts _ _ _ same _ _
          cases same
          exact ((nodes parts).append (nodes (readNode fuel parts).2.2)).append
            (entries (readNode fuel (readNode fuel parts).2.2).2.2)

/-- What is meant means itself. -/
def Settled (d : Document) : Prop := ∀ node, d.resolve (d.resolve node) = d.resolve node

theorem settled_of_firm {d : Document} (firm : Firm d.anchors) : d.Settled := by
  intro node
  match node with
  | .scalar _ _ | .sequence _ _ | .mapping _ _ | .missing => rfl
  | .alias number =>
      change d.resolve ((d.anchors.reverse.lookup number).getD .missing) =
        (d.anchors.reverse.lookup number).getD .missing
      cases found : d.anchors.reverse.lookup number with
      | none => rfl
      | some meant =>
          obtain ⟨before, after, split, _⟩ := List.lookup_eq_some_iff.mp found
          have member : (number, meant) ∈ d.anchors := by
            rw [← List.mem_reverse, split]
            exact List.mem_append_right _ List.mem_cons_self
          match meant with
          | .scalar _ _ | .sequence _ _ | .mapping _ _ | .missing => rfl
          | .alias other => exact absurd rfl (firm _ member other)

theorem settled_ofContents (c : Contents) : (ofContents c).Settled :=
  settled_of_firm ((firm_read (2 * c.parts.length + 2)).1 c.parts)

theorem settled_ofText (text : String) : (ofText text).Settled := settled_ofContents _

end Document

namespace Scalar

/-- Left empty or one of the words for nothing, where no other type is asked for. -/
def isNull (s : Scalar) : Bool :=
  s.style = .plain &&
    if s.tag = none then s.text.isEmpty || Value.isNull s.text
    else s.tag = nullTag && Value.isNull s.text

/-- A tag that asks for nothing where there is something. -/
def isRefused (s : Scalar) : Bool :=
  s.style = .plain && s.tag = nullTag && !Value.isNull s.text

/-- A scalar as a value that may be left out. -/
def optional? (read : Scalar → Option α) (s : Scalar) : Option (Option α) :=
  if s.isRefused then none
  else if s.isNull then some none
  else (read s).map some

/-- A number of 64 bits. -/
def unsigned? (s : Scalar) : Option Nat :=
  if Decoding.holdsNumber s then Value.unsigned? (Nat.pow 2 64) s.text else none

end Scalar

namespace Document

/-- The scalar that a node means, if it means one. -/
def scalar? (d : Document) (node : Node) : Option Scalar :=
  match d.resolve node with
  | .scalar _ s => some s
  | _ => none

/-- The text of a scalar, whatever its tag. -/
def text? (d : Document) (node : Node) : Option String :=
  (d.scalar? node).map fun s => String.ofList s.text

/-- What a node says where a value may be left out. -/
def value? (d : Document) (read : Scalar → Option α) (node : Node) : Option (Option α) :=
  (d.scalar? node).bind (Scalar.optional? read)

variable {d : Document} {node : Node}

theorem scalar?_eq_some_iff {s : Scalar} :
    d.scalar? node = some s ↔ ∃ mark, d.resolve node = .scalar mark s := by
  unfold scalar?
  cases d.resolve node <;> simp

theorem scalar?_resolve (settled : d.Settled) : d.scalar? (d.resolve node) = d.scalar? node := by
  unfold scalar?
  rw [settled node]

/-! ## Rearranged documents -/

/-- One document to its end. -/
def Whole (d : Document) : Prop := d.fault = none ∧ d.followed = false

instance (d : Document) : Decidable d.Whole := inferInstanceAs (Decidable (_ ∧ _))

/-- Nodes of two documents that mean the same but for marks and the order of entries. -/
inductive Alike (d other : Document) : Node → Node → Prop
  | scalar {node twin : Node} {mark mark' : Mark} {s : Scalar}
      (here : d.resolve node = .scalar mark s) (there : other.resolve twin = .scalar mark' s) :
      Alike d other node twin
  | sequence {node twin : Node} {mark mark' : Mark} {items twins : List Node}
      (here : d.resolve node = .sequence mark items)
      (there : other.resolve twin = .sequence mark' twins)
      (each : List.Forall₂ (Alike d other) items twins) : Alike d other node twin
  | mapping {node twin : Node} {mark mark' : Mark} {entries moved twins : List (Node × Node)}
      (here : d.resolve node = .mapping mark entries)
      (there : other.resolve twin = .mapping mark' twins) (order : entries.Perm moved)
      (keys : List.Forall₂ (Alike d other) (moved.map Prod.fst) (twins.map Prod.fst))
      (values : List.Forall₂ (Alike d other) (moved.map Prod.snd) (twins.map Prod.snd)) :
      Alike d other node twin

/-- Both say the same, in whatever order. -/
structure Rearranged (d other : Document) : Prop where
  whole : d.Whole
  twin : other.Whole
  root : Alike d other d.root other.root

variable {other : Document} {twin : Node}

theorem Alike.scalar?_eq (alike : Alike d other node twin) :
    d.scalar? node = other.scalar? twin := by
  unfold scalar?
  cases alike with
  | scalar here there => rw [here, there]
  | sequence here there => rw [here, there]
  | mapping here there => rw [here, there]

theorem Alike.text?_eq (alike : Alike d other node twin) : d.text? node = other.text? twin := by
  unfold text?
  rw [alike.scalar?_eq]

theorem Alike.value?_eq (alike : Alike d other node twin) (read : Scalar → Option α) :
    d.value? read node = other.value? read twin := by
  unfold value?
  rw [alike.scalar?_eq]

/-- What depends on keys and values alone is the same of all entries. -/
theorem map_eq_of_alike {β : Type} {f g : Node × Node → β} {entries twins : List (Node × Node)}
    (same : ∀ e e', Alike d other e.1 e'.1 → Alike d other e.2 e'.2 → f e = g e')
    (keys : List.Forall₂ (Alike d other) (entries.map Prod.fst) (twins.map Prod.fst))
    (values : List.Forall₂ (Alike d other) (entries.map Prod.snd) (twins.map Prod.snd)) :
    entries.map f = twins.map g := by
  induction entries generalizing twins with
  | nil =>
      cases twins with
      | nil => rfl
      | cons => cases keys
  | cons e rest ih =>
      cases twins with
      | nil => cases keys
      | cons e' rest' =>
          cases keys with
          | cons key keys =>
          cases values with
          | cons value values => rw [List.map_cons, List.map_cons, same e e' key value, ih keys values]

end Document

namespace Decoding

variable {d : Document} {path : Option String} {expected : String} {node : Node}

theorem mismatch_ne_ok {a : α} : mismatch node path expected d ≠ .ok a := by
  unfold mismatch
  split
  · split <;> nofun
  · nofun
  · nofun
  · nofun
  · nofun

theorem text_eq_ok_iff {text : List Char} {mark : Mark} :
    Decoding.text d path expected node = .ok (text, mark) ↔
      ∃ s, d.resolve node = .scalar mark s ∧ s.text = text := by
  unfold Decoding.text
  split
  · next at_ s found =>
      rw [found]
      constructor
      · intro same
        cases same
        exact ⟨s, rfl, rfl⟩
      · rintro ⟨other, same, rfl⟩
        cases same
        rfl
  · next other =>
      refine iff_of_false mismatch_ne_ok ?_
      rintro ⟨s, same, _⟩
      exact other mark s same

theorem text?_eq_some_iff {text : String} :
    d.text? node = some text ↔ ∃ chars mark,
      Decoding.text d path expected node = .ok (chars, mark) ∧ String.ofList chars = text := by
  unfold Document.text?
  rw [Option.map_eq_some_iff]
  constructor
  · rintro ⟨s, found, same⟩
    obtain ⟨mark, meant⟩ := Document.scalar?_eq_some_iff.mp found
    exact ⟨s.text, mark, text_eq_ok_iff.mpr ⟨s, meant, rfl⟩, same⟩
  · rintro ⟨chars, mark, read, same⟩
    obtain ⟨s, meant, rfl⟩ := text_eq_ok_iff.mp read
    exact ⟨s, Document.scalar?_eq_some_iff.mpr ⟨mark, meant⟩, same⟩

/-- A decoder of scalars that depends on what they read as alone. -/
def Decodes (d : Document) (decode : Node → Except Fault α) (read : Scalar → Option α) : Prop :=
  ∀ node a, decode node = .ok a ↔ (d.scalar? node).bind read = some a

theorem decodes_number (d : Document) (path : Option String) (expected : String) :
    Decodes d (number d path expected) Scalar.unsigned? := by
  intro node n
  unfold number Document.scalar?
  cases d.resolve node with
  | scalar mark s =>
      have reads : (if holdsNumber s then Value.unsigned? (Nat.pow 2 64) s.text else none) =
        s.unsigned? := rfl
      dsimp only
      rw [reads, Option.bind_some]
      cases s.unsigned? with
      | none => simp [mismatch_ne_ok]
      | some m => simp
  | _ => simp [mismatch_ne_ok]

/-- A decoder that goes on from the text of a scalar. -/
theorem decodes_of_text {decode : Node → Except Fault α} {read : Scalar → Option α}
    {next : List Char × Mark → Except Fault α}
    (goesOn : ∀ node, decode node = Decoding.text d path expected node >>= next)
    (reads : ∀ s mark a, next (s.text, mark) = .ok a ↔ read s = some a) :
    Decodes d decode read := by
  intro node a
  rw [goesOn, bind_eq_ok_iff, Option.bind_eq_some_iff]
  constructor
  · rintro ⟨⟨text, mark⟩, found, made⟩
    obtain ⟨s, meant, rfl⟩ := text_eq_ok_iff.mp found
    exact ⟨s, Document.scalar?_eq_some_iff.mpr ⟨mark, meant⟩, (reads s mark a).mp made⟩
  · rintro ⟨s, meant, read⟩
    obtain ⟨mark, meant⟩ := Document.scalar?_eq_some_iff.mp meant
    exact ⟨(s.text, mark), text_eq_ok_iff.mpr ⟨s, meant, rfl⟩, (reads s mark a).mpr read⟩

theorem isAbsent_eq_ok_iff {outer : Spot} {s : Scalar} {absent : Bool} :
    isAbsent outer s = .ok absent ↔ s.isRefused = false ∧ s.isNull = absent := by
  have named : Scalar.nullTag ≠ none := nofun
  unfold isAbsent Scalar.isRefused Scalar.isNull
  by_cases plain : s.style = .plain
  · by_cases untagged : s.tag = none
    · simp [plain, untagged, named.symm]
    · by_cases ofNull : s.tag = Scalar.nullTag
      · cases Value.isNull s.text <;> simp [plain, ofNull, named]
      · simp [plain, untagged, ofNull]
  · simp [plain]

theorem optional_eq_ok_iff {outer : Spot} {decode : Node → Except Fault α}
    {read : Scalar → Option α} (settled : d.Settled) (decodes : Decodes d decode read)
    {given : Option α} :
    optional d outer decode node = .ok given ↔ d.value? read node = some given := by
  have mapped {other : Node} : some <$> decode other = .ok given ↔
      ((d.scalar? other).bind read).map some = some given := by
    change (decode other).map some = _ ↔ _
    rw [map_eq_ok_iff, Option.map_eq_some_iff]
    simp only [decodes other]
  unfold optional Document.value?
  cases meant : d.resolve node with
  | scalar mark s =>
      have itself : (d.scalar? (.scalar mark s)).bind read = read s := rfl
      rw [Document.scalar?_eq_some_iff.mpr ⟨mark, meant⟩]
      change isAbsent outer s >>= _ = _ ↔ s.optional? read = _
      rw [bind_eq_ok_iff]
      simp only [isAbsent_eq_ok_iff]
      unfold Scalar.optional?
      cases s.isRefused <;> cases s.isNull <;> simp [mapped, itself]
      exact ⟨fun same => by cases same; rfl, fun same => by cases same; rfl⟩
  | missing =>
      refine iff_of_false nofun ?_
      rw [← Document.scalar?_resolve settled, meant]
      nofun
  | _ =>
      have nothing : d.scalar? node = none := by
        unfold Document.scalar?
        rw [meant]
      dsimp only
      rw [mapped, ← meant, Document.scalar?_resolve settled, nothing]
      rfl

theorem items_eq_ok_iff {nodes : List Node} :
    items d path node = .ok nodes ↔
      (∃ mark, d.resolve node = .sequence mark nodes) ∨
        nodes = [] ∧ ∃ s, d.scalar? node = some s ∧ isEmptyScalar s := by
  unfold items Document.scalar?
  cases d.resolve node with
  | sequence mark given => simp
  | scalar mark s =>
      cases empty : isEmptyScalar s with
      | false => simp [empty, mismatch_ne_ok]
      | true =>
          dsimp only
          rw [if_pos empty]
          constructor
          · intro same
            cases same
            exact .inr ⟨rfl, s, rfl, empty⟩
          · rintro (⟨_, other⟩ | ⟨rfl, _⟩)
            · cases other
            · rfl
  | _ => simp [mismatch_ne_ok]

theorem entries_eq_ok_iff {given : List (Node × Node)} {spot : Spot} :
    entries d path expected node = .ok (given, spot) ↔
      spot.path = path ∧ (d.resolve node = .mapping spot.mark given ∨
        given = [] ∧ ∃ s, d.resolve node = .scalar spot.mark s ∧ isEmptyScalar s) := by
  obtain ⟨place, at_⟩ := spot
  unfold entries
  cases d.resolve node with
  | mapping mark found =>
      simp only [Except.ok.injEq, Prod.mk.injEq, Spot.mk.injEq, Node.mapping.injEq, reduceCtorEq]
      grind
  | scalar mark s =>
      cases empty : isEmptyScalar s with
      | false => simp [empty, mismatch_ne_ok]
      | true =>
          dsimp only
          rw [if_pos empty]
          constructor
          · intro same
            cases same
            exact ⟨rfl, .inr ⟨rfl, s, rfl, empty⟩⟩
          · rintro ⟨rfl, other | ⟨rfl, _, same, _⟩⟩
            · cases other
            · cases same
              rfl
  | _ => simp [mismatch_ne_ok]

/-- Whatever is written for a key, it is a known name. -/
theorem fieldName_eq_ok_iff {outer : Spot} {known : List String} {name : String} :
    (∃ path, fieldName d outer known node = .ok (name, path)) ↔
      d.text? node = some name ∧ name ∈ known := by
  unfold fieldName
  simp only [bind_eq_ok_iff]
  constructor
  · rintro ⟨path, ⟨text, mark⟩, read, made⟩
    dsimp only at made
    split at made
    · next isKnown =>
        cases made
        exact ⟨text?_eq_some_iff.mpr ⟨text, mark, read, rfl⟩, List.contains_iff_mem.mp isKnown⟩
    · cases made
  · rintro ⟨found, isKnown⟩
    obtain ⟨text, mark, read, rfl⟩ := text?_eq_some_iff.mp found
    exact ⟨_, (text, mark), read, if_pos (List.contains_iff_mem.mpr isKnown)⟩

end Decoding

end NetconfGate.Yaml
