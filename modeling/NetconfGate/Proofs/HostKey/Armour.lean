import NetconfGate.HostKey.Armour
import NetconfGate.Proofs.Encoding.Base64
import NetconfGate.Proofs.HostKey.OpenSsh
import NetconfGate.Proofs.Text.Lines

/-!
# Reading back an armoured key

The text of a generated key holds its opening line, lines of digits only, and its
closing line. No line of digits is taken for one of the others, so all of the
digits are found again, and with them the key.
-/

namespace NetconfGate.HostKey.Armour

theorem isSome_value?_encodeChars (bytes : Bytes) :
    ∀ c ∈ Base64.encodeChars bytes, (Base64.value? c).isSome :=
  Base64.forall_mem_encodeChars (by decide) bytes

/-- Digits that stand for bytes, filled up to four. -/
theorem quartet_eq_ok {kept : List Char} {fill : Nat} {bytes : Bytes}
    (four : kept.length + fill = 4) (enough : 2 ≤ kept.length)
    (valid : ∀ c ∈ kept, (Base64.value? c).isSome) (decoded : Base64.decode? kept = some bytes)
    (place : Nat) : quartet place (kept ++ List.replicate fill '=') = .ok bytes := by
  have stops : kept.reverse.takeWhile (fun c => decide (c = '=')) = [] := by
    cases backwards : kept.reverse with
    | nil => rfl
    | cons c rest =>
        have member : c ∈ kept := List.mem_reverse.mp (by simp [backwards])
        have other : c ≠ '=' := by
          rintro rfl
          exact absurd (valid _ member) (by decide)
        simp [other]
  have padding : ((kept ++ List.replicate fill '=').reverse.takeWhile
      (fun c => decide (c = '='))).length = fill := by
    rw [List.reverse_append, List.reverse_replicate, List.takeWhile_append_of_pos (by simp), stops,
      List.append_nil, List.length_replicate]
  have foreign : kept.findIdx? (fun c => (Base64.value? c).isNone) = none := by
    simpa [List.findIdx?_eq_none_iff] using valid
  rw [quartet, padding]
  have taken : (kept ++ List.replicate fill '=').take (4 - fill) = kept :=
    List.take_left' (by omega)
  simp only [taken, if_neg (Nat.not_lt_of_le enough), foreign, decoded]

/-- The digits of a byte string with their padding. -/
def padded (bytes : Bytes) : List Char :=
  let digits := Base64.encodeChars bytes
  digits ++ List.replicate ((4 - digits.length % 4) % 4) '='

theorem padded_cons (a b c : UInt8) (rest : Bytes) :
    padded (a :: b :: c :: rest) = Base64.encodeChars [a, b, c] ++ padded rest := by
  have turn (n : Nat) : (4 - (n + 1 + 1 + 1 + 1) % 4) % 4 = (4 - n % 4) % 4 := by omega
  simp only [padded, Base64.encodeChars, List.length_cons, turn]
  rfl

/-- One to three bytes make a quartet. -/
theorem quartet_padded (bytes : Bytes) (some_ : 1 ≤ bytes.length) (few : bytes.length ≤ 3)
    (place : Nat) : quartet place (padded bytes) = .ok bytes := by
  have length := Base64.length_encodeChars bytes
  exact quartet_eq_ok (by omega) (by omega) (isSome_value?_encodeChars bytes)
    (Base64.decode?_encodeChars bytes) place

theorem decodeDigits_padded (bytes : Bytes) (place : Nat) :
    decodeDigits place (padded bytes) = .ok bytes := by
  induction bytes using Base64.encodeChars.induct generalizing place with
  | case1 a b c rest ih =>
      have full : padded [a, b, c] = Base64.encodeChars [a, b, c] := by
        simp [padded, Base64.encodeChars]
      have first := quartet_padded [a, b, c] (by simp) (by simp) place
      rw [full] at first
      rw [padded_cons]
      change (quartet place (Base64.encodeChars [a, b, c]) >>= fun bytes =>
        decodeDigits (place + 4) (padded rest) >>= fun tail => pure (bytes ++ tail)) = _
      rw [first, ih]
      rfl
  | case2 a b =>
      have only := quartet_padded [a, b] (by simp) (by simp) place
      change (quartet place (padded [a, b]) >>= fun bytes => pure (bytes ++ [])) = _
      rw [only]
      rfl
  | case3 a =>
      have only := quartet_padded [a] (by simp) (by simp) place
      change (quartet place (padded [a]) >>= fun bytes => pure (bytes ++ [])) = _
      rw [only]
      rfl
  | case4 => rfl

theorem flatten_wrap {width : Nat} (wide : 0 < width) {fuel : Nat} {digits : List Char}
    (enough : digits.length ≤ fuel) : (wrap width fuel digits).flatten = digits := by
  induction fuel generalizing digits with
  | zero =>
      cases digits with
      | nil => rfl
      | cons c rest => exact absurd enough (by simp)
  | succ fuel ih =>
      cases digits with
      | nil => rfl
      | cons c rest =>
          have shorter : ((c :: rest).drop width).length ≤ fuel := by
            rw [List.length_drop]
            rw [List.length_cons] at enough ⊢
            omega
          rw [wrap, if_neg (by simp), List.flatten_cons, ih shorter, List.take_append_drop]

theorem isDigit_of_mem_padded (bytes : Bytes) : ∀ c ∈ padded bytes, isDigit c = true := by
  intro c member
  rcases List.mem_append.mp member with digit | filling
  · rw [isDigit, isSome_value?_encodeChars bytes c digit, Bool.true_or]
  · obtain ⟨_, rfl⟩ := List.mem_replicate.mp filling
    decide

/-- A line of digits neither opens nor ends a key. -/
theorem scan_cons {line : List Char} (digits : ∀ c ∈ line, isDigit c = true) (s : Scan)
    (rest : List (List Char)) :
    scan true s (line :: rest) = scan true { s with digits := s.digits ++ line } rest := by
  have dashless : '-' ∉ line := fun member => absurd (digits _ member) (by decide)
  have within : closing.isPrefixOf line = false := by
    refine Bool.eq_false_iff.mpr fun starts => dashless ?_
    exact (List.isPrefixOf_iff_prefix.mp starts).subset (by decide)
  have unknown : opening.lookup (String.ofList line) = none := by
    have dashed : ∀ entry ∈ opening, '-' ∈ entry.1.toList := by decide
    refine List.lookup_eq_none_iff.mpr fun entry known => bne_iff_ne.mpr fun same => dashless ?_
    rw [← String.toList_ofList (l := line), same]
    exact dashed entry known
  have all : line.all isDigit = true := List.all_eq_true.mpr digits
  rw [scan, within, all]
  simp only [unknown]
  rfl

theorem scan_append {body : List (List Char)} (digits : ∀ line ∈ body, ∀ c ∈ line, isDigit c = true)
    (s : Scan) (rest : List (List Char)) :
    scan true s (body ++ rest) = scan true { s with digits := s.digits ++ body.flatten } rest := by
  induction body generalizing s with
  | nil => rw [List.nil_append, List.flatten_nil, List.append_nil]
  | cons line body ih =>
      obtain ⟨first, others⟩ := List.forall_mem_cons.mp digits
      rw [List.cons_append, scan_cons first, ih others, List.flatten_cons, List.append_assoc]

/-- The lines of digits of a byte string. -/
def bodyLines (bytes : Bytes) : List (List Char) := wrap 70 ((padded bytes).length + 1) (padded bytes)

theorem flatten_bodyLines (bytes : Bytes) : (bodyLines bytes).flatten = padded bytes :=
  flatten_wrap (by decide) (Nat.le_succ _)

theorem isDigit_of_mem_bodyLines {bytes : Bytes} :
    ∀ line ∈ bodyLines bytes, ∀ c ∈ line, isDigit c = true := by
  intro line written c member
  apply isDigit_of_mem_padded bytes
  rw [← flatten_bodyLines]
  exact List.mem_flatten.mpr ⟨line, written, member⟩

theorem toList_encode (check : Nat) (k : HostKey) :
    (encode check k).toList = Text.unlines
      (firstLine.toList :: (bodyLines (OpenSsh.encode check k) ++ [lastLine.toList])) := by
  have digits : (Base64.encodePadded (OpenSsh.encode check k)).toList =
      padded (OpenSsh.encode check k) := by
    rw [Base64.encodePadded, String.toList_ofList, padded]
  have ended : "\n".toList = ['\n'] := by decide
  simp only [encode, digits, String.toList_join, Text.unlines, bodyLines, List.map_append,
    List.map_cons, List.map_nil, List.map_map, List.flatMap_append, List.flatMap_cons,
    List.flatMap_nil, List.flatMap_map, String.toList_append, ended, Function.comp_apply,
    String.toList_ofList, List.cons_append, List.append_assoc]

/-- None of the lines holds the end of a line. -/
theorem not_mem_lines {c : Char} (foreign : isDigit c = false) (first : c ∉ firstLine.toList)
    (last : c ∉ lastLine.toList) (bytes : Bytes) :
    ∀ line ∈ firstLine.toList :: (bodyLines bytes ++ [lastLine.toList]), c ∉ line := by
  intro line written
  rcases List.mem_cons.mp written with rfl | later
  · exact first
  rcases List.mem_append.mp later with body | final
  · intro member
    rw [isDigit_of_mem_bodyLines line body c member] at foreign
    cases foreign
  · rw [List.mem_singleton.mp final]
    exact last

theorem lines_encode (check : Nat) (k : HostKey) :
    Text.lines (encode check k).toList =
      firstLine.toList :: (bodyLines (OpenSsh.encode check k) ++ [lastLine.toList]) := by
  rw [toList_encode]
  exact Text.lines_unlines (not_mem_lines (by decide) (by decide) (by decide) _)
    (not_mem_lines (by decide) (by decide) (by decide) _)

theorem scan_encode (check : Nat) (k : HostKey) :
    scan false ⟨none, []⟩ (Text.lines (encode check k).toList) =
      .ok ⟨some .openSsh, padded (OpenSsh.encode check k)⟩ := by
  have opened (rest : List (List Char)) :
      scan false ⟨none, []⟩ (firstLine.toList :: rest) = scan true ⟨some .openSsh, []⟩ rest := by
    rw [scan]
    simp only [Bool.false_and, String.ofList_toList]
    rfl
  have ended : closing.isPrefixOf lastLine.toList = true := by decide
  rw [lines_encode, opened, scan_append isDigit_of_mem_bodyLines, flatten_bodyLines, scan, ended]
  rfl

theorem decode_of_scan {text : String} {digits : List Char} {bytes : Bytes} {key : HostKey}
    (other : puttyMark.isPrefixOf (Text.trimStart text.toList) = false)
    (found : scan false ⟨none, []⟩ (Text.lines text.toList) = .ok ⟨some .openSsh, digits⟩)
    (spelled : decodeDigits 0 digits = .ok bytes)
    (held : OpenSsh.decode bytes = .ok (.plain key)) : decode text = .ok key := by
  unfold decode
  simp only [other, found, spelled, bind, Except.bind, held]
  rfl

/-- A dash opens the text, so it is not in the PuTTY form. -/
theorem not_putty_of_dash {text : List Char} (dash : text.head? = some '-') :
    puttyMark.isPrefixOf (Text.trimStart text) = false := by
  obtain ⟨rest, rfl⟩ := List.head?_eq_some_iff.mp dash
  have kept : Text.trimStart ('-' :: rest) = '-' :: rest :=
    List.dropWhile_cons_of_neg (by decide)
  have mark : puttyMark.head? = some 'P' := by decide
  obtain ⟨marked, same⟩ := List.head?_eq_some_iff.mp mark
  rw [kept, same]
  rfl

/-- A generated key is read back from its text. -/
theorem decode_encode (check : Nat) {seed : Bytes} (seeded : seed.length = 32) :
    decode (encode check (ofSeed seed)) = .ok (ofSeed seed) := by
  have dash : (encode check (ofSeed seed)).toList.head? = some '-' := by
    have first : firstLine.toList.head? = some '-' := by decide
    obtain ⟨rest, same⟩ := List.head?_eq_some_iff.mp first
    rw [toList_encode, same]
    rfl
  exact decode_of_scan (not_putty_of_dash dash) (scan_encode check _)
    (decodeDigits_padded _ 0) (OpenSsh.decode_encode check seeded)

end NetconfGate.HostKey.Armour
