import NetconfGate.Encoding.Base64

/-!
# What base 64 spells

The 64 digits stand for the numbers below 64, each for its own. So the digits of
a byte string decode to it, with no bits left over.
-/

namespace NetconfGate.Base64

theorem value?_digit {value : Nat} (small : value < 64) : value? (digit value) = some value := by
  revert value
  decide

theorem toUInt8_eq {value : Nat} {byte : UInt8} (same : value = byte.toNat) :
    value.toUInt8 = byte := by
  subst same
  exact UInt8.ofNat_toNat

theorem decode?_quartet (a b c : UInt8) (digits : List Char) :
    decode? (digit (a.toNat / 4) :: digit (a.toNat % 4 * 16 + b.toNat / 16)
      :: digit (b.toNat % 16 * 4 + c.toNat / 64) :: digit (c.toNat % 64) :: digits) =
      (decode? digits).map fun rest => a :: b :: c :: rest := by
  have boundA := a.toNat_lt
  have boundB := b.toNat_lt
  have boundC := c.toNat_lt
  have first : (a.toNat / 4 * 4 + (a.toNat % 4 * 16 + b.toNat / 16) / 16).toUInt8 = a :=
    toUInt8_eq (by omega)
  have second : ((a.toNat % 4 * 16 + b.toNat / 16) % 16 * 16
      + (b.toNat % 16 * 4 + c.toNat / 64) / 4).toUInt8 = b := toUInt8_eq (by omega)
  have third : ((b.toNat % 16 * 4 + c.toNat / 64) % 4 * 64 + c.toNat % 64).toUInt8 = c :=
    toUInt8_eq (by omega)
  rw [decode?, value?_digit (by omega), value?_digit (by omega), value?_digit (by omega),
    value?_digit (by omega)]
  simp only [Option.bind_eq_bind, Option.bind_some, Option.pure_def, first, second, third]
  cases decode? digits <;> rfl

theorem decode?_three (a b : UInt8) :
    decode? [digit (a.toNat / 4), digit (a.toNat % 4 * 16 + b.toNat / 16),
      digit (b.toNat % 16 * 4)] = some [a, b] := by
  have boundA := a.toNat_lt
  have boundB := b.toNat_lt
  have first : (a.toNat / 4 * 4 + (a.toNat % 4 * 16 + b.toNat / 16) / 16).toUInt8 = a :=
    toUInt8_eq (by omega)
  have second : ((a.toNat % 4 * 16 + b.toNat / 16) % 16 * 16 + b.toNat % 16 * 4 / 4).toUInt8 = b :=
    toUInt8_eq (by omega)
  have even : b.toNat % 16 * 4 % 4 = 0 := by omega
  rw [decode?, value?_digit (by omega), value?_digit (by omega), value?_digit (by omega)]
  simp only [Option.bind_eq_bind, Option.bind_some, Option.pure_def, even, if_true, first, second]

theorem decode?_two (a : UInt8) :
    decode? [digit (a.toNat / 4), digit (a.toNat % 4 * 16)] = some [a] := by
  have boundA := a.toNat_lt
  have first : (a.toNat / 4 * 4 + a.toNat % 4 * 16 / 16).toUInt8 = a := toUInt8_eq (by omega)
  have even : a.toNat % 4 * 16 % 16 = 0 := by omega
  rw [decode?, value?_digit (by omega), value?_digit (by omega)]
  simp only [Option.bind_eq_bind, Option.bind_some, Option.pure_def, even, if_true, first]

theorem decode?_encodeChars (bytes : Bytes) : decode? (encodeChars bytes) = some bytes := by
  induction bytes using encodeChars.induct with
  | case1 a b c rest ih => rw [encodeChars, decode?_quartet, ih, Option.map_some]
  | case2 a b => exact decode?_three a b
  | case3 a => exact decode?_two a
  | case4 => rfl

theorem exists_of_mem_encodeChars {bytes : Bytes} {c : Char} (member : c ∈ encodeChars bytes) :
    ∃ value < 64, c = digit value := by
  have bound (byte : UInt8) : byte.toNat < 256 := byte.toNat_lt
  induction bytes using encodeChars.induct with
  | case1 a b c₁ rest ih =>
      have boundA := bound a
      have boundB := bound b
      have boundC := bound c₁
      simp only [encodeChars, List.mem_cons] at member
      rcases member with rfl | rfl | rfl | rfl | later
      · exact ⟨_, by omega, rfl⟩
      · exact ⟨_, by omega, rfl⟩
      · exact ⟨_, by omega, rfl⟩
      · exact ⟨_, by omega, rfl⟩
      · exact ih later
  | case2 a b =>
      have boundA := bound a
      have boundB := bound b
      simp only [encodeChars, List.mem_cons, List.not_mem_nil, or_false] at member
      rcases member with rfl | rfl | rfl
      · exact ⟨_, by omega, rfl⟩
      · exact ⟨_, by omega, rfl⟩
      · exact ⟨_, by omega, rfl⟩
  | case3 a =>
      have boundA := bound a
      simp only [encodeChars, List.mem_cons, List.not_mem_nil, or_false] at member
      rcases member with rfl | rfl
      · exact ⟨_, by omega, rfl⟩
      · exact ⟨_, by omega, rfl⟩
  | case4 => cases member

/-- A property of all 64 digits is one of all digits of a byte string. -/
theorem forall_mem_encodeChars {p : Char → Prop} (holds : ∀ value < 64, p (digit value))
    (bytes : Bytes) : ∀ c ∈ encodeChars bytes, p c := by
  intro c member
  obtain ⟨value, small, rfl⟩ := exists_of_mem_encodeChars member
  exact holds value small

theorem length_encodeChars (bytes : Bytes) :
    (encodeChars bytes).length = (4 * bytes.length + 2) / 3 := by
  induction bytes using encodeChars.induct with
  | case1 a b c rest ih =>
      simp only [encodeChars, List.length_cons, ih]
      omega
  | case2 a b => simp [encodeChars]
  | case3 a => simp [encodeChars]
  | case4 => rfl

end NetconfGate.Base64
