import NetconfGate.Bytes

/-!
# Numbers and texts as bytes

A number and a text are found again in the bytes that stand for them, the number
as far as the bytes reach.
-/

namespace NetconfGate.Bytes

theorem toNat_append_singleton (bytes : Bytes) (last : UInt8) :
    toNat (bytes ++ [last]) = toNat bytes * 256 + last.toNat := by
  rw [toNat, List.foldl_append]
  rfl

theorem toNat_ofNat (count value : Nat) :
    toNat (ofNat count value) = value % Nat.pow 256 count := by
  induction count generalizing value with
  | zero => exact (Nat.mod_one value).symm
  | succ count ih =>
      have low : (UInt8.ofNat (value % 256)).toNat = value % 256 := by simp
      have power : Nat.pow 256 (count + 1) = 256 * Nat.pow 256 count := Nat.mul_comm _ _
      rw [ofNat, toNat_append_singleton, ih, low, power, Nat.mod_mul]
      omega

theorem text?_ofText (text : String) : text? (ofText text) = some text := by
  have whole : (⟨(ofText text).toArray⟩ : ByteArray) = text.toUTF8 := rfl
  have valid : text.toUTF8.IsValidUTF8 := text.isValidUTF8
  rw [text?, whole, String.fromUTF8?, dif_pos (by simpa using valid)]
  rfl

end NetconfGate.Bytes
