import NetconfGate.Crypto.Argon2

/-!
# How long a hash is

BLAKE2b keeps eight words from block to block, so it has 64 bytes to give, and
gives as many as it was asked for. The hash of any length chains such hashes and
takes half of each but the last, and so it has the length that was asked for.
-/

namespace NetconfGate.Crypto

theorem length_bytesOfWords (words : List UInt64) :
    (bytesOfWords words).length = 8 * words.length := by
  induction words with
  | nil => rfl
  | cons word rest ih =>
      have eight : (wordBytes word).length = 8 := rfl
      rw [bytesOfWords, List.flatMap_cons, List.length_append, eight, ← bytesOfWords, ih,
        List.length_cons]
      omega

namespace Blake2b

theorem size_compress {state : Array UInt64} (eight : state.size = 8) (message : Array UInt64)
    (count : Nat) (last : Bool) : (compress state message count last).size = 8 := by
  have rows (r : Row) : r.toList.length = 16 := rfl
  simp [compress, eight, rows]

theorem size_absorb {state : Array UInt64} (eight : state.size = 8) (fuel done : Nat)
    (input : Bytes) : (absorb fuel state done input).size = 8 := by
  induction fuel generalizing state done input with
  | zero => exact eight
  | succ fuel ih =>
      simp only [absorb]
      split
      · exact size_compress eight ..
      · exact ih (size_compress eight ..) ..

theorem length_hash {length : Nat} (short : length ≤ 64) (input : Bytes) :
    (hash length input).length = length := by
  have started : (initial.modify 0 fun word =>
      word ^^^ 0x01010000 ^^^ length.toUInt64).size = 8 := by simp [initial]
  have eight := size_absorb started (input.length + 1) 0 input
  rw [hash, List.length_take, length_bytesOfWords, Array.length_toList, eight]
  omega

end Blake2b

namespace Argon2

/-- Each link of the chain gives 32 bytes. -/
theorem length_chain (links : List Nat) (out last : Bytes) :
    (links.foldl (fun (out, link) _ =>
      let next := Blake2b.hash 64 link; (out ++ next.take 32, next)) (out, last)).1.length =
      out.length + 32 * links.length := by
  induction links generalizing out last with
  | nil => rfl
  | cons link rest ih =>
      rw [List.foldl_cons, ih, List.length_append, List.length_take,
        Blake2b.length_hash (Nat.le_refl 64), List.length_cons]
      omega

theorem length_longHash (length : Nat) (input : Bytes) :
    (longHash length input).length = length := by
  unfold longHash
  split
  · next short => exact Blake2b.length_hash short _
  · next long =>
      have chain := length_chain (List.range ((length + 31) / 32 - 2 - 1))
        ((Blake2b.hash 64 (littleWord32 length ++ input)).take 32)
        (Blake2b.hash 64 (littleWord32 length ++ input))
      rw [List.length_take, Blake2b.length_hash (Nat.le_refl 64), List.length_range] at chain
      have short : length - 32 * ((length + 31) / 32 - 2) ≤ 64 := by omega
      simp only [List.length_append, chain, Blake2b.length_hash short]
      omega

theorem Job.length_output (j : Job) : j.output.length = j.outputLength :=
  length_longHash ..

end Argon2

end NetconfGate.Crypto
