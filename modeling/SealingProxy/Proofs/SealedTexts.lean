import SealingProxy.Crypto.Gcm
import SealingProxy.Crypto.Sha256
/-! # Sealed texts open again

Nothing of the cipher matters for opening but the sizes: a key of thirty-two bytes gives round keys of
sixteen bytes, these turn blocks of sixteen bytes into such blocks, and so the key stream is as long
as the text. Adding it twice gives the text back. -/

namespace SealingProxy

namespace Bytes

theorem le_length_of_dvd {n : Nat} {s : Bytes} (h : n ∣ s.length)
    (hs : ¬(n = 0 ∨ s.isEmpty = true)) : n ≤ s.length := by
  rw [not_or, List.isEmpty_iff] at hs
  exact Nat.le_of_dvd (List.length_pos_iff.2 hs.2) h

theorem dvd_length_drop {n : Nat} {s : Bytes} (h : n ∣ s.length) : n ∣ (s.drop n).length := by
  rw [List.length_drop]
  exact Nat.dvd_sub h (Nat.dvd_refl n)

/-- No group is shorter when the size divides the length. -/
theorem length_of_mem_groups {n : Nat} {s g : Bytes} (h : n ∣ s.length) (hg : g ∈ groups n s) :
    g.length = n := by
  fun_induction groups n s with
  | case1 s hs => exact absurd hg List.not_mem_nil
  | case2 s hs ih =>
    rcases List.mem_cons.1 hg with rfl | hg
    · rw [List.length_take, Nat.min_eq_left (le_length_of_dvd h hs)]
    · exact ih (dvd_length_drop h) hg

theorem length_groups {n : Nat} {s : Bytes} (hn : 0 < n) (h : n ∣ s.length) :
    (groups n s).length * n = s.length := by
  fun_induction groups n s with
  | case1 s hs =>
    have hnil : s = [] := List.isEmpty_iff.1 (hs.resolve_left (by omega))
    rw [hnil, List.length_nil, List.length_nil, Nat.zero_mul]
  | case2 s hs ih =>
    have hle := le_length_of_dvd h hs
    have hrest := ih (dvd_length_drop h)
    rw [List.length_drop] at hrest
    rw [List.length_cons, Nat.succ_mul, hrest]
    omega

theorem length_flatMap_ofUInt32 (w : List UInt32) :
    (w.flatMap ofUInt32).length = 4 * w.length := by
  induction w with
  | nil => rfl
  | cons a w ih =>
    rw [List.flatMap_cons, List.length_append, ih, List.length_cons]
    simp [ofUInt32]
    omega

end Bytes

namespace Sha256

theorem length_digest (m : Bytes) : (digest m).length = 32 := by
  rw [digest, Bytes.length_flatMap_ofUInt32]
  rfl

theorem length_keyed (key m : Bytes) : (keyed key m).length = 32 :=
  length_digest _

end Sha256

namespace Aes

theorem size_extend (w : Array UInt32) : (extend w).size = w.size + 1 := by
  rw [extend, Array.size_push]

theorem size_foldl_extend (w : Array UInt32) (n : Nat) :
    ((List.range n).foldl (fun w _ => extend w) w).size = w.size + n := by
  induction n with
  | zero => rfl
  | succ n ih => rw [List.range_succ, List.foldl_append, List.foldl_cons, List.foldl_nil,
      size_extend, ih, Nat.add_assoc]

theorem size_of_mem_roundKeys {key : Bytes} (h : key.length = 32) {k : Array UInt8}
    (hk : k ∈ roundKeys key) : k.size = 16 := by
  obtain ⟨g, hg, rfl⟩ := List.mem_map.1 hk
  have hwords : (Bytes.groups 4 key).length = 8 := by
    have := Bytes.length_groups (n := 4) (s := key) (by decide) (by rw [h]; decide)
    omega
  rw [List.size_toArray]
  apply Bytes.length_of_mem_groups ?_ hg
  rw [Bytes.length_flatMap_ofUInt32, Array.length_toList, size_foldl_extend, List.size_toArray,
    List.length_map, hwords]
  decide

theorem size_addKey {s k : Array UInt8} (hs : s.size = 16) (hk : k.size = 16) :
    (addKey s k).size = 16 := by
  rw [addKey, Array.size_zipWith, hs, hk, Nat.min_self]

theorem size_rounds {s : Array UInt8} {ks : List (Array UInt8)} (hs : s.size = 16)
    (hk : ∀ k ∈ ks, k.size = 16) : (rounds s ks).size = 16 := by
  fun_induction rounds s ks with
  | case1 s => exact hs
  | case2 s k => exact size_addKey Array.size_ofFn (hk k (by simp))
  | case3 s k ks _ ih =>
    exact ih (size_addKey Array.size_ofFn (hk k (by simp))) fun k' h => hk k' (by simp [h])

/-- Blocks stay blocks. -/
theorem length_encrypt {keys : List (Array UInt8)} {block : Bytes} (hk : ∀ k ∈ keys, k.size = 16)
    (hb : block.length = 16) : (encrypt keys block).length = 16 := by
  cases keys with
  | nil => exact hb
  | cons k ks =>
    rw [encrypt, Array.length_toList]
    have hfirst := size_addKey (s := block.toArray) (by rw [List.size_toArray, hb]) (hk k (by simp))
    exact size_rounds hfirst fun k' h => hk k' (by simp [h])

end Aes

namespace Gcm

theorem xor_xor {a b : Bytes} (h : a.length ≤ b.length) : xor (xor a b) b = a := by
  induction a generalizing b with
  | nil => rfl
  | cons x a ih =>
    cases b with
    | nil => simp at h
    | cons y b =>
      have hx : x ^^^ y ^^^ y = x := by rw [UInt8.xor_assoc, UInt8.xor_self, UInt8.xor_zero]
      have htail := ih (Nat.le_of_succ_le_succ h)
      simp only [xor, List.zipWith_cons_cons] at htail ⊢
      rw [hx, htail]

theorem length_keyStream {keys : List (Array UInt8)} {nonce : Bytes} (hk : ∀ k ∈ keys, k.size = 16)
    (hn : nonce.length = nonceSize) (n : Nat) : (keyStream keys nonce n).length = n := by
  have hblock (i : Nat) : (Aes.encrypt keys (counterBlock nonce (i + 2))).length = 16 := by
    apply Aes.length_encrypt hk
    rw [counterBlock, List.length_append, hn]
    rfl
  have hall : ((List.range ((n + 15) / 16)).flatMap fun i =>
      Aes.encrypt keys (counterBlock nonce (i + 2))).length = 16 * ((n + 15) / 16) := by
    rw [List.length_flatMap]
    simp only [hblock, List.map_const', List.length_range, List.sum_replicate_nat]
    omega
  rw [keyStream, List.length_take, hall]
  omega

variable {keys : List (Array UInt8)} {nonce : Bytes}

theorem length_applyStream (hk : ∀ k ∈ keys, k.size = 16) (hn : nonce.length = nonceSize)
    (text : Bytes) : (applyStream keys nonce text).length = text.length := by
  rw [applyStream, xor, List.length_zipWith, length_keyStream hk hn, Nat.min_self]

theorem applyStream_applyStream (hk : ∀ k ∈ keys, k.size = 16) (hn : nonce.length = nonceSize)
    (text : Bytes) : applyStream keys nonce (applyStream keys nonce text) = text := by
  have hlength := length_applyStream hk hn text
  rw [applyStream, hlength, applyStream]
  exact xor_xor (Nat.le_of_eq (length_keyStream hk hn _).symm)

@[simp] theorem length_tag (keys : List (Array UInt8)) (nonce aad text : Bytes) :
    (tag keys nonce aad text).length = tagSize :=
  rfl

variable {key : Bytes}

theorem length_encrypt (hk : key.length = keySize) (hn : nonce.length = nonceSize)
    (aad text : Bytes) : (encrypt key nonce aad text).length = text.length + tagSize := by
  have hkeys : ∀ k ∈ Aes.roundKeys key, k.size = 16 := fun _ => Aes.size_of_mem_roundKeys hk
  rw [encrypt, List.length_append, length_applyStream hkeys hn, length_tag]

/-- Opening undoes sealing. -/
theorem decrypt?_encrypt (hk : key.length = keySize) (hn : nonce.length = nonceSize)
    (aad text : Bytes) : decrypt? key nonce aad (encrypt key nonce aad text) = some text := by
  have hkeys : ∀ k ∈ Aes.roundKeys key, k.size = 16 := fun _ => Aes.size_of_mem_roundKeys hk
  have hlength := length_encrypt hk hn aad text
  have hstream := length_applyStream hkeys hn text
  have hcut : (encrypt key nonce aad text).length - tagSize =
      (applyStream (Aes.roundKeys key) nonce text).length := by
    rw [hlength, hstream, Nat.add_sub_cancel]
  have hopened := applyStream_applyStream hkeys hn text
  rw [decrypt?, if_neg (by omega), hcut]
  simp only [encrypt, List.take_left, List.drop_left, if_true, hopened]

end Gcm
end SealingProxy
