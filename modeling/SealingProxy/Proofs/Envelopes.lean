import SealingProxy.Proofs.SealedTexts
import SealingProxy.Sealing.CipherCache
/-! # Envelopes open again

A handle that unwraps the data keys it wraps opens the envelopes it seals, and the handles of a
local service do so. A cache hands out the handles of its service, whatever it was asked before. -/

namespace SealingProxy

namespace Bytes

theorem toNat_ofUInt32 (n : UInt32) : toNat (ofUInt32 n) = n.toNat := by
  have h := n.toNat_lt
  simp [toNat, ofUInt32, UInt32.toNat_shiftRight, Nat.shiftRight_eq_div_pow]
  omega

@[simp] theorem length_ofUInt32 (n : UInt32) : (ofUInt32 n).length = 4 :=
  rfl

end Bytes

structure SealDraw.IsSized (draw : SealDraw) : Prop where
  dataKey : draw.dataKey.length = Gcm.keySize
  nonce : draw.nonce.length = Gcm.nonceSize
  wrapNonce : draw.wrapNonce.length = Gcm.nonceSize

theorem MasterKey.length_derive (m : MasterKey) (keyId : String) :
    (m.derive keyId).length = Gcm.keySize :=
  Sha256.length_keyed _ _

namespace KeyHandle

variable {key nonce : Bytes}

theorem length_wrapWith (hk : key.length = Gcm.keySize) (hn : nonce.length = Gcm.nonceSize)
    (keyId : String) (dataKey : Bytes) :
    (wrapWith key keyId nonce dataKey).length = Gcm.nonceSize + (dataKey.length + Gcm.tagSize) := by
  rw [wrapWith, List.length_append, hn, Gcm.length_encrypt hk hn]

theorem unwrapWith_wrapWith (hk : key.length = Gcm.keySize) (hn : nonce.length = Gcm.nonceSize)
    (keyId : String) (dataKey : Bytes) :
    unwrapWith key keyId (wrapWith key keyId nonce dataKey) = .ok dataKey := by
  have hlength := length_wrapWith hk hn keyId dataKey
  have htake : (wrapWith key keyId nonce dataKey).take Gcm.nonceSize = nonce :=
    List.take_left' hn
  have hdrop : (wrapWith key keyId nonce dataKey).drop Gcm.nonceSize =
      Gcm.encrypt key nonce (utf8 keyId) dataKey := List.drop_left' hn
  rw [unwrapWith, if_neg (by omega), htake, hdrop, Gcm.decrypt?_encrypt hk hn]

end KeyHandle

namespace Envelope

theorem of_encrypt_ok {key : KeyHandle} {draw : SealDraw} {plaintext data : Bytes}
    (h : encrypt key draw plaintext = .ok data) :
    ∃ wrapped, key.wrap draw.wrapNonce draw.dataKey = .ok wrapped ∧ wrapped.length < UInt32.size ∧
      data = compose wrapped draw.nonce (Gcm.encrypt draw.dataKey draw.nonce [] plaintext) := by
  unfold encrypt at h
  dsimp only at h
  split at h
  · cases h
  · next wrapped hwrap =>
    split at h
    · next hlt => exact ⟨wrapped, hwrap, hlt, (Except.ok.inj h).symm⟩
    · cases h

/-- The parts of an envelope are found where they were put. -/
theorem decrypt_compose {key : KeyHandle} {wrapped dataKey nonce sealed : Bytes}
    (hw : wrapped.length < UInt32.size) (hn : nonce.length = Gcm.nonceSize)
    (hs : Gcm.tagSize ≤ sealed.length) (hu : key.unwrap wrapped = .ok dataKey) :
    decrypt key (compose wrapped nonce sealed) = openSealed dataKey nonce sealed := by
  have hlength : Bytes.toNat (Bytes.ofUInt32 wrapped.length.toUInt32) = wrapped.length := by
    rw [Bytes.toNat_ofUInt32]
    exact Nat.mod_eq_of_lt hw
  have hdata : compose wrapped nonce sealed =
      Bytes.ofUInt32 wrapped.length.toUInt32 ++ (wrapped ++ (nonce ++ sealed)) := by
    simp only [compose, List.append_assoc]
  have hsize : (Bytes.ofUInt32 wrapped.length.toUInt32).length = lengthSize := rfl
  have hlong : ¬(compose wrapped nonce sealed).length < lengthSize := by
    rw [hdata, List.length_append, hsize]
    omega
  have hrest : ¬(wrapped ++ (nonce ++ sealed)).length <
      wrapped.length + (Gcm.nonceSize + Gcm.tagSize) := by
    rw [List.length_append, List.length_append, hn]
    omega
  rw [decrypt, if_neg hlong, hdata, List.take_left' hsize, List.drop_left' hsize, hlength]
  dsimp only
  rw [if_neg hrest, List.take_left, hu, List.drop_left]
  dsimp only
  rw [List.take_left' hn, List.drop_left' hn]

/-- A handle opens what it sealed if it unwraps what it wrapped. -/
theorem decrypt_encrypt {key : KeyHandle} {draw : SealDraw} (hd : draw.IsSized)
    (hkey : ∀ wrapped, key.wrap draw.wrapNonce draw.dataKey = .ok wrapped →
      key.unwrap wrapped = .ok draw.dataKey) {plaintext data : Bytes}
    (h : encrypt key draw plaintext = .ok data) : decrypt key data = .ok plaintext := by
  obtain ⟨wrapped, hwrap, hlt, rfl⟩ := of_encrypt_ok h
  have hsealed := Gcm.length_encrypt hd.dataKey hd.nonce [] plaintext
  rw [decrypt_compose hlt hd.nonce (by omega) (hkey wrapped hwrap), openSealed, if_pos hd.dataKey,
    Gcm.decrypt?_encrypt hd.dataKey hd.nonce]

/-- A local service seals every content. -/
theorem exists_encrypt_derived (m : MasterKey) (keyId : String) {draw : SealDraw}
    (hd : draw.IsSized) (plaintext : Bytes) :
    ∃ data, encrypt (.derived m keyId) draw plaintext = .ok data := by
  have hwrapped := KeyHandle.length_wrapWith (m.length_derive keyId) hd.wrapNonce keyId draw.dataKey
  have hlt : (KeyHandle.wrapWith (m.derive keyId) keyId draw.wrapNonce draw.dataKey).length <
      UInt32.size := by
    rw [hwrapped, hd.dataKey]
    decide
  exact ⟨_, if_pos hlt⟩

/-- An envelope of a local service is ninety-two bytes longer than its content. -/
theorem length_encrypt_derived {m : MasterKey} {keyId : String} {draw : SealDraw}
    (hd : draw.IsSized) {plaintext data : Bytes}
    (h : encrypt (.derived m keyId) draw plaintext = .ok data) :
    data.length = plaintext.length + 92 := by
  obtain ⟨wrapped, hwrap, -, rfl⟩ := of_encrypt_ok h
  obtain rfl := Except.ok.inj hwrap
  have hwrapped := KeyHandle.length_wrapWith (m.length_derive keyId) hd.wrapNonce keyId draw.dataKey
  have hsealed := Gcm.length_encrypt hd.dataKey hd.nonce [] plaintext
  rw [hd.dataKey] at hwrapped
  simp only [compose, List.length_append, Bytes.length_ofUInt32, hwrapped, hd.nonce, hsealed,
    Gcm.nonceSize, Gcm.keySize, Gcm.tagSize]
  omega

theorem decrypt_encrypt_derived {m : MasterKey} {keyId : String} {draw : SealDraw}
    (hd : draw.IsSized) {plaintext data : Bytes}
    (h : encrypt (.derived m keyId) draw plaintext = .ok data) :
    decrypt (.derived m keyId) data = .ok plaintext := by
  refine decrypt_encrypt hd (fun wrapped hw => ?_) h
  obtain rfl := Except.ok.inj hw
  exact KeyHandle.unwrapWith_wrapWith (m.length_derive keyId) hd.wrapNonce keyId _

end Envelope

namespace CipherCache

/-- Every handle in the cache is the one that the service hands out. -/
def Holds (service : KeyService) (c : CipherCache) : Prop :=
  ∀ e ∈ c.entries, service.handle e.keyId = .ok e.handle

variable {service : KeyService} {c : CipherCache}

theorem holds_of_entries_eq_nil (h : c.entries = []) : c.Holds service := by
  intro e he
  rw [h] at he
  exact absurd he List.not_mem_nil

theorem Holds.use (h : c.Holds service) {keyId : String} {handle : KeyHandle}
    (hk : service.handle keyId = .ok handle) (now : Instant) :
    (c.use now keyId handle).Holds service := by
  intro e he
  rcases List.mem_cons.1 he with rfl | he
  · exact hk
  · exact h e (List.mem_filter.1 he).1

theorem Holds.of_find? (h : c.Holds service) {now : Instant} {keyId : String} {e : CachedHandle}
    (he : c.find? now keyId = some e) : service.handle keyId = .ok e.handle := by
  have hid : e.keyId = keyId := by
    have := List.find?_some he
    simp only [Bool.and_eq_true, beq_iff_eq] at this
    exact this.1
  exact hid ▸ h e (List.mem_of_find?_eq_some he)

theorem Holds.get (h : c.Holds service) (now : Instant) (keyId : String) :
    (c.get service now keyId).2.Holds service := by
  unfold CipherCache.get
  split
  · next e he => exact h.use (h.of_find? he) now
  · dsimp only
    split
    · next handle hk => exact Holds.use (c := { c with requests := c.requests + 1 }) h hk now
    · exact h

/-- The handle of a key is that of the service. -/
theorem Holds.get_eq_ok_iff (h : c.Holds service) {now : Instant} {keyId : String}
    {handle : KeyHandle} :
    (c.get service now keyId).1 = .ok handle ↔ service.handle keyId = .ok handle := by
  unfold CipherCache.get
  split
  · next e he => rw [h.of_find? he]
  · dsimp only
    split
    · next hk => rw [hk]
    · next hk => rw [hk]; simp

end CipherCache
end SealingProxy
