import SealingProxy.Proofs.Envelopes
/-! # Envelopes of long contents

Long contents are sealed and opened on threads of their own, which other work does not wait for. What
decides is the length of the content when it is sealed, and when it is opened that of the sealed
content, which is sixteen bytes more. Whichever way each of the two goes, the envelope has the same
parts, and a content that was sealed is opened again. -/

namespace SealingProxy

/-- Threads that carry out tasks. A task that does not end has a reason. -/
structure BlockingPool where
  run : Except CryptoError Bytes → Except String (Except CryptoError Bytes)
  of_run_eq_ok : ∀ task result, run task = .ok result → result = task

namespace BlockingPool

def Completes (pool : BlockingPool) : Prop :=
  ∀ task, pool.run task = .ok task

def await (pool : BlockingPool) (failed : String → CryptoError)
    (task : Except CryptoError Bytes) : Except CryptoError Bytes :=
  match pool.run task with
  | .ok result => result
  | .error reason => .error (failed ("cipher task failed: " ++ reason))

def prompt : BlockingPool where
  run task := .ok task
  of_run_eq_ok _ _ h := (Except.ok.inj h).symm

theorem completes_prompt : prompt.Completes :=
  fun _ => rfl

variable {pool : BlockingPool} {failed : String → CryptoError} {task : Except CryptoError Bytes}

theorem Completes.await_eq (h : pool.Completes) : pool.await failed task = task := by
  rw [await, h]

theorem of_await_eq_ok {bytes : Bytes} (h : pool.await failed task = .ok bytes) :
    task = .ok bytes := by
  unfold await at h
  split at h
  · next hrun => rw [← pool.of_run_eq_ok _ _ hrun, h]
  · cases h

end BlockingPool

namespace KeyHandle

/-- The handle unwraps whatever it has wrapped. -/
def Unwraps (key : KeyHandle) : Prop :=
  ∀ nonce dataKey wrapped, nonce.length = Gcm.nonceSize →
    key.wrap nonce dataKey = .ok wrapped → key.unwrap wrapped = .ok dataKey

theorem unwraps_derived (m : MasterKey) (keyId : String) : (derived m keyId).Unwraps := by
  intro nonce dataKey wrapped hnonce hwrap
  obtain rfl := Except.ok.inj hwrap
  exact unwrapWith_wrapWith (m.length_derive keyId) hnonce keyId dataKey

end KeyHandle

namespace Envelope

/-- Contents of this length are sealed and opened aside. -/
def blockingThreshold : Nat := 64 * 1024

def sealOn (pool : BlockingPool) (dataKey nonce plaintext : Bytes) : Except CryptoError Bytes :=
  let task := .ok (Gcm.encrypt dataKey nonce [] plaintext)
  if plaintext.length < blockingThreshold then task else pool.await .encryptionFailed task

/-- A data key of the wrong size is refused before any task begins. -/
def openOn (pool : BlockingPool) (dataKey nonce sealed : Bytes) : Except CryptoError Bytes :=
  if dataKey.length = Gcm.keySize ∧ blockingThreshold ≤ sealed.length then
    pool.await .decryptionFailed (openSealed dataKey nonce sealed)
  else openSealed dataKey nonce sealed

/-- The content is sealed first, and then the data key is wrapped. -/
def encryptOn (pool : BlockingPool) (key : KeyHandle) (draw : SealDraw) (plaintext : Bytes) :
    Except CryptoError Bytes := do
  let sealed ← sealOn pool draw.dataKey draw.nonce plaintext
  let wrapped ← key.wrap draw.wrapNonce draw.dataKey
  if wrapped.length < UInt32.size then .ok (compose wrapped draw.nonce sealed)
  else .error (.encryptionFailed "wrapped data key too large")

def decryptOn (pool : BlockingPool) (key : KeyHandle) (data : Bytes) : Except CryptoError Bytes :=
  if data.length < lengthSize then .error truncated
  else
    let length := Bytes.toNat (data.take lengthSize)
    let rest := data.drop lengthSize
    if rest.length < length + (Gcm.nonceSize + Gcm.tagSize) then .error truncated
    else do
      let dataKey ← key.unwrap (rest.take length)
      let tail := rest.drop length
      openOn pool dataKey (tail.take Gcm.nonceSize) (tail.drop Gcm.nonceSize)

variable {pool opener : BlockingPool} {key : KeyHandle} {draw : SealDraw}
variable {dataKey nonce sealed plaintext data : Bytes}

theorem of_sealOn_eq_ok (h : sealOn pool dataKey nonce plaintext = .ok sealed) :
    sealed = Gcm.encrypt dataKey nonce [] plaintext := by
  unfold sealOn at h
  dsimp only at h
  split at h
  · exact (Except.ok.inj h).symm
  · exact (Except.ok.inj (BlockingPool.of_await_eq_ok h)).symm

theorem sealOn_eq (h : pool.Completes) (dataKey nonce plaintext : Bytes) :
    sealOn pool dataKey nonce plaintext = .ok (Gcm.encrypt dataKey nonce [] plaintext) := by
  rw [sealOn, h.await_eq, ite_self]

theorem openOn_eq (h : pool.Completes) (dataKey nonce sealed : Bytes) :
    openOn pool dataKey nonce sealed = openSealed dataKey nonce sealed := by
  rw [openOn, h.await_eq, ite_self]

/-- Sealing aside is sealing, unless a task does not end. -/
theorem encryptOn_eq (h : pool.Completes) (key : KeyHandle) (draw : SealDraw) (plaintext : Bytes) :
    encryptOn pool key draw plaintext = encrypt key draw plaintext := by
  rw [encryptOn, sealOn_eq h, encrypt]
  dsimp only [bind, Except.bind]
  cases key.wrap draw.wrapNonce draw.dataKey <;> rfl

theorem decryptOn_eq (h : pool.Completes) (key : KeyHandle) (data : Bytes) :
    decryptOn pool key data = decrypt key data := by
  unfold decryptOn decrypt
  dsimp only
  split
  · rfl
  · split
    · rfl
    · cases key.unwrap ((data.drop lengthSize).take (Bytes.toNat (data.take lengthSize))) with
      | error e => rfl
      | ok dataKey => exact openOn_eq h dataKey _ _

theorem encrypt_of_encryptOn (h : encryptOn pool key draw plaintext = .ok data) :
    encrypt key draw plaintext = .ok data := by
  rw [encryptOn] at h
  cases hsealed : sealOn pool draw.dataKey draw.nonce plaintext with
  | error e =>
    rw [hsealed] at h
    cases h
  | ok sealed =>
    obtain rfl := of_sealOn_eq_ok hsealed
    rw [hsealed] at h
    rw [← encryptOn_eq BlockingPool.completes_prompt, encryptOn,
      sealOn_eq BlockingPool.completes_prompt]
    exact h

/-- An envelope is the wrapped data key behind its length, the nonce and the sealed content, and it
opens to the content. -/
theorem decryptOn_of_encryptOn (hd : draw.IsSized) (hopener : opener.Completes)
    (plaintext : Bytes) :
    (∀ key : KeyHandle, key.Unwraps → ∀ pool data, encryptOn pool key draw plaintext = .ok data →
      ∃ wrapped sealed, key.wrap draw.wrapNonce draw.dataKey = .ok wrapped ∧
        wrapped.length < UInt32.size ∧
        data = Bytes.ofUInt32 wrapped.length.toUInt32 ++ wrapped ++ draw.nonce ++ sealed ∧
        data.length = 4 + wrapped.length + 12 + plaintext.length + 16 ∧
        decryptOn opener key data = .ok plaintext) ∧
    ∀ (m : MasterKey) (keyId : String), keyId ≠ "" →
      ∃ key, (KeyService.ofMaster m).handle keyId = .ok key ∧ key.Unwraps ∧
        ∃ data, encryptOn opener key draw plaintext = .ok data := by
  constructor
  · intro key hkey pool data hsealed
    have hencrypt := encrypt_of_encryptOn hsealed
    obtain ⟨wrapped, hwrap, hlt, hdata⟩ := of_encrypt_ok hencrypt
    have hlength := Gcm.length_encrypt hd.dataKey hd.nonce [] plaintext
    refine ⟨wrapped, _, hwrap, hlt, hdata, ?_, ?_⟩
    · rw [hdata]
      simp only [compose, List.length_append, Bytes.length_ofUInt32, hd.nonce, hlength,
        Gcm.nonceSize, Gcm.tagSize]
      omega
    · rw [decryptOn_eq hopener]
      exact decrypt_encrypt hd (fun wrapped => hkey _ _ wrapped hd.wrapNonce) hencrypt
  · intro m keyId hkeyId
    refine ⟨.derived m keyId, if_neg hkeyId, KeyHandle.unwraps_derived m keyId, ?_⟩
    rw [encryptOn_eq hopener]
    exact exists_encrypt_derived m keyId hd plaintext

def plainDraw : SealDraw :=
  ⟨List.replicate 32 1, List.replicate 12 2, List.replicate 12 3⟩

/-- A content that is sealed at once and opened aside, as it is just below the threshold. -/
theorem decryptOn_of_encryptOn_below_threshold :
    let content : Bytes := List.replicate 65535 90
    content.length < blockingThreshold ∧ blockingThreshold ≤ content.length + Gcm.tagSize ∧
    ∃ key, (KeyService.ofMaster .zero).handle "K" = .ok key ∧
      ∃ data, encryptOn .prompt key plainDraw content = .ok data ∧
        decryptOn .prompt key data = .ok content := by
  intro content
  have hsized : plainDraw.IsSized := ⟨rfl, rfl, rfl⟩
  obtain ⟨hopens, hlocal⟩ :=
    decryptOn_of_encryptOn hsized BlockingPool.completes_prompt content
  obtain ⟨key, hkey, hunwraps, data, hdata⟩ := hlocal .zero "K" (by decide)
  obtain ⟨_, _, -, -, -, -, hopened⟩ := hopens key hunwraps .prompt data hdata
  have hlength : content.length = 65535 := List.length_replicate
  rw [hlength]
  exact ⟨by decide, by decide, key, hkey, data, hdata, hopened⟩

end Envelope
end SealingProxy
