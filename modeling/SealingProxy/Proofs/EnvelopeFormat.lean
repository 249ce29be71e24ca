import SealingProxy.Proofs.CheckedScan
import SealingProxy.Proofs.OffloadedEnvelopes
/-! # The format of envelopes

An envelope is opened by cutting it where its first four bytes say, and these may say anything. The
decryption is done here once more with a check of every cut, every sum and every size that the
cipher asks for, where a check that fails leaves no answer, and with a record of what the handle is
asked. There always is an answer, namely the one of the plain decryption, and the handle is asked
only about the wrapped data key of a whole envelope. What opens is exactly what has the format. -/

namespace SealingProxy

namespace Bytes

theorem toNat_shiftLeft_or {n : UInt32} (h : n.toNat < 0x1000000) (b : UInt8) :
    (n <<< 8 ||| b.toUInt32).toNat = n.toNat * 256 + b.toNat := by
  have hb := b.toNat_lt
  have hshift : (n <<< 8).toNat = n.toNat <<< 8 := by
    rw [UInt32.toNat_shiftLeft]
    change n.toNat <<< 8 % 2 ^ 32 = _
    rw [Nat.mod_eq_of_lt (by rw [Nat.shiftLeft_eq]; omega)]
  rw [UInt32.toNat_or, hshift, UInt8.toNat_toUInt32, ← Nat.shiftLeft_add_eq_or_of_lt hb,
    Nat.shiftLeft_eq]

/-- Four bytes denote the same number as a word and as a number of any size. -/
theorem toNat_toUInt32 {b : Bytes} (h : b.length = 4) : (toUInt32 b).toNat = toNat b := by
  match b, h with
  | [w, x, y, z], _ =>
    have hw := w.toNat_lt
    have hx := x.toNat_lt
    have hy := y.toNat_lt
    have h₁ := toNat_shiftLeft_or (n := 0) (by decide) w
    have h₂ := toNat_shiftLeft_or (by rw [h₁, UInt32.toNat_zero]; omega) x
    have h₃ := toNat_shiftLeft_or (by rw [h₂, h₁, UInt32.toNat_zero]; omega) y
    have h₄ := toNat_shiftLeft_or (by rw [h₃, h₂, h₁, UInt32.toNat_zero]; omega) z
    rw [h₃, h₂, h₁] at h₄
    exact h₄

theorem ofUInt32_toUInt32 {b : Bytes} (h : b.length = 4) : ofUInt32 (toUInt32 b) = b := by
  have hn := toNat_toUInt32 h
  match b, h with
  | [w, x, y, z], _ =>
    have hw := w.toNat_lt
    have hx := x.toNat_lt
    have hy := y.toNat_lt
    have hz := z.toNat_lt
    simp only [toNat, List.foldl_cons, List.foldl_nil] at hn
    simp only [ofUInt32, List.cons.injEq, ← UInt8.toNat_inj, UInt32.toNat_toUInt8,
      UInt32.toNat_shiftRight, hn, Nat.shiftRight_eq_div_pow]
    refine ⟨?_, ?_, ?_, ?_, trivial⟩ <;> simp <;> omega

/-- The bytes before an index and those from it on, if it is an index of the bytes. -/
def splitAt? (b : Bytes) (n : Nat) : Option (Bytes × Bytes) := do
  return (← slice? b 0 n, ← sliceFrom? b n)

theorem splitAt?_of_le {b : Bytes} {n : Nat} (h : n ≤ b.length) :
    splitAt? b n = some (b.take n, b.drop n) := by
  rw [splitAt?, slice?_of_le (Nat.zero_le n) h, sliceFrom?_of_le h, List.drop_zero]
  rfl

def word? (b : Bytes) : Option UInt32 :=
  if b.length = 4 then some (toUInt32 b) else none

end Bytes

namespace Envelope
open Bytes

/-! ## The format -/

/-- The data are the length of a wrapped data key in four bytes, the wrapped data key, a nonce, and
a sealed content that has room for its tag. -/
structure IsEnvelope (data wrapped nonce sealed : Bytes) : Prop where
  eq_append : data = ofUInt32 wrapped.length.toUInt32 ++ wrapped ++ nonce ++ sealed
  wrapped_lt : wrapped.length < UInt32.size
  length_nonce : nonce.length = Gcm.nonceSize
  le_sealed : Gcm.tagSize ≤ sealed.length

/-- The data have no room for a length, or for an envelope of the length that they state. -/
def IsTruncated (data : Bytes) : Prop :=
  data.length < 4 ∨ data.length < 4 + toNat (data.take 4) + 28

variable {data wrapped nonce sealed : Bytes} {key : KeyHandle}

/-- What follows the length of the wrapped data key can be cut at three places. -/
theorem isEnvelope_of_not_isTruncated (h : ¬IsTruncated data) :
    let length := toNat (data.take 4)
    let rest := data.drop 4
    IsEnvelope data (rest.take length) ((rest.drop length).take Gcm.nonceSize)
      ((rest.drop length).drop Gcm.nonceSize) := by
  intro length rest
  rw [IsTruncated, not_or] at h
  have hfour : (data.take 4).length = 4 := by rw [List.length_take]; omega
  have hrest : rest.length = data.length - 4 := List.length_drop
  have hwrapped : (rest.take length).length = length := by rw [List.length_take]; omega
  have hlength : length = (toUInt32 (data.take 4)).toNat := (toNat_toUInt32 hfour).symm
  have htail : (rest.drop length).length = data.length - 4 - length := by
    rw [List.length_drop, hrest]
  refine ⟨?_, ?_, ?_, ?_⟩
  · rw [hwrapped, hlength, Nat.toUInt32_eq, UInt32.ofNat_toNat, ofUInt32_toUInt32 hfour, ← hlength,
      List.append_assoc, List.append_assoc, List.take_append_drop, List.take_append_drop,
      List.take_append_drop]
  · rw [hwrapped, hlength]
    exact UInt32.toNat_lt _
  · rw [List.length_take, htail, Gcm.nonceSize]
    omega
  · rw [List.length_drop, htail, Gcm.nonceSize, Gcm.tagSize]
    omega

namespace IsEnvelope

theorem take_eq (h : IsEnvelope data wrapped nonce sealed) :
    data.take 4 = ofUInt32 wrapped.length.toUInt32 := by
  rw [h.eq_append, List.append_assoc, List.append_assoc]
  exact List.take_left' (length_ofUInt32 _)

theorem drop_eq (h : IsEnvelope data wrapped nonce sealed) :
    data.drop 4 = wrapped ++ (nonce ++ sealed) := by
  rw [h.eq_append, List.append_assoc, List.append_assoc]
  exact List.drop_left' (length_ofUInt32 _)

/-- The length that an envelope states is that of its wrapped data key. -/
theorem toNat_take (h : IsEnvelope data wrapped nonce sealed) :
    toNat (data.take 4) = wrapped.length := by
  rw [h.take_eq, toNat_ofUInt32]
  exact Nat.mod_eq_of_lt h.wrapped_lt

theorem length_eq (h : IsEnvelope data wrapped nonce sealed) :
    data.length = 4 + (wrapped.length + (12 + sealed.length)) := by
  rw [h.eq_append]
  simp only [List.length_append, length_ofUInt32, h.length_nonce, Gcm.nonceSize]
  omega

theorem not_isTruncated (h : IsEnvelope data wrapped nonce sealed) : ¬IsTruncated data := by
  have hsealed := h.le_sealed
  rw [IsTruncated, h.toNat_take, h.length_eq]
  rw [Gcm.tagSize] at hsealed
  omega

/-- The parts of an envelope follow from its bytes. -/
theorem unique {wrapped' nonce' sealed' : Bytes} (h : IsEnvelope data wrapped nonce sealed)
    (h' : IsEnvelope data wrapped' nonce' sealed') :
    wrapped = wrapped' ∧ nonce = nonce' ∧ sealed = sealed' := by
  have hparts := h.drop_eq.symm.trans h'.drop_eq
  obtain ⟨hwrapped, htail⟩ := List.append_inj hparts (h.toNat_take.symm.trans h'.toNat_take)
  exact ⟨hwrapped, List.append_inj htail (h.length_nonce.trans h'.length_nonce.symm)⟩

theorem decrypt_eq (h : IsEnvelope data wrapped nonce sealed) (key : KeyHandle) :
    decrypt key data =
      (key.unwrap wrapped).bind fun dataKey => openSealed dataKey nonce sealed := by
  cases hkey : key.unwrap wrapped with
  | ok dataKey =>
    rw [h.eq_append]
    exact decrypt_compose h.wrapped_lt h.length_nonce h.le_sealed hkey
  | error e =>
    have hsealed := h.le_sealed
    have hlong : ¬data.length < lengthSize := by
      rw [h.length_eq, lengthSize]
      omega
    have hroom : ¬(data.drop lengthSize).length <
        toNat (data.take lengthSize) + (Gcm.nonceSize + Gcm.tagSize) := by
      rw [lengthSize, h.toNat_take, List.length_drop, h.length_eq, Gcm.nonceSize]
      omega
    have hcut : (data.drop lengthSize).take (toNat (data.take lengthSize)) = wrapped := by
      rw [lengthSize, h.toNat_take, h.drop_eq, List.take_left]
    rw [decrypt, if_neg hlong]
    dsimp only
    rw [if_neg hroom, hcut, hkey]
    rfl

end IsEnvelope

theorem decrypt_of_isTruncated (h : IsTruncated data) (key : KeyHandle) :
    decrypt key data = .error truncated := by
  unfold decrypt
  split
  · rfl
  · next hlong =>
    rw [if_pos]
    rw [List.length_drop]
    simp only [lengthSize, Gcm.nonceSize, Gcm.tagSize] at hlong ⊢
    rcases h with h | h <;> omega

theorem openSealed_eq_ok_iff {dataKey plaintext : Bytes} :
    openSealed dataKey nonce sealed = .ok plaintext ↔
      dataKey.length = Gcm.keySize ∧ Gcm.decrypt? dataKey nonce [] sealed = some plaintext := by
  unfold openSealed
  split
  · next hsize => cases Gcm.decrypt? dataKey nonce [] sealed <;> simp [hsize]
  · next hsize => simp [hsize]

/-! ## Decryption with checks -/

/-- The answer of a decryption, and what the handle was asked to unwrap for it. -/
structure Opening where
  answer : Except CryptoError Bytes
  asked : List Bytes := []

def addWords? (m n : UInt64) : Option UInt64 :=
  if m.toNat + n.toNat < UInt64.size then some (m + n) else none

def openSized? (dataKey nonce sealed : Bytes) : Option (Except CryptoError Bytes) :=
  if dataKey.length = Gcm.keySize ∧ nonce.length = Gcm.nonceSize then
    some (openSealed dataKey nonce sealed)
  else none

/-- Opens what follows the wrapped data key, once that is unwrapped, at once or aside. -/
def openChecked? (pool : BlockingPool) (dataKey nonce sealed : Bytes) :
    Option (Except CryptoError Bytes) :=
  if dataKey.length = Gcm.keySize then do
    let task ← openSized? dataKey nonce sealed
    return if sealed.length < blockingThreshold then task else pool.await .decryptionFailed task
  else return .error (.decryptionFailed
    ("unwrapped data key has " ++ Decimal.text dataKey.length ++ " bytes"))

/-- The decryption, with a check wherever one may be needed. -/
def decryptChecked? (pool : BlockingPool) (key : KeyHandle) (data : Bytes) : Option Opening :=
  if data.length < lengthSize then return { answer := .error truncated }
  else do
    let (start, rest) ← splitAt? data lengthSize
    let length ← word? start
    let needed ← addWords? length.toUInt64 (Gcm.nonceSize + Gcm.tagSize).toUInt64
    if rest.length < needed.toNat then return { answer := .error truncated }
    else do
      let (wrapped, tail) ← splitAt? rest length.toNat
      let (nonce, sealed) ← splitAt? tail Gcm.nonceSize
      match key.unwrap wrapped with
      | .error e => return { answer := .error e, asked := [wrapped] }
      | .ok dataKey =>
        return { answer := ← openChecked? pool dataKey nonce sealed, asked := [wrapped] }

variable {pool : BlockingPool}

/-- A word and the room that nonce and tag take add up to no more than a word of twice the size. -/
theorem addWords?_toUInt64 (n : UInt32) :
    addWords? n.toUInt64 (Gcm.nonceSize + Gcm.tagSize).toUInt64 =
      some (n.toUInt64 + (Gcm.nonceSize + Gcm.tagSize).toUInt64) := by
  have hn := n.toNat_lt
  have hroom : (Gcm.nonceSize + Gcm.tagSize).toUInt64.toNat = 28 := rfl
  refine if_pos ?_
  rw [UInt32.toNat_toUInt64, hroom, UInt64.size]
  omega

theorem toNat_needed (n : UInt32) :
    (n.toUInt64 + (Gcm.nonceSize + Gcm.tagSize).toUInt64).toNat = n.toNat + 28 := by
  have hn := n.toNat_lt
  have hroom : (Gcm.nonceSize + Gcm.tagSize).toUInt64.toNat = 28 := rfl
  rw [UInt64.toNat_add, UInt32.toNat_toUInt64, hroom, Nat.mod_eq_of_lt (by omega)]

theorem openChecked?_eq (hpool : pool.Completes) (hnonce : nonce.length = Gcm.nonceSize)
    (dataKey sealed : Bytes) :
    openChecked? pool dataKey nonce sealed = some (openSealed dataKey nonce sealed) := by
  unfold openChecked?
  split
  · next hsize =>
    rw [openSized?, if_pos ⟨hsize, hnonce⟩, Option.bind_eq_bind, Option.bind_some, hpool.await_eq,
      ite_self]
    rfl
  · next hsize => rw [openSealed, if_neg hsize]; rfl

theorem decryptChecked?_of_isTruncated (h : IsTruncated data) (pool : BlockingPool)
    (key : KeyHandle) : decryptChecked? pool key data = some { answer := .error truncated } := by
  unfold decryptChecked?
  split
  · rfl
  · next hlong =>
    have hlong : 4 ≤ data.length := Nat.le_of_not_lt hlong
    have hfour : (data.take 4).length = 4 := by rw [List.length_take]; omega
    have hshort : data.length - 4 < (toUInt32 (data.take 4)).toNat + 28 := by
      rw [toNat_toUInt32 hfour]
      rcases h with h | h <;> omega
    simp only [lengthSize, splitAt?_of_le hlong, word?, hfour, Option.bind_eq_bind,
      Option.bind_some, if_true, addWords?_toUInt64, toNat_needed, List.length_drop, hshort]
    rfl

theorem IsEnvelope.decryptChecked?_eq (h : IsEnvelope data wrapped nonce sealed)
    (hpool : pool.Completes) (key : KeyHandle) : decryptChecked? pool key data =
      some { answer := decrypt key data, asked := [wrapped] } := by
  have hsealed : 16 ≤ sealed.length := h.le_sealed
  have hlong : 4 ≤ data.length := by rw [h.length_eq]; omega
  have hfour : (data.take 4).length = 4 := by rw [List.length_take]; omega
  have hlength : (toUInt32 (data.take 4)).toNat = wrapped.length := by
    rw [toNat_toUInt32 hfour, h.toNat_take]
  have hroom : ¬(wrapped ++ (nonce ++ sealed)).length < wrapped.length + 28 := by
    rw [List.length_append, List.length_append, h.length_nonce, Gcm.nonceSize]
    omega
  have hwrapped : splitAt? (wrapped ++ (nonce ++ sealed)) wrapped.length =
      some (wrapped, nonce ++ sealed) := by
    rw [splitAt?_of_le (by rw [List.length_append]; omega), List.take_left, List.drop_left]
  have hnonce : splitAt? (nonce ++ sealed) Gcm.nonceSize = some (nonce, sealed) := by
    rw [splitAt?_of_le (by rw [List.length_append, h.length_nonce]; omega),
      List.take_left' h.length_nonce, List.drop_left' h.length_nonce]
  have hfits : ¬data.length < lengthSize := Nat.not_lt.2 hlong
  rw [decryptChecked?, if_neg hfits, h.decrypt_eq]
  simp only [lengthSize, splitAt?_of_le hlong, word?, hfour, Option.bind_eq_bind, Option.bind_some,
    if_true, addWords?_toUInt64, toNat_needed, hlength, h.drop_eq, if_neg hroom, hwrapped, hnonce]
  cases key.unwrap wrapped with
  | error e => rfl
  | ok dataKey =>
    dsimp only
    rw [openChecked?_eq hpool h.length_nonce]
    rfl

/-- What opens is an envelope whose wrapped data key unwraps to a key that opens the sealed content,
and the parts of an envelope are unique. No check fails. The handle is asked about the wrapped data
key of an envelope, and nothing of data that are truncated. -/
theorem decrypt_opens_envelopes (key : KeyHandle) (data : Bytes) :
    (∀ plaintext, decrypt key data = .ok plaintext ↔
      ∃ wrapped nonce sealed dataKey, IsEnvelope data wrapped nonce sealed ∧
        key.unwrap wrapped = .ok dataKey ∧ dataKey.length = Gcm.keySize ∧
        Gcm.decrypt? dataKey nonce [] sealed = some plaintext) ∧
    (∀ wrapped nonce sealed wrapped' nonce' sealed', IsEnvelope data wrapped nonce sealed →
      IsEnvelope data wrapped' nonce' sealed' →
      wrapped = wrapped' ∧ nonce = nonce' ∧ sealed = sealed') ∧
    ∀ pool : BlockingPool, pool.Completes → ∃ asked,
      decryptChecked? pool key data = some ⟨decrypt key data, asked⟩ ∧
      (IsTruncated data → decrypt key data = .error truncated ∧ asked = []) ∧
      ∀ wrapped nonce sealed, IsEnvelope data wrapped nonce sealed → asked = [wrapped] := by
  refine ⟨fun plaintext => ⟨fun h => ?_, ?_⟩, fun _ _ _ _ _ _ h h' => h.unique h',
    fun pool hpool => ?_⟩
  · have hroom : ¬IsTruncated data := by
      intro htruncated
      rw [decrypt_of_isTruncated htruncated] at h
      cases h
    obtain ⟨wrapped, nonce, sealed, henvelope⟩ : ∃ wrapped nonce sealed,
        IsEnvelope data wrapped nonce sealed := ⟨_, _, _, isEnvelope_of_not_isTruncated hroom⟩
    rw [henvelope.decrypt_eq] at h
    cases hunwrap : key.unwrap wrapped with
    | error e =>
      rw [hunwrap] at h
      cases h
    | ok dataKey =>
      rw [hunwrap] at h
      exact ⟨wrapped, nonce, sealed, dataKey, henvelope, hunwrap, openSealed_eq_ok_iff.1 h⟩
  · rintro ⟨wrapped, nonce, sealed, dataKey, henvelope, hunwrap, hopen⟩
    rw [henvelope.decrypt_eq, hunwrap]
    exact openSealed_eq_ok_iff.2 hopen
  · by_cases htruncated : IsTruncated data
    · rw [decrypt_of_isTruncated htruncated key]
      exact ⟨[], decryptChecked?_of_isTruncated htruncated pool key, fun _ => ⟨rfl, rfl⟩,
        fun _ _ _ h => absurd htruncated h.not_isTruncated⟩
    · have henvelope := isEnvelope_of_not_isTruncated htruncated
      exact ⟨_, henvelope.decryptChecked?_eq hpool key, fun h => absurd h htruncated,
        fun _ _ _ h => congrArg (fun wrapped => [wrapped]) (henvelope.unique h).1⟩

/-- A sealed content opens, and its wrapped data key is all that is unwrapped. Data that state the
largest length are truncated. -/
theorem decrypt_opens_envelopes_meow :
    (∃ data wrapped nonce sealed, IsEnvelope data wrapped nonce sealed ∧
      decryptChecked? .prompt (.derived .zero "K") data = some ⟨.ok (utf8 "meow"), [wrapped]⟩) ∧
    IsTruncated ([255, 255, 255, 255] ++ List.replicate 64 0) ∧
    decryptChecked? .prompt (.derived .zero "K") ([255, 255, 255, 255] ++ List.replicate 64 0) =
      some ⟨.error truncated, []⟩ := by
  constructor
  · have hsized : plainDraw.IsSized := ⟨rfl, rfl, rfl⟩
    obtain ⟨data, hdata⟩ := exists_encrypt_derived .zero "K" hsized (utf8 "meow")
    have hopen := decrypt_encrypt_derived hsized hdata
    obtain ⟨hopens, -, hchecked⟩ := decrypt_opens_envelopes (.derived .zero "K") data
    obtain ⟨wrapped, nonce, sealed, -, henvelope, -⟩ := (hopens _).1 hopen
    obtain ⟨asked, hasked, -, hwrapped⟩ := hchecked .prompt BlockingPool.completes_prompt
    obtain rfl := hwrapped wrapped nonce sealed henvelope
    rw [hopen] at hasked
    exact ⟨data, wrapped, nonce, sealed, henvelope, hasked⟩
  · have htruncated : IsTruncated ([255, 255, 255, 255] ++ List.replicate 64 0) := by
      unfold IsTruncated
      decide
    obtain ⟨-, -, hchecked⟩ := decrypt_opens_envelopes (.derived .zero "K")
      ([255, 255, 255, 255] ++ List.replicate 64 0)
    obtain ⟨asked, hasked, hanswer, -⟩ := hchecked .prompt BlockingPool.completes_prompt
    obtain ⟨herror, rfl⟩ := hanswer htruncated
    rw [herror] at hasked
    exact ⟨htruncated, hasked⟩

end Envelope
end SealingProxy
