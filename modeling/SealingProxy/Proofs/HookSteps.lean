import SealingProxy.Hooks.Download
import SealingProxy.Hooks.Resumable
/-! # What a hook does to the state

Whether it fails or not, a hook asks the cache for at most one key and leaves the sessions alone. Two
hooks do more: the response half of an opening stores a session, and a completion takes the session
of the id that it carries. Later proofs go by these statements and do not open the hooks again. -/

namespace SealingProxy

variable {σ : Type}

namespace CipherCache

theorem encrypt_snd (service : KeyService) (now : Instant) (draw : SealDraw) (keyId : String)
    (plaintext : Bytes) (c : CipherCache) :
    (c.encrypt service now draw keyId plaintext).2 = (c.get service now keyId).2 := by
  unfold encrypt
  split
  · next h => rw [h]
  · next h => rw [h]

theorem decrypt_snd (service : KeyService) (now : Instant) (keyId : String) (data : Bytes)
    (c : CipherCache) : (c.decrypt service now keyId data).2 = (c.get service now keyId).2 := by
  unfold decrypt
  split
  · next h => rw [h]
  · next h => rw [h]

end CipherCache

/-- The second state is the first one after at most one request for a key. -/
def State.AsksOnce (c : Context) (o : Occasion) (s s' : State σ) : Prop :=
  s' = s ∨ ∃ keyId, s' = { s with ciphers := (s.ciphers.get c.keys o.now keyId).2 }

theorem State.AsksOnce.sessions_eq {c : Context} {o : Occasion} {s s' : State σ}
    (h : s.AsksOnce c o s') : s'.sessions = s.sessions := by
  rcases h with rfl | ⟨keyId, rfl⟩
  · rfl
  · rfl

namespace Hooks

variable (c : Context) (o : Occasion) (s : State σ) (x : Exchange)

theorem asksOnce_encrypt (keyId : String) (plaintext : Bytes) :
    s.AsksOnce c o (s.encrypt c o keyId plaintext).2 := by
  refine .inr ⟨keyId, ?_⟩
  rw [← CipherCache.encrypt_snd c.keys o.now o.draw keyId plaintext]
  rfl

theorem asksOnce_decrypt (keyId : String) (data : Bytes) :
    s.AsksOnce c o (s.decrypt c o keyId data).2 := by
  refine .inr ⟨keyId, ?_⟩
  rw [← CipherCache.decrypt_snd c.keys o.now keyId data]
  rfl

theorem asksOnce_composeSealed (r : Request) (bucket keyId : String) :
    s.AsksOnce c o (composeSealed c o s r bucket keyId).2 := by
  have he := asksOnce_encrypt c o s keyId r.body
  unfold composeSealed
  split
  · exact .inl rfl
  · split
    · next h => rwa [h] at he
    · next h => rwa [h] at he

theorem asksOnce_multipartRequest : s.AsksOnce c o (multipartRequest c o s x).state := by
  unfold multipartRequest
  split
  · exact .inl rfl
  · next body keyId _ =>
    have he := asksOnce_encrypt c o s keyId body.payload
    split
    · next h => rwa [h] at he
    · next h => rwa [h] at he

theorem asksOnce_mediaRequest : s.AsksOnce c o (mediaRequest c o s x).state := by
  unfold mediaRequest
  dsimp only
  split
  · exact .inl rfl
  · next keyId _ =>
    have hc := asksOnce_composeSealed c o s x.request
      ((ObjectPath.bucket? x.request.path).getD "") keyId
    split
    · next h => rwa [h] at hc
    · next h => rwa [h] at hc

theorem asksOnce_restoreUpload : s.AsksOnce c o (restoreUpload c o s x).state := by
  unfold restoreUpload
  split
  · exact .inl rfl
  split
  · split <;> exact .inl rfl
  · exact .inl rfl

theorem asksOnce_downloadResponse : s.AsksOnce c o (downloadResponse c o s x).state := by
  unfold downloadResponse
  split
  · exact .inl rfl
  · next response _ =>
    split
    · split
      · exact .inl rfl
      · next keyId _ =>
        have hd := asksOnce_decrypt c o s keyId response.body
        split
        · next h => rwa [h] at hd
        · next h =>
          rw [h] at hd
          split <;> exact hd
    · exact .inl rfl

theorem asksOnce_resourceResponse : s.AsksOnce c o (resourceResponse c o s x).state := by
  unfold resourceResponse
  split
  · exact .inl rfl
  split
  · split <;> exact .inl rfl
  · exact .inl rfl

variable [SessionStore σ]

/-- A completion takes the session of the id it carries, if it carries one. -/
theorem completionRequest_cases :
    (∃ e, completedId x.request = .error e ∧ (completionRequest c o s x).state = s) ∨
    ∃ id, completedId x.request = .ok id ∧
      State.AsksOnce c o { s with sessions := (SessionStore.take o.toMoment id s.sessions).2 }
        (completionRequest c o s x).state := by
  unfold completionRequest
  split
  · next e he => exact .inl ⟨e, he, rfl⟩
  · next id hid =>
    refine .inr ⟨id, hid, ?_⟩
    split
    · next h => rw [h]; exact .inl rfl
    · next session sessions h =>
      rw [h]
      dsimp only
      split
      · exact .inl rfl
      · next keyId _ =>
        have hc := asksOnce_composeSealed c o { s with sessions } (addressTo session x.request)
          session.bucket keyId
        split
        · next h => rwa [h] at hc
        · next h => rwa [h] at hc

/-- The response half of an opening stores the session that the request declares under the id that
the response gives, or it changes nothing because there is no such session or id. -/
theorem openingResponse_cases :
    ((openingResponse c o s x).state = s ∧ ∀ r id session, x.response = some r →
      r.isSuccess = true → uploadId? r = some id →
        declaredSession x.request o.now ≠ .ok session) ∨
    ∃ r id session, x.response = some r ∧ r.isSuccess = true ∧ uploadId? r = some id ∧
      declaredSession x.request o.now = .ok session ∧ (openingResponse c o s x).state =
        { s with sessions := (SessionStore.put o.toMoment id session s.sessions).2 } := by
  unfold openingResponse
  split
  · next hx => exact .inl ⟨rfl, fun r _ _ hr => by rw [hx] at hr; cases hr⟩
  · next response hx =>
    split
    · next hsuccess =>
      split
      · next hid =>
        refine .inl ⟨rfl, fun r id _ hr _ hid' => ?_⟩
        obtain rfl := Option.some.inj (hx.symm.trans hr)
        rw [hid] at hid'
        cases hid'
      · next id hid =>
        split
        · next hdeclared =>
          refine .inl ⟨rfl, fun _ _ session _ _ _ hdeclared' => ?_⟩
          rw [hdeclared] at hdeclared'
          cases hdeclared'
        · next session hdeclared =>
          refine .inr ⟨response, id, session, hx, hsuccess, hid, hdeclared, ?_⟩
          split
          · next h => rw [h]; rfl
          · next h => rw [h]; rfl
    · next hsuccess =>
      refine .inl ⟨rfl, fun r _ _ hr hsuccess' => ?_⟩
      obtain rfl := Option.some.inj (hx.symm.trans hr)
      exact absurd hsuccess' hsuccess

theorem ciphers_openingResponse : (openingResponse c o s x).state.ciphers = s.ciphers := by
  rcases openingResponse_cases c o s x with ⟨h, -⟩ | ⟨_, _, _, _, _, _, _, h⟩
  · rw [h]
  · rw [h]

/-- The response half of an opening changes nothing in the exchange. -/
theorem exchange_openingResponse : (openingResponse c o s x).exchange = x := by
  unfold openingResponse
  split
  · rfl
  split
  · split
    · rfl
    split
    · rfl
    split <;> rfl
  · rfl

end Hooks
end SealingProxy
