import SealingProxy.Engine
import SealingProxy.Proofs.StashLaws
/-! # The object of an upload

Which object a request uploads, which key it is sealed under, and what is stashed of it. The three
uploads find their object and their key in different places; what they stash is the same. -/

namespace SealingProxy

variable {σ : Type}

namespace Operation
open Hooks

def isUpload : Operation → Bool
  | multipartUpload | mediaUpload | sessionCompletion => true
  | _ => false

def object? (op : Operation) (r : Request) : Option Bytes :=
  match op with
  | multipartUpload => (r.header? .contentType).bind fun t =>
      (MultipartBody.parse r.body t).toOption.map (·.payload)
  | mediaUpload | sessionCompletion => some r.body
  | _ => none

def sealingKey? [SessionStore σ] (op : Operation) (c : Context) (o : Occasion) (s : State σ)
    (r : Request) : Option String :=
  match op with
  | multipartUpload => (readMultipart c r).toOption.map (·.2)
  | mediaUpload => (uploadKey c ((ObjectPath.bucket? r.path).getD "") none).toOption
  | sessionCompletion => (completedId r).toOption.bind fun id =>
      (SessionStore.take o.toMoment id s.sessions).1.toOption.bind fun session =>
        (uploadKey c session.bucket (ObjectPath.bucket? r.path)).toOption
  | _ => none

end Operation

/-- The request holds what the response half of an upload needs to know of the object. -/
structure Request.Stashes (r : Request) (content : Bytes) : Prop where
  size : r.header? .stashedSize = some (Decimal.text content.length)
  md5 : r.header? .stashedMd5 = some (contentMd5 content)

theorem Request.Stashes.stashedFacts_eq {r r' : Request} {content : Bytes}
    (h : r.Stashes content) (h' : r'.Stashes content) :
    Hooks.stashedFacts r = Hooks.stashedFacts r' := by
  rw [Hooks.stashedFacts, h.size, h.md5, Hooks.stashedFacts, h'.size, h'.md5]

namespace Hooks

variable {c : Context}

/-- The key of a multipart upload follows from its path and its resource. -/
theorem readMultipart_eq_ok_iff {r : Request} {body : MultipartBody} {keyId : String} :
    readMultipart c r = .ok (body, keyId) ↔
      ∃ t, r.header? .contentType = some t ∧ MultipartBody.parse r.body t = .ok body ∧
        uploadKey c (((namedBucket? body.metadata).or (ObjectPath.bucket? r.path)).getD "")
          (ObjectPath.bucket? r.path) = .ok keyId := by
  constructor
  · intro h
    unfold readMultipart at h
    split at h
    · cases h
    · next t ht =>
      split at h
      · cases h
      · next hparse =>
        dsimp only at h
        split at h
        · cases h
        · next hkey =>
          cases h
          exact ⟨t, ht, hparse, hkey⟩
  · rintro ⟨t, ht, hparse, hkey⟩
    unfold readMultipart
    rw [ht]
    dsimp only
    rw [hparse]
    dsimp only
    rw [hkey]

end Hooks

namespace Operation
open Hooks

variable {c : Context} {r : Request} {keyId : String}

theorem object?_of_readMultipart {body : MultipartBody}
    (h : readMultipart c r = .ok (body, keyId)) :
    multipartUpload.object? r = some body.payload := by
  obtain ⟨t, ht, hparse, -⟩ := readMultipart_eq_ok_iff.1 h
  rw [object?, ht, Option.bind_some, hparse]
  rfl

variable [SessionStore σ] {o : Occasion} {s : State σ}

theorem sealingKey?_of_readMultipart {body : MultipartBody}
    (h : readMultipart c r = .ok (body, keyId)) :
    multipartUpload.sealingKey? c o s r = some keyId := by
  rw [sealingKey?, h]
  rfl

theorem sealingKey?_mediaUpload
    (h : uploadKey c ((ObjectPath.bucket? r.path).getD "") none = .ok keyId) :
    mediaUpload.sealingKey? c o s r = some keyId := by
  rw [sealingKey?, h]
  rfl

theorem sealingKey?_sessionCompletion {id : String} {session : Session} {sessions : σ}
    (hid : completedId r = .ok id)
    (htake : SessionStore.take o.toMoment id s.sessions = (.ok session, sessions))
    (hkey : uploadKey c session.bucket (ObjectPath.bucket? r.path) = .ok keyId) :
    sessionCompletion.sealingKey? c o s r = some keyId := by
  rw [sealingKey?, hid]
  simp only [Except.toOption, Option.bind_some, htake, hkey]

end Operation

namespace Hooks

variable {c : Context} {o : Occasion} {s : State σ} {x : Exchange}

theorem stashes_sealMultipart (r : Request) (body : MultipartBody) (content : Bytes)
    (keyId version : String) (ciphertext : Bytes) :
    (sealMultipart r body (Sidecar.ofPlaintext content keyId version) ciphertext).Stashes content :=
  ⟨(header?_stashFacts r _ content _ keyId version).1,
    (header?_stashFacts r _ content _ keyId version).2⟩

theorem stashes_composeUpload (r : Request) (boundary bucket name : String) (content : Bytes)
    (keyId version : String) (ciphertext : Bytes) :
    (composeUpload r boundary bucket name (Sidecar.ofPlaintext content keyId version)
      ciphertext).Stashes content :=
  ⟨(header?_stashFacts _ _ content _ keyId version).1,
    (header?_stashFacts _ _ content _ keyId version).2⟩

theorem stashes_composeSealed {r q : Request} {bucket keyId : String}
    (h : (composeSealed c o s r bucket keyId).1 = .ok q) : q.Stashes r.body := by
  obtain ⟨name, ciphertext, -, -, rfl⟩ := of_composeSealed_ok h
  exact stashes_composeUpload ..

end Hooks

namespace Operation
open Hooks

variable [SessionStore σ] {c : Context} {o : Occasion} {s : State σ} {x : Exchange}

/-- An upload that succeeds has an object, and leaves its size and digest for the response half. -/
theorem exists_stashes_of_requestHook_ok {op : Operation} (hop : op.isUpload = true)
    (h : (op.requestHook c o s x).result = .ok ()) :
    ∃ content, op.object? x.request = some content ∧
      (op.requestHook c o s x).exchange.request.Stashes content := by
  cases op with
  | multipartUpload =>
    obtain ⟨body, keyId, ciphertext, hread, -, hr⟩ := of_multipartRequest_ok h
    refine ⟨body.payload, object?_of_readMultipart hread, ?_⟩
    rw [requestHook, hr]
    exact stashes_sealMultipart ..
  | mediaUpload =>
    obtain ⟨keyId, r, -, hcompose, hr⟩ := of_mediaRequest_ok h
    refine ⟨x.request.body, rfl, ?_⟩
    rw [requestHook, hr]
    exact stashes_composeSealed hcompose
  | sessionCompletion =>
    obtain ⟨id, session, sessions, keyId, r, -, -, -, hcompose, hr⟩ := of_completionRequest_ok h
    have hstashes : r.Stashes (addressTo session x.request).body := stashes_composeSealed hcompose
    refine ⟨x.request.body, rfl, ?_⟩
    rw [requestHook, hr]
    exact hstashes
  | sessionOpening => cases hop
  | download => cases hop
  | resourceFetch => cases hop
  | passThrough => cases hop

end Operation
end SealingProxy
