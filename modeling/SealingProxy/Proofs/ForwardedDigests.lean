import SealingProxy.Proofs.UploadDownload
import SealingProxy.Proofs.UploadedObjects
/-! # The headers that describe a body

Every upload forwards another body than the one it received, and states the length of the body that
it forwards. The digests that the client stated are those of the body that it sent. An upload of a
bare object leaves them out. A multipart upload forwards them as they are, so that a body with a
sealed object goes out under the digests of the plaintext. -/

namespace SealingProxy

def HeaderName.digests : List HeaderName :=
  [.contentMd5, .storedHash]

namespace Request

/-- What may be forwarded states the length of the body, and no other length. -/
def StatesLength (r : Request) : Prop :=
  r.forwardable.values .contentLength = [utf8 (Decimal.text r.body.length)]

/-- What may be forwarded states no digest. -/
def StatesNoDigest (r : Request) : Prop :=
  ∀ n ∈ HeaderName.digests, r.forwardable.values n = []

theorem values_forwardable {n : HeaderName} (hn : n ∉ HeaderName.stash) (r : Request) :
    r.forwardable.values n = r.headers.values n :=
  Headers.values_eraseAll hn r.headers

theorem not_mem_stash_of_digest {n : HeaderName} (hn : n ∈ HeaderName.digests) :
    n ∉ HeaderName.stash := by
  revert n
  decide

theorem statesLength_setBody (r : Request) (body : Bytes) : (r.setBody body).StatesLength :=
  (values_forwardable (by decide) _).trans (Headers.values_insert_self _ _ _)

end Request

namespace Hooks

variable {σ : Type} {c : Context} {o : Occasion} {s : State σ} {r sent : Request}

/-- No header that describes the body as the client sent it passes to a composed upload. -/
theorem values_composeUpload_of_mem {n : HeaderName} (hn : n ∈ bodyHeaders) (r : Request)
    (boundary bucket name : String) (sidecar : Sidecar) (ciphertext : Bytes) :
    (composeUpload r boundary bucket name sidecar ciphertext).headers.values n = [] := by
  -- A composed upload sets headers of its own, but none of these.
  have hother : ∀ n ∈ bodyHeaders, n ≠ .contentLength ∧ n ∉ HeaderName.stash ∧ n ≠ .accept ∧
      n ≠ .contentType := by decide
  obtain ⟨hlength, hstash, haccept, htype⟩ := hother n hn
  unfold composeUpload Request.setBody
  dsimp only
  rw [Headers.values_insert_of_ne hlength, values_stashFacts hstash,
    Headers.values_set_of_ne haccept, Headers.values_set_of_ne htype,
    Headers.values_eraseAll_of_mem hn]

theorem statesNoDigest_composeUpload (r : Request) (boundary bucket name : String)
    (sidecar : Sidecar) (ciphertext : Bytes) :
    (composeUpload r boundary bucket name sidecar ciphertext).StatesNoDigest := by
  have hbody : HeaderName.digests ⊆ bodyHeaders := by decide
  intro n hn
  rw [Request.values_forwardable (Request.not_mem_stash_of_digest hn),
    values_composeUpload_of_mem (hbody hn)]

theorem describes_of_composeSealed_ok {bucket keyId : String}
    (h : (composeSealed c o s r bucket keyId).1 = .ok sent) :
    sent.StatesLength ∧ sent.StatesNoDigest := by
  obtain ⟨name, ciphertext, -, -, rfl⟩ := of_composeSealed_ok h
  exact ⟨Request.statesLength_setBody _ _,
    statesNoDigest_composeUpload r o.boundary bucket name _ ciphertext⟩

theorem describes_of_multipartRequest_ok {x : Exchange}
    (h : (multipartRequest c o s x).result = .ok ()) :
    (multipartRequest c o s x).exchange.request.StatesLength ∧
      ∀ n ∈ HeaderName.digests, (multipartRequest c o s x).exchange.request.forwardable.values n =
        x.request.headers.values n := by
  obtain ⟨m, keyId, ciphertext, -, -, hr⟩ := of_multipartRequest_ok h
  rw [hr]
  refine ⟨Request.statesLength_setBody _ _, fun n hn => ?_⟩
  have hlength : ∀ n ∈ HeaderName.digests, n ≠ .contentLength := by decide
  have hstash := Request.not_mem_stash_of_digest hn
  rw [Request.values_forwardable hstash, values_sealMultipart (hlength n hn) hstash]

end Hooks

namespace Engine
open Hooks

variable {σ : Type} [SessionStore σ] {e : Engine} {o : Occasion} {s : State σ} {x : Exchange}

/-- An upload that succeeds states the length of the body that it forwards. The digests that the
client stated are left out, unless the upload is a multipart one, which forwards them as they
are. -/
theorem onRequest_describes_body (hupload : (e.operation x.request).isUpload = true)
    (h : (e.onRequest o s x).result = .ok ()) :
    (e.onRequest o s x).exchange.request.StatesLength ∧
    (e.operation x.request ≠ .multipartUpload →
      (e.onRequest o s x).exchange.request.StatesNoDigest) ∧
    (e.operation x.request = .multipartUpload → ∀ n ∈ HeaderName.digests,
      (e.onRequest o s x).exchange.request.forwardable.values n = x.request.headers.values n) := by
  cases hop : e.operation x.request with
  | multipartUpload =>
    rw [onRequest_multipartUpload hop] at h ⊢
    obtain ⟨hlength, hdigests⟩ := describes_of_multipartRequest_ok h
    exact ⟨hlength, fun hne => absurd rfl hne, fun _ => hdigests⟩
  | mediaUpload =>
    rw [onRequest_mediaUpload hop] at h ⊢
    obtain ⟨keyId, sent, -, hcompose, hr⟩ := of_mediaRequest_ok h
    obtain ⟨hlength, hnone⟩ := describes_of_composeSealed_ok hcompose
    rw [hr]
    exact ⟨hlength, fun _ => hnone, fun heq => nomatch heq⟩
  | sessionCompletion =>
    rw [onRequest_sessionCompletion hop] at h ⊢
    obtain ⟨id, session, sessions, keyId, sent, -, -, -, hcompose, hr⟩ := of_completionRequest_ok h
    obtain ⟨hlength, hnone⟩ := describes_of_composeSealed_ok hcompose
    rw [hr]
    exact ⟨hlength, fun _ => hnone, fun heq => nomatch heq⟩
  | sessionOpening | download | resourceFetch | passThrough =>
    rw [hop] at hupload
    cases hupload

def digestHeaders (body : Bytes) : List (HeaderName × Bytes) :=
  [(.contentMd5, utf8 (contentMd5 body)), (.storedHash, utf8 ("md5=" ++ contentMd5 body))]

def digestedPhoto : Exchange where
  request := { Request.ofTarget "POST" "storage.googleapis.com"
      "/upload/storage/v1/b/photos/o?uploadType=media&name=cat.jpg" with
    headers := ⟨digestHeaders (utf8 "meow")⟩
    body := utf8 "meow" }

theorem onRequest_describes_body_photo :
    (Gateway.photoGateway.engine.onRequest sealingOccasion Gateway.freshState
        digestedPhoto).exchange.request.StatesLength ∧
      (Gateway.photoGateway.engine.onRequest sealingOccasion Gateway.freshState
        digestedPhoto).exchange.request.StatesNoDigest := by
  have hop : Gateway.photoGateway.engine.operation digestedPhoto.request = .mediaUpload := by
    unfold digestedPhoto
    rw [operation_with]
    decide +kernel
  have hok : (Gateway.photoGateway.engine.onRequest sealingOccasion Gateway.freshState
      digestedPhoto).result = .ok () := by
    obtain ⟨ciphertext, hsealed⟩ := Envelope.exists_encrypt_derived .zero "k"
      isSized_sealingOccasion (utf8 "meow")
    have hname : digestedPhoto.request.query.get? "name" = some "cat.jpg" := by decide +kernel
    rw [onRequest_mediaUpload hop]
    exact mediaRequest_eq_ok (by decide +kernel) hname (by decide)
      (State.encrypt_eq_ok reaches_freshState.holds handle_photoGateway hsealed)
  obtain ⟨hlength, hnone, -⟩ := onRequest_describes_body (by rw [hop]; rfl) hok
  exact ⟨hlength, hnone (by rw [hop]; decide)⟩

def digestedBody : MultipartBody where
  boundary := "b"
  metadata := [("bucket", .string "photos"), ("name", .string "cat.jpg")]
  metadataHeaders := {}
  payload := utf8 "meow"
  payloadHeaders := {}

def digestedUpload : Exchange where
  request := { Request.ofTarget "POST" "storage.googleapis.com"
      "/upload/storage/v1/b/photos/o?uploadType=multipart" with
    headers := ⟨(.contentType, utf8 "multipart/related; boundary=b") ::
      digestHeaders digestedBody.write⟩
    body := digestedBody.write }

/-- The object is sealed, and the digests are those of the body that held it in plain. -/
theorem onRequest_states_received_digests :
    Gateway.photoGateway.engine.operation digestedUpload.request = .multipartUpload ∧
    (Gateway.photoGateway.engine.onRequest sealingOccasion Gateway.freshState
      digestedUpload).result = .ok () ∧
    (Gateway.photoGateway.engine.onRequest sealingOccasion Gateway.freshState
      digestedUpload).exchange.request.forwardable.values .contentMd5 =
        [utf8 (contentMd5 digestedUpload.request.body)] ∧
    (Gateway.photoGateway.engine.onRequest sealingOccasion Gateway.freshState
      digestedUpload).exchange.request.forwardable.values .storedHash =
        [utf8 ("md5=" ++ contentMd5 digestedUpload.request.body)] ∧
    ¬(Gateway.photoGateway.engine.onRequest sealingOccasion Gateway.freshState
      digestedUpload).exchange.request.StatesNoDigest := by
  have hop : Gateway.photoGateway.engine.operation digestedUpload.request = .multipartUpload := by
    unfold digestedUpload
    rw [operation_with]
    decide +kernel
  have hparse : MultipartBody.parse digestedUpload.request.body "multipart/related; boundary=b" =
      .ok digestedBody := by with_unfolding_all rfl
  have hok : (multipartRequest Gateway.photoGateway.engine.context sealingOccasion
      Gateway.freshState { digestedUpload with operation := some .multipartUpload }).result =
        .ok () := by
    obtain ⟨ciphertext, hsealed⟩ := Envelope.exists_encrypt_derived .zero "k"
      isSized_sealingOccasion digestedBody.payload
    exact multipartRequest_eq_ok
      (readMultipart_eq_ok_iff.2 ⟨_, by decide +kernel, hparse, by decide +kernel⟩)
      (State.encrypt_eq_ok reaches_freshState.holds handle_photoGateway hsealed)
  obtain ⟨-, hdigests⟩ := describes_of_multipartRequest_ok hok
  have hmd5 := hdigests .contentMd5 (by decide)
  rw [onRequest_multipartUpload hop]
  refine ⟨hop, hok, hmd5, hdigests .storedHash (by decide), fun hnone => ?_⟩
  rw [hnone .contentMd5 (by decide)] at hmd5
  cases hmd5

end Engine
end SealingProxy
