import SealingProxy.Proofs.MappedKeys
/-! # The bucket that a resource names

An upload looks for the key of the bucket that its resource names, and falls back on the bucket in
its target. The resource comes with the object or with the opening of a session. A multipart upload
takes the name up to a slash, and a session records the whole name. So the same resource leads to
the same key on both ways as long as the name holds no slash. With one, a multipart upload finds the
key of the bucket before the slash, which the completion of a session passes by. -/

namespace SealingProxy

variable {σ : Type}

/-- The request carries a content that is sealed under the key, and records the key with it. -/
def Request.CarriesSealed (r : Request) (c : Context) (o : Occasion) (s : State σ)
    (content : Bytes) (keyId : String) : Prop :=
  ∃ (sent : MultipartBody) (resource : Resource), r.body = sent.write ∧
    sent.metadata = (Sidecar.ofPlaintext content keyId c.version).writeInto resource ∧
    (s.encrypt c o keyId content).1 = .ok sent.payload

/-- The request is a multipart upload to the bucket, and its first part is the resource. -/
structure Request.IsMultipartOf (r : Request) (bucket : String) (resource : Resource) : Prop where
  target : ObjectPath.bucket? r.path = some bucket
  metadata : ∃ t body, r.header? .contentType = some t ∧
    MultipartBody.parse r.body t = .ok body ∧ body.metadata = resource

/-- The request opens a session for the bucket, and its body is the resource. -/
structure Request.IsOpeningOf (r : Request) (bucket : String) (resource : Resource) : Prop where
  target : ObjectPath.bucket? r.path = some bucket
  declared : Hooks.declaredResource r.body = .ok resource

/-- The object of the request is sealed under the key: the hook finds this key, and what it forwards
if it succeeds carries the object so sealed. -/
structure Operation.SealsUnder [SessionStore σ] (op : Operation) (c : Context) (o : Occasion)
    (s : State σ) (x : Exchange) (keyId : String) : Prop where
  found : op.sealingKey? c o s x.request = some keyId
  carried : (op.requestHook c o s x).result = .ok () →
    ∃ content, op.object? x.request = some content ∧
      (op.requestHook c o s x).exchange.request.CarriesSealed c o s content keyId

namespace Hooks

variable {c : Context} {o : Occasion} {s : State σ} {x : Exchange} {resource : Resource}

theorem carriesSealed_composeSealed {r q : Request} {bucket keyId : String}
    (h : (composeSealed c o s r bucket keyId).1 = .ok q) :
    q.CarriesSealed c o s r.body keyId := by
  obtain ⟨name, ciphertext, -, hsealed, rfl⟩ := of_composeSealed_ok h
  exact ⟨composeBody o.boundary bucket name (objectContentType r)
    (Sidecar.ofPlaintext r.body keyId c.version) ciphertext,
    [("bucket", .string bucket), ("contentType", .string (objectContentType r)),
      ("name", .string name)], rfl, rfl, hsealed⟩

/-! ## The bucket of either way -/

/-- A name without a slash is named as a whole. -/
theorem namedBucket?_eq_field? (h : ∀ b, field? resource "bucket" = some b → '/' ∉ b.toList) :
    namedBucket? resource = field? resource "bucket" := by
  unfold field? at h ⊢
  unfold namedBucket?
  cases hb : (Fields.get? resource "bucket").bind Json.string? with
  | none => rfl
  | some b =>
    -- The empty name names no bucket on either way.
    rw [hb] at h
    dsimp only
    rw [Option.filter_some] at h ⊢
    by_cases hempty : b = ""
    · subst hempty
      rfl
    · have hne : (b != "") = true := by simpa using hempty
      rw [if_pos hne] at h ⊢
      have hwhole : b.toList.takeWhile (· != '/') = b.toList := by
        rw [List.takeWhile_eq_self_iff]
        intro a ha
        rw [bne_iff_ne]
        rintro rfl
        exact h b rfl ha
      have hnonempty : b.toList.isEmpty = false := by
        rw [List.isEmpty_eq_false_iff, ne_eq, String.toList_eq_nil_iff]
        exact hempty
      rw [hwhole, hnonempty, String.ofList_toList]
      rfl

/-- An opening with a name declares a session, for the bucket in its resource or in its target. -/
theorem exists_declaredSession {r : Request} {target : String} (h : r.IsOpeningOf target resource)
    (hname : (field? resource "name").isSome = true) (now : Instant) :
    ∃ session, declaredSession r now = .ok session ∧
      session.bucket = (field? resource "bucket").getD target := by
  obtain ⟨name, hname⟩ := Option.isSome_iff_exists.1 hname
  have hne : (name != "") = true := by
    unfold field? at hname
    exact (Option.filter_eq_some_iff.1 hname).2
  unfold declaredSession
  rw [h.declared, h.target]
  dsimp only
  rw [hname, Option.some_or, Option.filter_some, if_pos hne]
  refine ⟨_, rfl, ?_⟩
  cases field? resource "bucket" <;> rfl

theorem readMultipart_of_isMultipartOf {r : Request} {target key : String}
    (h : r.IsMultipartOf target resource) (hkey : c.resolve target = some key) :
    ∃ body, readMultipart c r =
      .ok (body, (c.resolve ((namedBucket? resource).getD target)).getD key) := by
  obtain ⟨t, body, ht, hparse, rfl⟩ := h.metadata
  refine ⟨body, readMultipart_eq_ok_iff.2 ⟨t, ht, hparse, ?_⟩⟩
  rw [h.target, uploadKey_eq_ok hkey]
  cases namedBucket? body.metadata <;> rfl

end Hooks

namespace Operation
open Hooks

variable [SessionStore σ] {c : Context} {o : Occasion} {s : State σ} {x : Exchange}

/-- Every upload seals its object under the key that it finds. -/
theorem sealsUnder_of_sealingKey? {op : Operation} {keyId : String}
    (h : op.sealingKey? c o s x.request = some keyId) : op.SealsUnder c o s x keyId := by
  refine ⟨h, fun hok => ?_⟩
  cases op with
  | multipartUpload =>
    obtain ⟨body, keyId', ciphertext, hread, hsealed, hr⟩ := of_multipartRequest_ok hok
    obtain rfl := Option.some.inj ((sealingKey?_of_readMultipart hread).symm.trans h)
    refine ⟨body.payload, object?_of_readMultipart hread, ?_⟩
    rw [requestHook, hr]
    exact ⟨_, body.metadata, rfl, rfl, hsealed⟩
  | mediaUpload =>
    obtain ⟨keyId', r, hkey, hcompose, hr⟩ := of_mediaRequest_ok hok
    obtain rfl := Option.some.inj ((sealingKey?_mediaUpload hkey).symm.trans h)
    refine ⟨x.request.body, rfl, ?_⟩
    rw [requestHook, hr]
    exact carriesSealed_composeSealed hcompose
  | sessionCompletion =>
    obtain ⟨id, session, sessions, keyId', r, hid, htake, hkey, hcompose, hr⟩ :=
      of_completionRequest_ok hok
    obtain rfl := Option.some.inj ((sealingKey?_sessionCompletion hid htake hkey).symm.trans h)
    have hcarries : r.CarriesSealed c o { s with sessions } x.request.body keyId' :=
      carriesSealed_composeSealed (r := addressTo session x.request) hcompose
    refine ⟨x.request.body, rfl, ?_⟩
    rw [requestHook, hr]
    exact hcarries
  | sessionOpening => cases h
  | download => cases h
  | resourceFetch => cases h
  | passThrough => cases h

end Operation

namespace Hooks

variable {c : Context}

/-- A resource that names an object is uploaded to a bucket that has a key. As the first part of a
multipart upload it leads to the key of the bucket it names up to a slash, as the body of an opening
to the key of the bucket it names as a whole, and in both cases else to the key of the target. So
these are the same if the name holds no slash. -/
theorem sealsUnder_of_resource [SessionStore σ] {target key : String}
    (hkey : c.resolve target = some key) {resource : Resource}
    (hname : (field? resource "name").isSome = true) :
    (∀ (o : Occasion) (s : State σ) (x : Exchange), x.request.IsMultipartOf target resource →
      Operation.multipartUpload.SealsUnder c o s x
        ((c.resolve ((namedBucket? resource).getD target)).getD key)) ∧
    (∀ (opening : Request) (now : Instant), opening.IsOpeningOf target resource →
      ∃ session, declaredSession opening now = .ok session ∧
        ∀ (o : Occasion) (s : State σ) (y : Exchange) (id : String) (taken : Session),
          ObjectPath.bucket? y.request.path = some target → completedId y.request = .ok id →
          (SessionStore.take o.toMoment id s.sessions).1 = .ok taken →
          taken.bucket = session.bucket →
          Operation.sessionCompletion.SealsUnder c o s y
            ((c.resolve ((field? resource "bucket").getD target)).getD key)) ∧
    ((∀ b, field? resource "bucket" = some b → '/' ∉ b.toList) →
      (c.resolve ((namedBucket? resource).getD target)).getD key =
        (c.resolve ((field? resource "bucket").getD target)).getD key) := by
  refine ⟨fun o s x hx => ?_, fun opening now hopening => ?_, fun hslash => ?_⟩
  · obtain ⟨body, hread⟩ := readMultipart_of_isMultipartOf hx hkey
    exact Operation.sealsUnder_of_sealingKey? (Operation.sealingKey?_of_readMultipart hread)
  · obtain ⟨session, hsession, hbucket⟩ := exists_declaredSession hopening hname now
    refine ⟨session, hsession, fun o s y id taken htarget hid htake htaken => ?_⟩
    apply Operation.sealsUnder_of_sealingKey?
    rw [Operation.sealingKey?, hid, htarget]
    dsimp only [Except.toOption, Option.bind_some]
    rw [htake]
    dsimp only [Option.bind_some]
    rw [htaken, hbucket, uploadKey_eq_ok hkey]
  · rw [namedBucket?_eq_field? hslash]

/-! ## A name with a slash

Two buckets have keys. The resource of an object that is uploaded to one of them names the other. -/

def albumMapping : KeyMapping :=
  { perBucket := [("albums", "j"), ("photos", "k")] }

def albumContext : Context :=
  { Gateway.photoGateway.engine.context with resolve := albumMapping.resolve }

def albumResource (bucket : String) : Resource :=
  [("bucket", .string bucket), ("name", .string "cat.jpg")]

def albumBody (bucket : String) : MultipartBody where
  boundary := "b"
  metadata := albumResource bucket
  metadataHeaders := {}
  payload := utf8 "meow"
  payloadHeaders := {}

def albumUpload (bucket : String) : Request :=
  { Request.ofTarget "POST" "storage.googleapis.com"
      "/upload/storage/v1/b/photos/o?uploadType=multipart" with
    headers := ⟨[(.contentType, utf8 "multipart/related; boundary=b")]⟩
    body := (albumBody bucket).write }

def albumOpening (bucket : String) : Request :=
  { Request.ofTarget "POST" "storage.googleapis.com"
      "/upload/storage/v1/b/photos/o?uploadType=resumable" with
    body := Resource.write (albumResource bucket) }

def albumState (bucket : String) : State MemoryStore :=
  (openingResponse albumContext Gateway.quietOccasion Gateway.freshState
    { request := albumOpening bucket
      response := some { status := 200, headers := ⟨[(.uploadId, utf8 "U1")]⟩ } }).state

def albumCompletion : Request :=
  { Request.ofTarget "PUT" "storage.googleapis.com"
      "/upload/storage/v1/b/photos/o?uploadType=resumable&upload_id=U1" with
    body := utf8 "meow" }

theorem isMultipartOf_album {bucket : String} (h : bucket ∈ ["albums", "albums/2024"]) :
    (albumUpload bucket).IsMultipartOf "photos" (albumResource bucket) := by
  simp only [List.mem_cons, List.not_mem_nil, or_false] at h
  rcases h with rfl | rfl <;>
    exact ⟨by decide +kernel, "multipart/related; boundary=b", albumBody _, by decide +kernel,
      by with_unfolding_all rfl, rfl⟩

theorem isOpeningOf_album {bucket : String} (h : bucket ∈ ["albums", "albums/2024"]) :
    (albumOpening bucket).IsOpeningOf "photos" (albumResource bucket) := by
  simp only [List.mem_cons, List.not_mem_nil, or_false] at h
  rcases h with rfl | rfl <;> exact ⟨by decide +kernel, by with_unfolding_all rfl⟩

private theorem exists_encrypt_album {s : State MemoryStore}
    (hs : s.ciphers = Gateway.freshState.ciphers) {keyId : String} (hne : keyId ≠ "")
    (content : Bytes) : ∃ ciphertext,
      (s.encrypt albumContext Engine.sealingOccasion keyId content).1 = .ok ciphertext := by
  obtain ⟨ciphertext, hsealed⟩ :=
    Envelope.exists_encrypt_derived .zero keyId Engine.isSized_sealingOccasion content
  have hholds : s.ciphers.Holds albumContext.keys := hs ▸ Engine.reaches_freshState.holds
  exact ⟨ciphertext, State.encrypt_eq_ok hholds
    (KeyService.handle_ofMaster_eq_ok_iff.2 ⟨hne, rfl⟩) hsealed⟩

private theorem multipartRequest_album {bucket keyId : String} {body : MultipartBody}
    (hread : readMultipart albumContext (albumUpload bucket) = .ok (body, keyId))
    (hne : keyId ≠ "") :
    (multipartRequest albumContext Engine.sealingOccasion Gateway.freshState
      { request := albumUpload bucket }).result = .ok () := by
  obtain ⟨ciphertext, hsealed⟩ :=
    exists_encrypt_album (s := Gateway.freshState) rfl hne body.payload
  exact multipartRequest_eq_ok hread hsealed

private theorem completionRequest_album {bucket keyId : String} {session : Session}
    (htake : (SessionStore.take Engine.sealingOccasion.toMoment "U1"
      (albumState bucket).sessions).1 = .ok session) (hname : session.objectName ≠ "")
    (hkey : uploadKey albumContext session.bucket (ObjectPath.bucket? albumCompletion.path) =
      .ok keyId) (hne : keyId ≠ "") :
    (completionRequest albumContext Engine.sealingOccasion (albumState bucket)
      { request := albumCompletion }).result = .ok () := by
  have hid : completedId albumCompletion = .ok "U1" := by decide +kernel
  have hs : (albumState bucket).ciphers = Gateway.freshState.ciphers :=
    ciphers_openingResponse ..
  obtain ⟨ciphertext, hsealed⟩ := exists_encrypt_album hs hne albumCompletion.body
  exact completionRequest_eq_ok hid (Prod.ext htake rfl) hkey hname hsealed

/-- Both ways find the key of `albums`. -/
theorem sealsUnder_of_resource_albums :
    Operation.multipartUpload.SealsUnder albumContext Engine.sealingOccasion Gateway.freshState
      { request := albumUpload "albums" } "j" ∧
    Operation.sessionCompletion.SealsUnder albumContext Engine.sealingOccasion
      (albumState "albums") { request := albumCompletion } "j" := by
  have hkey : albumContext.resolve "photos" = some "k" := by decide
  have hname : (field? (albumResource "albums") "name").isSome = true := by decide
  obtain ⟨hmultipart, hopening, -⟩ := sealsUnder_of_resource (σ := MemoryStore) hkey hname
  obtain ⟨session, hsession, hcompletion⟩ :=
    hopening (albumOpening "albums") Gateway.quietOccasion.now (isOpeningOf_album (by decide))
  have hdeclared : declaredSession (albumOpening "albums") Gateway.quietOccasion.now =
      .ok ⟨"albums", "cat.jpg", none, ⟨0, 0⟩⟩ := by decide +kernel
  obtain rfl := Except.ok.inj (hsession.symm.trans hdeclared)
  exact ⟨hmultipart _ _ { request := albumUpload "albums" } (isMultipartOf_album (by decide)),
    hcompletion _ (albumState "albums") { request := albumCompletion } "U1" _ (by decide +kernel)
      (by decide +kernel) (by decide +kernel) rfl⟩

/-- The same resource, and two keys: a multipart upload finds that of `albums`, a session falls back
on that of `photos`. -/
theorem sealsUnder_ne_of_slash :
    KeyMapping.parse "photos:k,albums:j" = .ok albumMapping ∧
    (albumUpload "albums/2024").IsMultipartOf "photos" (albumResource "albums/2024") ∧
    (albumOpening "albums/2024").IsOpeningOf "photos" (albumResource "albums/2024") ∧
    ((multipartRequest albumContext Engine.sealingOccasion Gateway.freshState
        { request := albumUpload "albums/2024" }).result = .ok () ∧
      Operation.multipartUpload.SealsUnder albumContext Engine.sealingOccasion Gateway.freshState
        { request := albumUpload "albums/2024" } "j") ∧
    ((completionRequest albumContext Engine.sealingOccasion (albumState "albums/2024")
        { request := albumCompletion }).result = .ok () ∧
      Operation.sessionCompletion.SealsUnder albumContext Engine.sealingOccasion
        (albumState "albums/2024") { request := albumCompletion } "k") := by
  have hmultipart : (albumUpload "albums/2024").IsMultipartOf "photos"
      (albumResource "albums/2024") := isMultipartOf_album (by decide)
  refine ⟨by decide +kernel, hmultipart, isOpeningOf_album (by decide), ?_, ?_⟩
  · have hkey : albumContext.resolve "photos" = some "k" := by decide
    obtain ⟨body, hread⟩ := readMultipart_of_isMultipartOf hmultipart hkey
    have hj : (albumContext.resolve ((namedBucket? (albumResource "albums/2024")).getD
        "photos")).getD "k" = "j" := by decide +kernel
    rw [hj] at hread
    exact ⟨multipartRequest_album hread (by decide), Operation.sealsUnder_of_sealingKey?
      (Operation.sealingKey?_of_readMultipart hread)⟩
  · have htake : (SessionStore.take Engine.sealingOccasion.toMoment "U1"
        (albumState "albums/2024").sessions).1 =
          .ok ⟨"albums/2024", "cat.jpg", none, ⟨0, 0⟩⟩ := by decide +kernel
    have hkey : uploadKey albumContext "albums/2024" (ObjectPath.bucket? albumCompletion.path) =
        .ok "k" := by decide +kernel
    exact ⟨completionRequest_album htake (by decide) hkey (by decide),
      Operation.sealsUnder_of_sealingKey? (by decide +kernel)⟩

end Hooks
end SealingProxy
