import SealingProxy.Proofs.CachedKeys
import SealingProxy.Proofs.StoredUploads
/-! # Uploads come back as downloads

An upload that succeeds forwards an envelope of its content and the name of the key. A download that
is answered with this envelope and this key opens it, in whatever state the engine is by then: the
cache holds the handles of the service only, and the handle of a key opens what it sealed. -/

namespace SealingProxy

variable {σ : Type}

namespace KeyService

theorem handle_ofMaster_eq_ok_iff {m : MasterKey} {keyId : String} {handle : KeyHandle} :
    (ofMaster m).handle keyId = .ok handle ↔ keyId ≠ "" ∧ handle = .derived m keyId := by
  by_cases h : keyId = ""
  · simp [ofMaster, h]
  · simp [ofMaster, h, eq_comm]

end KeyService

namespace State

variable {s : State σ} {c : Context}

theorem of_encrypt_ok (hs : s.ciphers.Holds c.keys) {o : Occasion} {keyId : String}
    {plaintext ciphertext : Bytes} (h : (s.encrypt c o keyId plaintext).1 = .ok ciphertext) :
    ∃ handle, c.keys.handle keyId = .ok handle ∧
      Envelope.encrypt handle o.draw plaintext = .ok ciphertext := by
  unfold encrypt CipherCache.encrypt at h
  dsimp only at h
  split at h
  · cases h
  · next handle _ hget =>
    refine ⟨handle, hs.get_eq_ok_iff.1 (by rw [hget]), ?_⟩
    cases he : Envelope.encrypt handle o.draw plaintext with
    | error err => rw [he] at h; cases h
    | ok sealed =>
      rw [he] at h
      exact congrArg Except.ok (Except.ok.inj h)

theorem encrypt_eq_ok (hs : s.ciphers.Holds c.keys) {o : Occasion} {keyId : String}
    {handle : KeyHandle} (hk : c.keys.handle keyId = .ok handle) {plaintext ciphertext : Bytes}
    (he : Envelope.encrypt handle o.draw plaintext = .ok ciphertext) :
    (s.encrypt c o keyId plaintext).1 = .ok ciphertext := by
  have hget : (s.ciphers.get c.keys o.now keyId).1 = .ok handle := hs.get_eq_ok_iff.2 hk
  unfold encrypt CipherCache.encrypt
  dsimp only
  split
  · next h =>
    rw [h] at hget
    cases hget
  · next h =>
    rw [h] at hget
    obtain rfl := Except.ok.inj hget
    rw [he]
    rfl

theorem decrypt_eq_ok (hs : s.ciphers.Holds c.keys) {keyId : String} {handle : KeyHandle}
    (hk : c.keys.handle keyId = .ok handle) {data plaintext : Bytes}
    (hd : Envelope.decrypt handle data = .ok plaintext) (o : Occasion) :
    (s.decrypt c o keyId data).1 = .ok plaintext := by
  have hget : (s.ciphers.get c.keys o.now keyId).1 = .ok handle := hs.get_eq_ok_iff.2 hk
  unfold decrypt CipherCache.decrypt
  dsimp only
  split
  · next h =>
    rw [h] at hget
    cases hget
  · next h =>
    rw [h] at hget
    obtain rfl := Except.ok.inj hget
    rw [hd]
    rfl

end State

namespace Hooks

variable {c : Context} {o : Occasion} {s : State σ} {x : Exchange}

theorem of_uploadKey_ok {bucket : String} {urlBucket : Option String} {keyId : String}
    (h : uploadKey c bucket urlBucket = .ok keyId) : ∃ named, c.resolve named = some keyId := by
  unfold uploadKey at h
  split at h
  · next hk =>
    obtain rfl := Except.ok.inj h
    exact ⟨_, hk⟩
  · split at h
    · next hk =>
      obtain rfl := Except.ok.inj h
      obtain ⟨named, -, hnamed⟩ := Option.bind_eq_some_iff.1 hk
      exact ⟨named, hnamed⟩
    · cases h

theorem of_readMultipart_ok {r : Request} {body : MultipartBody} {keyId : String}
    (h : readMultipart c r = .ok (body, keyId)) :
    ∃ contentType, r.header? .contentType = some contentType ∧
      MultipartBody.parse r.body contentType = .ok body ∧
      ∃ named, c.resolve named = some keyId := by
  unfold readMultipart at h
  split at h
  · cases h
  · next contentType hct =>
    split at h
    · cases h
    · next hparse =>
      dsimp only at h
      split at h
      · cases h
      · next hkey =>
        cases h
        exact ⟨contentType, hct, hparse, of_uploadKey_ok hkey⟩

end Hooks

/-- The request carries a content, sealed under a key that a bucket has. The service can read it if
the sealed content holds no delimiter line. -/
structure Request.Carries (r : Request) (c : Context) (draw : SealDraw)
    (content ciphertext : Bytes) (keyId boundary : String) : Prop where
  resolved : ∃ bucket, c.resolve bucket = some keyId
  enveloped : ∃ handle, c.keys.handle keyId = .ok handle ∧
    Envelope.encrypt handle draw content = .ok ciphertext
  mediaType : r.boundary? = some boundary
  stores : ¬Delimiter.HasLine (Delimiter.ofBoundary boundary) ciphertext →
    r.Stores ciphertext keyId

namespace Hooks

variable {c : Context} {o : Occasion} {s : State σ} {x : Exchange}

theorem carries_multipartRequest (hs : s.ciphers.Holds c.keys) {contentType : String}
    {body : MultipartBody} (hct : x.request.header? .contentType = some contentType)
    (hparse : MultipartBody.parse x.request.body contentType = .ok body)
    (hbody : body.IsRewritable) (h : (multipartRequest c o s x).result = .ok ()) :
    ∃ ciphertext keyId boundary, (multipartRequest c o s x).exchange.request.Carries c o.draw
      body.payload ciphertext keyId boundary := by
  obtain ⟨body', keyId, ciphertext, hread, hsealed, hr⟩ := of_multipartRequest_ok h
  obtain ⟨contentType', hct', hparse', hresolved⟩ := of_readMultipart_ok hread
  obtain rfl := Option.some.inj (hct.symm.trans hct')
  obtain rfl := Except.ok.inj (hparse.symm.trans hparse')
  refine ⟨ciphertext, keyId, body.boundary, hresolved, State.of_encrypt_ok hs hsealed, ?_, ?_⟩
  · rw [hr]
    exact boundary?_sealMultipart hct hparse _ _
  · intro hc
    rw [hr]
    exact stores_sealMultipart hct hparse hbody _ hc

theorem multipartRequest_eq_ok {cipher : Cipher} {body : MultipartBody} {keyId : String}
    {ciphertext : Bytes} (hread : readMultipart c x.request = .ok (body, keyId))
    (hsealed : (s.encrypt c o keyId body.payload cipher).1 = .ok ciphertext) :
    (multipartRequest c o s x cipher).result = .ok () := by
  unfold multipartRequest
  rw [hread]
  dsimp only
  split
  · next h =>
    rw [h] at hsealed
    cases hsealed
  · rfl

/-- A composed upload carries the body that it was composed for. -/
theorem carries_composeSealed (hs : s.ciphers.Holds c.keys) {r r' : Request}
    {bucket keyId : String} (hk : ∃ named, c.resolve named = some keyId)
    (h : (composeSealed c o s r bucket keyId).1 = .ok r') :
    ∃ ciphertext boundary, r'.Carries c o.draw r.body ciphertext keyId boundary := by
  obtain ⟨name, ciphertext, -, hsealed, rfl⟩ := of_composeSealed_ok h
  exact ⟨ciphertext, o.boundary, hk, State.of_encrypt_ok hs hsealed,
    boundary?_composeUpload .., stores_composeUpload r o.boundaryNumber bucket name _⟩

theorem carries_mediaRequest (hs : s.ciphers.Holds c.keys)
    (h : (mediaRequest c o s x).result = .ok ()) :
    ∃ ciphertext keyId boundary, (mediaRequest c o s x).exchange.request.Carries c o.draw
      x.request.body ciphertext keyId boundary := by
  obtain ⟨keyId, r, hkey, hcompose, hr⟩ := of_mediaRequest_ok h
  obtain ⟨ciphertext, boundary, hc⟩ := carries_composeSealed hs (of_uploadKey_ok hkey) hcompose
  exact ⟨ciphertext, keyId, boundary, hr ▸ hc⟩

theorem carries_completionRequest [SessionStore σ] (hs : s.ciphers.Holds c.keys)
    (h : (completionRequest c o s x).result = .ok ()) :
    ∃ ciphertext keyId boundary, (completionRequest c o s x).exchange.request.Carries c o.draw
      x.request.body ciphertext keyId boundary := by
  obtain ⟨id, session, sessions, keyId, r, -, -, hkey, hcompose, hr⟩ := of_completionRequest_ok h
  obtain ⟨ciphertext, boundary, hc⟩ :=
    carries_composeSealed (s := { s with sessions }) hs (of_uploadKey_ok hkey) hcompose
  exact ⟨ciphertext, keyId, boundary, hr ▸ hc⟩

theorem header?_deferRange {r : Request} {range : String} (h : r.header? .range = some range) :
    (deferRange r).header? .stashedRange = some range := by
  unfold deferRange
  rw [h]
  exact Headers.get?_set_self (Headers.isVisible_of_get? h) _ _

theorem deferRange_of_none {r : Request} (h : r.header? .range = none) : deferRange r = r := by
  unfold deferRange
  rw [h]

/-- The key that a response names comes before that of the bucket. -/
theorem downloadKey?_of_storedKey {response : Response} {keyId : String} (hne : keyId ≠ "")
    (h : response.header? .storedKey = some keyId) (r : Request) :
    downloadKey? c r response = some keyId := by
  rw [downloadKey?, h]
  simp [hne]

theorem deliver_whole (plaintext : Bytes) (response : Response) :
    ∃ delivered, deliver none plaintext response = .ok delivered ∧ delivered.body = plaintext :=
  ⟨_, rfl, rfl⟩

theorem deliver_range {range : String} {plaintext : Bytes} {r : ByteRange}
    (h : ByteRange.parse? range plaintext.length = some r) (response : Response) :
    ∃ delivered, deliver (some range) plaintext response = .ok delivered ∧
      delivered.body = r.slice plaintext := by
  unfold deliver
  dsimp only
  rw [h]
  exact ⟨_, rfl, rfl⟩

/-- Once the object is open, the hook does what the delivery does. -/
theorem downloadResponse_of_decrypt_ok {response : Response} {keyId : String}
    (hx : x.response = some response) (hsuccess : response.isSuccess = true)
    (hkey : downloadKey? c x.request response = some keyId) {object : Bytes}
    (h : (s.decrypt c o keyId response.body).1 = .ok object) :
    (∀ err, deliver (x.request.header? .stashedRange) object response = .error err →
      (downloadResponse c o s x).result = .error err) ∧
    ∀ delivered, deliver (x.request.header? .stashedRange) object response = .ok delivered →
      (downloadResponse c o s x).result = .ok () ∧
      (downloadResponse c o s x).exchange = { x with response := some delivered } := by
  unfold downloadResponse
  rw [hx]
  dsimp only
  rw [if_pos hsuccess, hkey]
  dsimp only
  split
  · next hdecrypt =>
    rw [hdecrypt] at h
    cases h
  · next hdecrypt =>
    rw [hdecrypt] at h
    obtain rfl := Except.ok.inj h
    constructor
    · intro err hdeliver
      rw [hdeliver]
      rfl
    · intro delivered hdeliver
      rw [hdeliver]
      exact ⟨rfl, rfl⟩

/-- A response that holds an envelope, and names a key that opens it, is delivered. -/
theorem downloadResponse_of_decrypt (hs : s.ciphers.Holds c.keys) {response delivered : Response}
    {keyId : String} {handle : KeyHandle} {plaintext : Bytes} (hx : x.response = some response)
    (hsuccess : response.isSuccess = true)
    (hkey : downloadKey? c x.request response = some keyId)
    (hhandle : c.keys.handle keyId = .ok handle)
    (hopen : Envelope.decrypt handle response.body = .ok plaintext)
    (hdeliver : deliver (x.request.header? .stashedRange) plaintext response = .ok delivered) :
    (downloadResponse c o s x).result = .ok () ∧
      (downloadResponse c o s x).exchange.response = some delivered := by
  obtain ⟨-, hdelivers⟩ := downloadResponse_of_decrypt_ok hx hsuccess hkey
    (State.decrypt_eq_ok hs hhandle hopen o)
  obtain ⟨hok, hexchange⟩ := hdelivers delivered hdeliver
  exact ⟨hok, congrArg Exchange.response hexchange⟩

end Hooks

namespace Engine

variable [SessionStore σ] {e : Engine}

/-- An operation is told by neither headers nor body. -/
theorem operation_with (e : Engine) (r : Request) (headers : Headers) (body : Bytes) :
    e.operation { r with headers, body } = e.operation r :=
  rfl

/-- The request uploads the content. A multipart upload keeps its part headers and its resource, so
that these have to be rewritable. -/
inductive Uploads (e : Engine) (r : Request) : Bytes → Prop where
  | multipart {contentType : String} {body : MultipartBody}
      (operation : e.operation r = .multipartUpload)
      (mediaType : r.header? .contentType = some contentType)
      (parsed : MultipartBody.parse r.body contentType = .ok body)
      (rewritable : body.IsRewritable) : Uploads e r body.payload
  | media (operation : e.operation r = .mediaUpload) : Uploads e r r.body
  | completion (operation : e.operation r = .sessionCompletion) : Uploads e r r.body

theorem carries_of_uploads {s : State σ} (hs : s.ciphers.Holds e.context.keys) {o : Occasion}
    {x : Exchange} {content : Bytes} (hx : e.Uploads x.request content)
    (h : (e.onRequest o s x).result = .ok ()) :
    ∃ ciphertext keyId boundary, (e.onRequest o s x).exchange.request.Carries e.context o.draw
      content ciphertext keyId boundary := by
  cases hx with
  | multipart operation mediaType parsed rewritable =>
    rw [onRequest_multipartUpload operation] at h ⊢
    exact Hooks.carries_multipartRequest hs mediaType parsed rewritable h
  | media operation =>
    rw [onRequest_mediaUpload operation] at h ⊢
    exact Hooks.carries_mediaRequest hs h
  | completion operation =>
    rw [onRequest_sessionCompletion operation] at h ⊢
    exact Hooks.carries_completionRequest hs h

/-- The content that a client gets when the service answers with a response: the body, if neither
half of the exchange fails. Other calls may have changed the state between the halves. -/
def fetch (e : Engine) (first second : Occasion) (s s' : State σ) (x : Exchange)
    (response : Response) : Option Bytes :=
  let before := e.onRequest first s x
  let after := e.onResponse second s' { before.exchange with response := some response }
  match before.result, after.result with
  | .ok (), .ok () => after.exchange.response.map (·.body)
  | _, _ => none

/-- A download that is answered with an envelope of the plaintext returns what is delivered. -/
theorem fetch_of_decrypt {s : State σ} (hs : s.ciphers.Holds e.context.keys) {x : Exchange}
    (hx : e.operation x.request = .download) {response delivered : Response}
    (hsuccess : response.isSuccess = true) {keyId : String} (hne : keyId ≠ "")
    (hkey : response.header? .storedKey = some keyId) {handle : KeyHandle}
    (hhandle : e.context.keys.handle keyId = .ok handle) {plaintext : Bytes}
    (hopen : Envelope.decrypt handle response.body = .ok plaintext)
    (hdeliver : Hooks.deliver ((Hooks.deferRange x.request).header? .stashedRange) plaintext
      response = .ok delivered) (first second : Occasion) (s' : State σ) :
    e.fetch first second s' s x response = some delivered.body := by
  obtain ⟨hresult, hresponse⟩ := Hooks.downloadResponse_of_decrypt (o := second) (c := e.context)
    (x := { x with request := Hooks.deferRange x.request, operation := some .download,
                   response := some response }) hs rfl hsuccess
    (Hooks.downloadKey?_of_storedKey hne hkey _) hhandle hopen hdeliver
  have hafter : e.onResponse second s { x with
      request := Hooks.deferRange x.request, operation := some .download,
      response := some response } = Hooks.downloadResponse e.context second s { x with
        request := Hooks.deferRange x.request, operation := some .download,
        response := some response } := rfl
  unfold fetch
  rw [onRequest_download hx]
  dsimp only [Outcome.success]
  rw [hafter, hresult, hresponse]
  rfl

/-- What was uploaded comes back, whole or in the range that is asked for. -/
theorem fetch_of_uploads {k : MasterKey} (hkeys : e.context.keys = .ofMaster k)
    (hvisible : ∀ bucket keyId, e.context.resolve bucket = some keyId → Headers.IsVisible keyId)
    {s : State σ} (hs : e.Reaches s) {o : Occasion} (hdraw : o.draw.IsSized) {x : Exchange}
    {content : Bytes} (hx : e.Uploads x.request content)
    (hok : (e.onRequest o s x).result = .ok ()) :
    ∃ ciphertext keyId boundary,
      (e.onRequest o s x).exchange.request.boundary? = some boundary ∧
      Envelope.encrypt (.derived k keyId) o.draw content = .ok ciphertext ∧
      (¬Delimiter.HasLine (Delimiter.ofBoundary boundary) ciphertext →
        (e.onRequest o s x).exchange.request.Stores ciphertext keyId ∧
        ∀ (first second : Occasion) (s₁ s₂ : State σ), e.Reaches s₂ →
        ∀ (y : Exchange) (response : Response), e.operation y.request = .download →
          response.status = 200 → response.body = ciphertext →
          (response.headers.values .storedKey).head? = some (utf8 keyId) →
          (y.request.header? .range = none → y.request.header? .stashedRange = none →
            e.fetch first second s₁ s₂ y response = some content) ∧
          ∀ range r, y.request.header? .range = some range →
            ByteRange.parse? range content.length = some r →
            e.fetch first second s₁ s₂ y response = some (r.slice content)) := by
  obtain ⟨ciphertext, keyId, boundary, hcarries⟩ := carries_of_uploads hs.holds hx hok
  obtain ⟨bucket, hbucket⟩ := hcarries.resolved
  obtain ⟨handle, hhandle, hsealed⟩ := hcarries.enveloped
  rw [hkeys] at hhandle
  obtain ⟨hne, rfl⟩ := KeyService.handle_ofMaster_eq_ok_iff.1 hhandle
  have hopen := Envelope.decrypt_encrypt_derived hdraw hsealed
  refine ⟨ciphertext, keyId, boundary, hcarries.mediaType, hsealed, fun hc => ?_⟩
  refine ⟨hcarries.stores hc, ?_⟩
  rintro first second s₁ s₂ hs₂ y response hy hstatus rfl hvalue
  have hsuccess : response.isSuccess = true := by
    rw [Response.isSuccess, hstatus]
    rfl
  have hkey : response.header? .storedKey = some keyId :=
    Headers.get?_eq_some_iff.2 ⟨hvisible bucket keyId hbucket, hvalue⟩
  rw [← hkeys] at hhandle
  constructor
  · intro hrange hstashed
    obtain ⟨delivered, hdeliver, hbody⟩ := Hooks.deliver_whole content response
    rw [← hstashed, ← Hooks.deferRange_of_none hrange] at hdeliver
    rw [← hbody]
    exact fetch_of_decrypt hs₂.holds hy hsuccess hne hkey hhandle hopen hdeliver first second s₁
  · intro range r hrange hr
    obtain ⟨delivered, hdeliver, hbody⟩ := Hooks.deliver_range hr response
    rw [← Hooks.header?_deferRange hrange] at hdeliver
    rw [← hbody]
    exact fetch_of_decrypt hs₂.holds hy hsuccess hne hkey hhandle hopen hdeliver first second s₁

/-! ## An upload and two downloads

The boundary of this upload is longer than the envelope, so that no line of it is a delimiter
line. -/

def sealingOccasion : Occasion :=
  { Gateway.quietOccasion with
    draw := ⟨List.replicate 32 1, List.replicate 12 2, List.replicate 12 3⟩ }

def catBody (number : Nat) : MultipartBody where
  boundary := Boundary.ofNumber number
  metadata := [("name", .string "cat.jpg")]
  metadataHeaders := {}
  payload := [109, 101, 111, 119]
  payloadHeaders := ⟨[("Content-Type", "image/jpeg")]⟩

def catUpload (number : Nat) : Request :=
  { Request.ofTarget "POST" "storage.googleapis.com"
      "/upload/storage/v1/b/photos/o?uploadType=multipart" with
    headers := ({} : Headers).set .contentType (Boundary.contentType (Boundary.ofNumber number))
    body := (catBody number).write }

def catDownload (headers : Headers) : Exchange where
  request := { Request.ofTarget "GET" "storage.googleapis.com"
    "/download/storage/v1/b/photos/o/cat.jpg?alt=media" with headers }

/-- An answer to it that names the key. It states the length of what is stored twice. -/
def storedResponse (sealed : Bytes) : Response where
  status := 200
  headers := ⟨[(.storedKey, utf8 "k"), (.storedLength, utf8 "100"), (.storedLength, utf8 "100")]⟩
  body := sealed

theorem header?_storedResponse (sealed : Bytes) :
    (storedResponse sealed).header? .storedKey = some "k" := by
  have h : (storedResponse []).header? .storedKey = some "k" := by decide +kernel
  exact h

private theorem not_hasLine_of_length_lt {number : Nat} {content : Bytes}
    (h : content.length < (Decimal.write number).length) :
    ¬Delimiter.HasLine (Delimiter.ofBoundary (Boundary.ofNumber number)) content := by
  intro hl
  have hboundary := Delimiter.length_le_ofBoundary (Boundary.ofNumber number)
  have hline := hl.length_le
  rw [Boundary.toList_ofNumber, List.length_append, List.length_append] at hboundary
  omega

private theorem header?_catUpload (number : Nat) : (catUpload number).header? .contentType =
    some (Boundary.contentType (Boundary.ofNumber number)) := by
  unfold Request.header? catUpload
  dsimp only
  rw [Headers.get?_set_self (Hooks.isVisible_contentType_ofNumber number)]

private theorem isRewritable_catBody (number : Nat) : (catBody number).IsRewritable where
  metadataLines e he := absurd he List.not_mem_nil
  payloadLines e he := by
    obtain rfl := List.mem_singleton.1 he
    exact PartHeaders.not_isLine_of_ne_dash (c := 'C') rfl (by decide)
  numbers n hn := by
    have hnone : (Json.object (catBody number).metadata).numbers = [] := rfl
    rw [hnone] at hn
    exact absurd hn List.not_mem_nil

private theorem parse_catUpload {number : Nat} (hn : 4 < (Decimal.write number).length) :
    MultipartBody.parse (catUpload number).body
      (Boundary.contentType (Boundary.ofNumber number)) = .ok (catBody number) := by
  have hplain := Boundary.isPlain_ofNumber number
  obtain ⟨h13, h10⟩ := MultipartBody.not_mem_ofBoundary_of_isPlain hplain
  have hfits : Json.Fits 0 (.object [("name", .string "cat.jpg")]) :=
    Json.fits_of_strings (by decide) (by simp)
  have hmetadata (length : Nat) : PartHeaders.IsCleanAt
      (Delimiter.ofBoundary (Boundary.ofNumber number)) length {} := by
    constructor <;> exact fun e he => absurd he List.not_mem_nil
  have hpayload (length : Nat) : PartHeaders.IsCleanAt
      (Delimiter.ofBoundary (Boundary.ofNumber number)) length
      ⟨[("Content-Type", "image/jpeg")]⟩ := by
    refine ⟨?_, (isRewritable_catBody number).payloadLines, ?_⟩
    · intro e he
      obtain rfl := List.mem_singleton.1 he
      constructor <;> decide
    · intro e he hs
      obtain rfl := List.mem_singleton.1 he
      have hname : Text.sameLetters "Content-Type" "content-length" = false := by decide
      rw [hname] at hs
      cases hs
  have hclean : ¬Delimiter.HasLine (Delimiter.ofBoundary (Boundary.ofNumber number))
      [109, 101, 111, 119] := not_hasLine_of_length_lt hn
  have hparse := MultipartBody.parse_write (Boundary.ofContentType_contentType hplain) h13 h10
    (isRewritable_catBody number).numbers hfits (hmetadata 0).isWritableAt
    (hpayload 0).isWritableAt hclean
  rw [(hmetadata _).reread_eq, (hpayload _).reread_eq] at hparse
  exact hparse

theorem reaches_freshState : Gateway.photoGateway.engine.Reaches Gateway.freshState :=
  ⟨1000000000, _, _, [], .inl rfl, rfl⟩

theorem isSized_sealingOccasion : sealingOccasion.draw.IsSized :=
  ⟨rfl, rfl, rfl⟩

theorem handle_photoGateway :
    Gateway.photoGateway.engine.context.keys.handle "k" = .ok (.derived .zero "k") :=
  KeyService.handle_ofMaster_eq_ok_iff.2 ⟨by decide, rfl⟩

private theorem operation_catUpload (number : Nat) :
    Gateway.photoGateway.engine.operation (catUpload number) = .multipartUpload := by
  unfold catUpload
  rw [operation_with]
  decide +kernel

private theorem readMultipart_catUpload {number : Nat} (hn : 4 < (Decimal.write number).length) :
    Hooks.readMultipart Gateway.photoGateway.engine.context (catUpload number) =
      .ok (catBody number, "k") := by
  have hbucket : ObjectPath.bucket? (catUpload number).path = some "photos" := by
    unfold catUpload
    dsimp only
    decide +kernel
  have hnamed : Hooks.namedBucket? (catBody number).metadata = none := rfl
  have hkey : Gateway.photoGateway.engine.context.resolve "photos" = some "k" := by decide
  unfold Hooks.readMultipart
  rw [header?_catUpload]
  dsimp only
  rw [parse_catUpload hn]
  dsimp only
  rw [hbucket, hnamed, Option.none_or, Option.getD_some]
  unfold Hooks.uploadKey
  rw [hkey]

private theorem onRequest_catUpload {number : Nat} (hn : 4 < (Decimal.write number).length) :
    (Gateway.photoGateway.engine.onRequest sealingOccasion Gateway.freshState
      { request := catUpload number }).result = .ok () := by
  obtain ⟨ciphertext, hsealed⟩ := Envelope.exists_encrypt_derived .zero "k"
    isSized_sealingOccasion (catBody number).payload
  rw [onRequest_multipartUpload (x := { request := catUpload number })
    (operation_catUpload number)]
  exact Hooks.multipartRequest_eq_ok (readMultipart_catUpload hn)
    (State.encrypt_eq_ok reaches_freshState.holds handle_photoGateway hsealed)

private theorem boundary?_catUpload {number : Nat} (hn : 4 < (Decimal.write number).length) :
    (Gateway.photoGateway.engine.onRequest sealingOccasion Gateway.freshState
      { request := catUpload number }).exchange.request.boundary? =
        some (Boundary.ofNumber number) := by
  have hok := onRequest_catUpload hn
  rw [onRequest_multipartUpload (x := { request := catUpload number })
    (operation_catUpload number)] at hok ⊢
  obtain ⟨body, keyId, ciphertext, hread, -, hr⟩ := Hooks.of_multipartRequest_ok hok
  obtain ⟨rfl, rfl⟩ : catBody number = body ∧ "k" = keyId := by
    simpa using (readMultipart_catUpload hn).symm.trans hread
  rw [hr]
  exact Hooks.boundary?_sealMultipart (header?_catUpload number) (parse_catUpload hn) _ _

theorem fetch_of_uploads_cat :
    ∃ ciphertext keyId,
      (Gateway.photoGateway.engine.onRequest sealingOccasion Gateway.freshState
        { request := catUpload (Nat.pow 10 100) }).exchange.request.Stores ciphertext keyId ∧
      Gateway.photoGateway.engine.fetch Gateway.quietOccasion Gateway.quietOccasion
        Gateway.freshState Gateway.freshState (catDownload {})
        ⟨200, ⟨[(.storedKey, utf8 keyId)]⟩, ciphertext⟩ = some [109, 101, 111, 119] ∧
      Gateway.photoGateway.engine.fetch Gateway.quietOccasion Gateway.quietOccasion
        Gateway.freshState Gateway.freshState (catDownload ⟨[(.range, utf8 "bytes=1-2")]⟩)
        ⟨200, ⟨[(.storedKey, utf8 keyId)]⟩, ciphertext⟩ = some [101, 111] := by
  have hdigits : (Decimal.write (Nat.pow 10 100)).length = 101 := by decide +kernel
  have hn : 4 < (Decimal.write (Nat.pow 10 100)).length := by omega
  have hvisible : ∀ bucket keyId, Gateway.photoGateway.engine.context.resolve bucket = some keyId →
      Headers.IsVisible keyId := by
    intro bucket keyId h
    obtain ⟨-, h⟩ := Option.ite_none_right_eq_some.1 h
    rw [← Option.some.inj h]
    decide
  have huploads : Gateway.photoGateway.engine.Uploads (catUpload (Nat.pow 10 100))
      (catBody (Nat.pow 10 100)).payload :=
    .multipart (operation_catUpload _) (header?_catUpload _) (parse_catUpload hn)
      (isRewritable_catBody _)
  obtain ⟨ciphertext, keyId, boundary, hboundary, hsealed, hclean⟩ :=
    fetch_of_uploads (k := .zero) rfl hvisible reaches_freshState isSized_sealingOccasion
      (x := { request := catUpload (Nat.pow 10 100) }) huploads (onRequest_catUpload hn)
  have hlong : boundary = Boundary.ofNumber (Nat.pow 10 100) :=
    Option.some.inj (hboundary.symm.trans (boundary?_catUpload hn))
  have hlength := Envelope.length_encrypt_derived isSized_sealingOccasion hsealed
  have hnone : ¬Delimiter.HasLine (Delimiter.ofBoundary boundary) ciphertext := by
    rw [hlong]
    apply not_hasLine_of_length_lt
    rw [hlength, hdigits]
    decide
  obtain ⟨hstores, hfetch⟩ := hclean hnone
  refine ⟨ciphertext, keyId, hstores, ?_, ?_⟩
  · exact (hfetch _ _ _ _ reaches_freshState _ _ (by decide +kernel) rfl rfl rfl).1
      (by decide +kernel) (by decide +kernel)
  · exact (hfetch _ _ _ _ reaches_freshState _ _ (by decide +kernel) rfl rfl rfl).2 "bytes=1-2"
      ⟨1, 3⟩ (by decide +kernel) (by decide +kernel)

end Engine
end SealingProxy
