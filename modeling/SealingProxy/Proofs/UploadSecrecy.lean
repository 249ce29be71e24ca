import SealingProxy.Proofs.UploadDownload
import SealingProxy.Proofs.UploadedObjects
/-! # What leaves of an uploaded object

An object leaves the gateway sealed, and of the object itself only its length and its digest leave
with it. So two uploads that are alike but for their objects are forwarded alike as soon as length,
digest and sealed object are the same: no header, parameter, member of the resource or part header
is taken from the object. Nothing is asked of the cipher: an object is what it was sealed as. -/

namespace SealingProxy

variable {σ : Type}

/-- The requests are alike but for the objects that they upload. Multipart bodies count as what is
read from them. -/
structure Request.SameButObject (op : Operation) (r r' : Request) : Prop where
  rest : { r with body := [] } = { r' with body := [] }
  parts : op = .multipartUpload → ∀ t body body', r.header? .contentType = some t →
    MultipartBody.parse r.body t = .ok body → MultipartBody.parse r'.body t = .ok body' →
      { body with payload := [] } = { body' with payload := [] }

theorem Sidecar.ofPlaintext_congr {content content' : Bytes}
    (hlength : content.length = content'.length) (hmd5 : contentMd5 content = contentMd5 content')
    (keyId version : String) :
    ofPlaintext content keyId version = ofPlaintext content' keyId version := by
  rw [ofPlaintext, hlength, hmd5, ofPlaintext]

namespace Hooks

variable {c : Context} {r r' : Request}

theorem header?_eq_of_rest (hrest : { r with body := [] } = { r' with body := [] })
    (n : HeaderName) : r.header? n = r'.header? n :=
  (congrArg (fun q => Request.header? q n) hrest :)

theorem completedId_congr (hrest : { r with body := [] } = { r' with body := [] })
    (hlength : r.body.length = r'.body.length) : completedId r = completedId r' := by
  have hquery : r.query = r'.query := (congrArg Request.query hrest :)
  rw [completedId, header?_eq_of_rest hrest, hlength, hquery, completedId]

/-- One resource names one bucket, so that both objects are sealed under one key. -/
theorem readMultipart_congr (hx : r.SameButObject .multipartUpload r')
    {body body' : MultipartBody} {keyId keyId' : String}
    (hread : readMultipart c r = .ok (body, keyId))
    (hread' : readMultipart c r' = .ok (body', keyId')) :
    { body with payload := [] } = { body' with payload := [] } ∧ keyId = keyId' := by
  obtain ⟨t, ht, hparse, hkey⟩ := readMultipart_eq_ok_iff.1 hread
  obtain ⟨t', ht', hparse', hkey'⟩ := readMultipart_eq_ok_iff.1 hread'
  obtain rfl : t = t' := by
    rw [header?_eq_of_rest hx.rest, ht'] at ht
    exact (Option.some.inj ht).symm
  have hparts := hx.parts rfl t body body' ht hparse hparse'
  have hmetadata : body.metadata = body'.metadata := (congrArg MultipartBody.metadata hparts :)
  have hpath : r.path = r'.path := (congrArg Request.path hx.rest :)
  rw [hmetadata, hpath, hkey'] at hkey
  exact ⟨hparts, (Except.ok.inj hkey).symm⟩

/-! ## What was sealed as the same bytes -/

/-- What a multipart upload forwards depends on neither the object nor the body that held it. -/
theorem withoutStash_sealMultipart_congr {body body' : MultipartBody}
    (hrest : { r with body := [] } = { r' with body := [] })
    (hbody : { body with payload := [] } = { body' with payload := [] }) (sidecar : Sidecar)
    (ciphertext : Bytes) :
    (sealMultipart r body sidecar ciphertext).withoutStash =
      (sealMultipart r' body' sidecar ciphertext).withoutStash := by
  have hstash : { r.withoutStash with body := [] } = { r'.withoutStash with body := [] } :=
    congrArg Request.withoutStash hrest
  have hparts (q : Request) : sealMultipart q body sidecar ciphertext =
      sealMultipart q body' sidecar ciphertext :=
    (congrArg (fun b => sealMultipart q b sidecar ciphertext) hbody :)
  rw [← withoutStash_sealMultipart r [], hstash, hparts, withoutStash_sealMultipart]

theorem withoutStash_composeUpload_congr (hrest : { r with body := [] } = { r' with body := [] })
    (boundary bucket name : String) (sidecar : Sidecar) (ciphertext : Bytes) :
    (composeUpload r boundary bucket name sidecar ciphertext).withoutStash =
      (composeUpload r' boundary bucket name sidecar ciphertext).withoutStash := by
  have hstash : { r.withoutStash with body := [] } = { r'.withoutStash with body := [] } :=
    congrArg Request.withoutStash hrest
  rw [← withoutStash_composeUpload r [], hstash, withoutStash_composeUpload]

/-! ## Each upload -/

variable {o o' : Occasion} {s s' : State σ} {x x' : Exchange} {cipher : Cipher}

theorem withoutStash_composeSealed_congr {bucket keyId : String} {q q' : Request}
    (hrest : { r with body := [] } = { r' with body := [] })
    (hlength : r.body.length = r'.body.length) (hmd5 : contentMd5 r.body = contentMd5 r'.body)
    (hboundary : o.boundary = o'.boundary)
    (hcipher : (s.encrypt c o keyId r.body cipher).1 = (s'.encrypt c o' keyId r'.body cipher).1)
    (hq : (composeSealed c o s r bucket keyId cipher).1 = .ok q)
    (hq' : (composeSealed c o' s' r' bucket keyId cipher).1 = .ok q') :
    q.withoutStash = q'.withoutStash := by
  obtain ⟨name, ciphertext, hname, hsealed, rfl⟩ := of_composeSealed_ok hq
  obtain ⟨name', ciphertext', hname', hsealed', rfl⟩ := of_composeSealed_ok hq'
  have hquery : r.query = r'.query := (congrArg Request.query hrest :)
  obtain rfl : name = name' := by
    rw [hquery, hname'] at hname
    exact (Option.some.inj hname).symm
  obtain rfl : ciphertext = ciphertext' := by
    rw [hcipher, hsealed'] at hsealed
    exact (Except.ok.inj hsealed).symm
  rw [hboundary, Sidecar.ofPlaintext_congr hlength hmd5]
  exact withoutStash_composeUpload_congr hrest ..

variable [SessionStore σ] {content content' : Bytes}

theorem withoutStash_multipartRequest_congr
    (hx : x.request.SameButObject .multipartUpload x'.request)
    (hcontent : Operation.multipartUpload.object? x.request = some content)
    (hcontent' : Operation.multipartUpload.object? x'.request = some content')
    (hlength : content.length = content'.length) (hmd5 : contentMd5 content = contentMd5 content')
    (hcipher : ∀ keyId, Operation.multipartUpload.sealingKey? c o s x.request = some keyId →
      (s.encrypt c o keyId content cipher).1 = (s'.encrypt c o' keyId content' cipher).1)
    (h : (multipartRequest c o s x cipher).result = .ok ())
    (h' : (multipartRequest c o' s' x' cipher).result = .ok ()) :
    (multipartRequest c o s x cipher).exchange.request.withoutStash =
      (multipartRequest c o' s' x' cipher).exchange.request.withoutStash := by
  obtain ⟨body, keyId, ciphertext, hread, hsealed, hr⟩ := of_multipartRequest_ok h
  obtain ⟨body', keyId', ciphertext', hread', hsealed', hr'⟩ := of_multipartRequest_ok h'
  obtain ⟨hparts, rfl⟩ := readMultipart_congr hx hread hread'
  obtain rfl := Option.some.inj ((Operation.object?_of_readMultipart hread).symm.trans hcontent)
  obtain rfl := Option.some.inj ((Operation.object?_of_readMultipart hread').symm.trans hcontent')
  obtain rfl : ciphertext = ciphertext' := by
    rw [hcipher keyId (Operation.sealingKey?_of_readMultipart hread), hsealed'] at hsealed
    exact (Except.ok.inj hsealed).symm
  rw [hr, hr', Sidecar.ofPlaintext_congr hlength hmd5]
  exact withoutStash_sealMultipart_congr hx.rest hparts _ _

theorem withoutStash_mediaRequest_congr
    (hrest : { x.request with body := [] } = { x'.request with body := [] })
    (hlength : x.request.body.length = x'.request.body.length)
    (hmd5 : contentMd5 x.request.body = contentMd5 x'.request.body)
    (hboundary : o.boundary = o'.boundary)
    (hcipher : ∀ keyId, Operation.mediaUpload.sealingKey? c o s x.request = some keyId →
      (s.encrypt c o keyId x.request.body cipher).1 =
        (s'.encrypt c o' keyId x'.request.body cipher).1)
    (h : (mediaRequest c o s x cipher).result = .ok ())
    (h' : (mediaRequest c o' s' x' cipher).result = .ok ()) :
    (mediaRequest c o s x cipher).exchange.request.withoutStash =
      (mediaRequest c o' s' x' cipher).exchange.request.withoutStash := by
  have hpath : x.request.path = x'.request.path := (congrArg Request.path hrest :)
  obtain ⟨keyId, r, hkey, hcompose, hr⟩ := of_mediaRequest_ok h
  obtain ⟨keyId', r', hkey', hcompose', hr'⟩ := of_mediaRequest_ok h'
  rw [← hpath] at hkey' hcompose'
  obtain rfl := Except.ok.inj (hkey.symm.trans hkey')
  rw [hr, hr']
  exact withoutStash_composeSealed_congr hrest hlength hmd5 hboundary
    (hcipher keyId (Operation.sealingKey?_mediaUpload hkey)) hcompose hcompose'

theorem withoutStash_completionRequest_congr
    (hrest : { x.request with body := [] } = { x'.request with body := [] })
    (hlength : x.request.body.length = x'.request.body.length)
    (hmd5 : contentMd5 x.request.body = contentMd5 x'.request.body)
    (hsession : ∀ id, completedId x.request = .ok id →
      (SessionStore.take o.toMoment id s.sessions).1 =
        (SessionStore.take o'.toMoment id s'.sessions).1)
    (hboundary : o.boundary = o'.boundary)
    (hcipher : ∀ keyId, Operation.sessionCompletion.sealingKey? c o s x.request = some keyId →
      (s.encrypt c o keyId x.request.body cipher).1 =
        (s'.encrypt c o' keyId x'.request.body cipher).1)
    (h : (completionRequest c o s x cipher).result = .ok ())
    (h' : (completionRequest c o' s' x' cipher).result = .ok ()) :
    (completionRequest c o s x cipher).exchange.request.withoutStash =
      (completionRequest c o' s' x' cipher).exchange.request.withoutStash := by
  have hpath : x.request.path = x'.request.path := (congrArg Request.path hrest :)
  obtain ⟨id, session, sessions, keyId, r, hid, htake, hkey, hcompose, hr⟩ :=
    of_completionRequest_ok h
  obtain ⟨id', session', sessions', keyId', r', hid', htake', hkey', hcompose', hr'⟩ :=
    of_completionRequest_ok h'
  rw [← completedId_congr hrest hlength] at hid'
  obtain rfl := Except.ok.inj (hid.symm.trans hid')
  obtain rfl : session = session' := by
    have htaken := hsession id hid
    rw [htake, htake'] at htaken
    exact Except.ok.inj htaken
  rw [← hpath] at hkey'
  obtain rfl := Except.ok.inj (hkey.symm.trans hkey')
  have haddressed : { addressTo session x.request with body := [] } =
      { addressTo session x'.request with body := [] } :=
    (congrArg (addressTo session) hrest :)
  -- The cipher does not see the sessions, from which that of the id is gone by now.
  have hsealed : (State.encrypt { s with sessions } c o keyId x.request.body cipher).1 =
      (State.encrypt { s' with sessions := sessions' } c o' keyId x'.request.body cipher).1 :=
    hcipher keyId (Operation.sealingKey?_sessionCompletion hid htake hkey)
  rw [hr, hr']
  exact withoutStash_composeSealed_congr haddressed hlength hmd5 hboundary hsealed hcompose
    hcompose'

end Hooks

namespace Operation
open Hooks

variable [SessionStore σ] {c : Context} {o o' : Occasion} {s s' : State σ} {x x' : Exchange}
variable {cipher : Cipher}

theorem withoutStash_requestHook_congr {op : Operation} {content content' : Bytes}
    (hx : x.request.SameButObject op x'.request)
    (hcontent : op.object? x.request = some content)
    (hcontent' : op.object? x'.request = some content')
    (hlength : content.length = content'.length) (hmd5 : contentMd5 content = contentMd5 content')
    (hsession : op = .sessionCompletion → ∀ id, completedId x.request = .ok id →
      (SessionStore.take o.toMoment id s.sessions).1 =
        (SessionStore.take o'.toMoment id s'.sessions).1)
    (hboundary : o.boundary = o'.boundary)
    (hcipher : ∀ keyId, op.sealingKey? c o s x.request = some keyId →
      (s.encrypt c o keyId content cipher).1 = (s'.encrypt c o' keyId content' cipher).1)
    (h : (op.requestHook c o s x cipher).result = .ok ())
    (h' : (op.requestHook c o' s' x' cipher).result = .ok ()) :
    (op.requestHook c o s x cipher).exchange.request.withoutStash =
      (op.requestHook c o' s' x' cipher).exchange.request.withoutStash := by
  cases op with
  | multipartUpload =>
    exact withoutStash_multipartRequest_congr hx hcontent hcontent' hlength hmd5 hcipher h h'
  | mediaUpload =>
    obtain rfl := Option.some.inj hcontent
    obtain rfl := Option.some.inj hcontent'
    exact withoutStash_mediaRequest_congr hx.rest hlength hmd5 hboundary hcipher h h'
  | sessionCompletion =>
    obtain rfl := Option.some.inj hcontent
    obtain rfl := Option.some.inj hcontent'
    exact withoutStash_completionRequest_congr hx.rest hlength hmd5 (hsession rfl) hboundary hcipher
      h h'
  | sessionOpening => cases hcontent
  | download => cases hcontent
  | resourceFetch => cases hcontent
  | passThrough => cases hcontent

end Operation

namespace Engine

variable [SessionStore σ] {e : Engine} {o o' : Occasion} {s s' : State σ} {x x' : Exchange}

/-- Two uploads that are alike but for their objects, with the same length, digest, boundary and
sealed object, are forwarded alike, whatever the cipher. -/
theorem forwarded_eq_of_sameButObject (cipher : Cipher) {content content' : Bytes}
    (hx : x.request.SameButObject (e.operation x.request) x'.request)
    (hcontent : (e.operation x.request).object? x.request = some content)
    (hcontent' : (e.operation x'.request).object? x'.request = some content')
    (hlength : content.length = content'.length) (hmd5 : contentMd5 content = contentMd5 content')
    (hsession : e.operation x.request = .sessionCompletion → ∀ id,
      Hooks.completedId x.request = .ok id →
        (SessionStore.take o.toMoment id s.sessions).1 =
          (SessionStore.take o'.toMoment id s'.sessions).1)
    (hboundary : o.boundary = o'.boundary)
    (hcipher : ∀ keyId, (e.operation x.request).sealingKey? e.context o s x.request = some keyId →
      (s.encrypt e.context o keyId content cipher).1 =
        (s'.encrypt e.context o' keyId content' cipher).1)
    (hok : (e.onRequest o s x cipher).result = .ok ())
    (hok' : (e.onRequest o' s' x' cipher).result = .ok ()) :
    (e.onRequest o s x cipher).exchange.request.method =
      (e.onRequest o' s' x' cipher).exchange.request.method ∧
    (e.onRequest o s x cipher).exchange.request.target =
      (e.onRequest o' s' x' cipher).exchange.request.target ∧
    (e.onRequest o s x cipher).exchange.request.forwardable =
      (e.onRequest o' s' x' cipher).exchange.request.forwardable ∧
    (e.onRequest o s x cipher).exchange.request.body =
      (e.onRequest o' s' x' cipher).exchange.request.body := by
  have hop : e.operation x.request = e.operation x'.request := (congrArg e.operation hx.rest :)
  rw [← hop] at hcontent'
  unfold onRequest at hok hok' ⊢
  rw [← hop] at hok' ⊢
  have hassigned : { x with operation := some (e.operation x.request) }.request.SameButObject
      (e.operation x.request) { x' with operation := some (e.operation x.request) }.request := hx
  have hsame := Operation.withoutStash_requestHook_congr hassigned hcontent hcontent' hlength hmd5
    hsession hboundary hcipher hok hok'
  exact ⟨(congrArg Request.method hsame :), (congrArg Request.target hsame :),
    (congrArg Request.headers hsame :), (congrArg Request.body hsame :)⟩

/-! ## Two objects of one digest

The two objects differ in two bytes and have one digest. A cipher that keeps nothing but the length
seals them alike. -/

/-- Sixty-four bytes, two of which are left open. -/
def twinObject (first second : UInt8) : Bytes :=
  [0x4d, 0xc9, 0x68, 0xff, 0x0e, 0xe3, 0x5c, 0x20, 0x95, 0x72, 0xd4, 0x77, 0x7b, 0x72, 0x15, 0x87,
    0xd3, 0x6f, 0xa7, 0xb2, 0x1b, 0xdc, 0x56, 0xb7, 0x4a, 0x3d, 0xc0, 0x78, 0x3e, 0x7b, 0x95, 0x18,
    0xaf, 0xbf, 0xa2, first, 0xa8, 0x28, 0x4b, 0xf3, 0x6e, 0x8e, 0x4b, 0x55, 0xb3, 0x5f, 0x42, 0x75,
    0x93, 0xd8, 0x49, 0x67, 0x6d, 0xa0, 0xd1, second, 0x5d, 0x83, 0x60, 0xfb, 0x5f, 0x07, 0xfe, 0xa2]

def blankCipher : Cipher := fun _ _ _ _ plaintext ciphers =>
  (.ok (List.replicate plaintext.length 0), ciphers)

def framedUpload (preamble : String) (content : Bytes) : Exchange where
  request := { Request.ofTarget "POST" "storage.googleapis.com"
      "/upload/storage/v1/b/photos/o?uploadType=multipart" with
    headers := ⟨[(.contentType, utf8 "multipart/related; boundary=b")]⟩
    body := utf8 (preamble ++ "--b\r\n\r\n\x7b\x7d\r\n--b\r\n\r\n") ++ content ++
      utf8 "\r\n--b--" }

def framedBody (content : Bytes) : MultipartBody where
  boundary := "b"
  metadata := []
  metadataHeaders := {}
  payload := content
  payloadHeaders := {}

def plainTwin : Exchange :=
  framedUpload "" (twinObject 0x00 0x55)

def prefacedTwin : Exchange :=
  framedUpload "an object\r\n" (twinObject 0x02 0xd5)

variable {preamble : String} {content : Bytes}

private theorem parse_framedUpload
    (h : (Delimiter.parts (Delimiter.ofBoundary "b")
      (framedUpload preamble content).request.body).toOption =
        some [utf8 "\r\n\x7b\x7d", utf8 "\r\n" ++ content])
    (hobject : Part.read (utf8 "\r\n" ++ content) = ({}, content)) :
    MultipartBody.parse (framedUpload preamble content).request.body
      "multipart/related; boundary=b" = .ok (framedBody content) := by
  have hboundary : Boundary.ofContentType "multipart/related; boundary=b" = .ok "b" := rfl
  have hresource : Part.read (utf8 "\r\n\x7b\x7d") = ({}, utf8 "\x7b\x7d") := by decide +kernel
  have hmetadata : MultipartBody.readMetadata (Json.object []).write = .ok [] :=
    MultipartBody.readMetadata_write (fun n hn => absurd hn List.not_mem_nil)
      (Json.fits_of_strings (by decide) (by simp))
  have hwritten : utf8 "\x7b\x7d" = (Json.object []).write := by decide +kernel
  unfold MultipartBody.parse
  rw [hboundary]
  dsimp only
  cases hparts : Delimiter.parts (Delimiter.ofBoundary "b")
      (framedUpload preamble content).request.body with
  | error e =>
    rw [hparts] at h
    cases h
  | ok parts =>
    rw [hparts] at h
    obtain rfl := Option.some.inj h
    dsimp only
    rw [hresource, hobject, hwritten, hmetadata]
    rfl

private theorem header?_framedUpload (preamble : String) (content : Bytes) :
    (framedUpload preamble content).request.header? .contentType =
      some "multipart/related; boundary=b" := by
  have h : (framedUpload "" []).request.header? .contentType =
      some "multipart/related; boundary=b" := by decide +kernel
  exact h

private theorem operation_framedUpload (preamble : String) (content : Bytes) :
    Gateway.photoGateway.engine.operation (framedUpload preamble content).request =
      .multipartUpload := by
  unfold framedUpload
  dsimp only
  rw [operation_with]
  decide +kernel

private theorem onRequest_framedUpload
    (h : MultipartBody.parse (framedUpload preamble content).request.body
      "multipart/related; boundary=b" = .ok (framedBody content)) :
    (Gateway.photoGateway.engine.onRequest sealingOccasion Gateway.freshState
      (framedUpload preamble content) blankCipher).result = .ok () := by
  have hbucket : ObjectPath.bucket? (framedUpload preamble content).request.path =
      some "photos" := by
    have hempty : ObjectPath.bucket? (framedUpload "" []).request.path = some "photos" := by
      decide +kernel
    exact hempty
  have hkey : Hooks.uploadKey Gateway.photoGateway.engine.context
      (((Hooks.namedBucket? (framedBody content).metadata).or
        (ObjectPath.bucket? (framedUpload preamble content).request.path)).getD "")
      (ObjectPath.bucket? (framedUpload preamble content).request.path) = .ok "k" := by
    rw [hbucket]
    rfl
  rw [onRequest_multipartUpload (operation_framedUpload preamble content)]
  exact Hooks.multipartRequest_eq_ok
    (Hooks.readMultipart_eq_ok_iff.2 ⟨_, header?_framedUpload preamble content, h, hkey⟩) rfl

private theorem object?_framedUpload
    (h : MultipartBody.parse (framedUpload preamble content).request.body
      "multipart/related; boundary=b" = .ok (framedBody content)) :
    (Gateway.photoGateway.engine.operation (framedUpload preamble content).request).object?
      (framedUpload preamble content).request = some content := by
  rw [operation_framedUpload, Operation.object?, header?_framedUpload, Option.bind_some, h]
  rfl

theorem forwarded_eq_twinObject :
    twinObject 0x00 0x55 ≠ twinObject 0x02 0xd5 ∧
    contentMd5 (twinObject 0x00 0x55) = contentMd5 (twinObject 0x02 0xd5) ∧
    (Gateway.photoGateway.engine.onRequest sealingOccasion Gateway.freshState plainTwin
      blankCipher).result = .ok () ∧
    (Gateway.photoGateway.engine.onRequest sealingOccasion Gateway.freshState prefacedTwin
      blankCipher).result = .ok () ∧
    (Gateway.photoGateway.engine.onRequest sealingOccasion Gateway.freshState plainTwin
      blankCipher).exchange.request.forwardable =
    (Gateway.photoGateway.engine.onRequest sealingOccasion Gateway.freshState prefacedTwin
      blankCipher).exchange.request.forwardable ∧
    (Gateway.photoGateway.engine.onRequest sealingOccasion Gateway.freshState plainTwin
      blankCipher).exchange.request.body =
    (Gateway.photoGateway.engine.onRequest sealingOccasion Gateway.freshState prefacedTwin
      blankCipher).exchange.request.body := by
  have hparse : MultipartBody.parse plainTwin.request.body "multipart/related; boundary=b" =
      .ok (framedBody (twinObject 0x00 0x55)) :=
    parse_framedUpload (by decide +kernel) (by decide +kernel)
  have hparse' : MultipartBody.parse prefacedTwin.request.body "multipart/related; boundary=b" =
      .ok (framedBody (twinObject 0x02 0xd5)) :=
    parse_framedUpload (by decide +kernel) (by decide +kernel)
  have hsame : plainTwin.request.SameButObject
      (Gateway.photoGateway.engine.operation plainTwin.request) prefacedTwin.request := by
    refine ⟨rfl, fun _ t body body' ht hbody hbody' => ?_⟩
    obtain rfl := Option.some.inj ((header?_framedUpload _ _).symm.trans ht)
    obtain rfl := Except.ok.inj (hparse.symm.trans hbody)
    obtain rfl := Except.ok.inj (hparse'.symm.trans hbody')
    rfl
  have hmd5 : contentMd5 (twinObject 0x00 0x55) = contentMd5 (twinObject 0x02 0xd5) := by
    decide +kernel
  have hok := onRequest_framedUpload hparse
  have hok' := onRequest_framedUpload hparse'
  obtain ⟨-, -, hforwardable, hbody⟩ := forwarded_eq_of_sameButObject blankCipher hsame
    (object?_framedUpload hparse) (object?_framedUpload hparse') rfl hmd5 (fun _ _ _ => rfl) rfl
    (fun _ _ => rfl) hok hok'
  exact ⟨by decide, hmd5, hok, hok', hforwardable, hbody⟩

end Engine
end SealingProxy
