import SealingProxy.Proofs.ObjectPaths
import SealingProxy.Proofs.QueryRoundTrip
import SealingProxy.Proofs.RequestTargets
import SealingProxy.Proofs.SessionLocation
import SealingProxy.Proofs.SessionRuns
import SealingProxy.Proofs.UploadDownload
/-! # A completion is an upload of the bare object

The service gets from a completion what it would get, had the client uploaded the bare object to the
bucket of the session, under the name that the session records. Of the parameters of either request
only those pass into the composed one that both have in common, and the path of the bucket reads
back as this bucket. So the two hooks compose the same request, and the target is written anew in
both cases: the upload type of neither survives. -/

namespace SealingProxy

/-- The request uploads the bare object that the completion of a session carries: to the bucket and
under the name of the session, with the other parameters of the completion. The media type that was
declared at the opening counts if the completion does not give one. -/
structure Session.IsMediaUpload (session : Session) (put post : Request) : Prop where
  method : post.method = "POST"
  path : post.path = ObjectPath.uploadPath session.bucket
  params : post.query.params = ("uploadType", "media") :: ("name", session.objectName) ::
    (put.query.without ["upload_id", "uploadType"]).params
  received : post.IsReceived
  typed : (put.header? .contentType).getD "" = "" →
    ∀ t, session.contentType = some t → post.headers = put.headers.set .contentType t
  untyped : (put.header? .contentType).getD "" ≠ "" ∨ session.contentType = none →
    post.headers = put.headers
  body : post.body = put.body

/-- The service gets the same of both requests, and both leave the same for the response half. -/
structure Request.SentAlike (r r' : Request) : Prop where
  method : r.method = r'.method
  target : r.target = r'.target
  forwardable : r.forwardable = r'.forwardable
  stash : ∀ n ∈ HeaderName.stash, r.headers.values n = r'.headers.values n
  body : r.body = r'.body

namespace Hooks

variable {r : Request} {session : Session}

/-! ## The request that is composed -/

/-- Of the query only the parameters that pass count, and the method not at all. -/
theorem composeUpload_congr (r r' : Request) (hpath : r'.path = r.path)
    (hheaders : r'.headers = r.headers) (hbody : r'.body = r.body)
    (hquery : r'.query.without uploadParameters = r.query.without uploadParameters)
    (boundary bucket name : String) (sidecar : Sidecar) (ciphertext : Bytes) :
    composeUpload r' boundary bucket name sidecar ciphertext =
      { composeUpload r boundary bucket name sidecar ciphertext with
        host := r'.host, receivedQuery := r'.receivedQuery } := by
  obtain ⟨method, host, path, query, headers, body, raw⟩ := r
  obtain ⟨method', host', path', query', headers', body', raw'⟩ := r'
  dsimp only at hpath hheaders hbody hquery
  subst hpath hheaders hbody
  unfold composeUpload
  dsimp only
  rw [hquery]
  rfl

theorem get?_composeUpload_uploadType (r : Request) (boundary bucket name : String)
    (sidecar : Sidecar) (ciphertext : Bytes) :
    (composeUpload r boundary bucket name sidecar ciphertext).query.get? "uploadType" =
      some "multipart" :=
  (Query.get?_set_of_ne (by decide) _ _).trans (Query.get?_set_self _ _ _)

theorem get?_composeUpload_uploadId (r : Request) (boundary bucket name : String)
    (sidecar : Sidecar) (ciphertext : Bytes) :
    (composeUpload r boundary bucket name sidecar ciphertext).query.get? "upload_id" = none := by
  have hmem : "upload_id" ∈ uploadParameters := by decide
  exact (Query.get?_set_of_ne (by decide) _ _).trans
    ((Query.get?_set_of_ne (by decide) _ _).trans (Query.get?_without_of_mem hmem r.query))

/-- The target of a composed upload is written anew, if a parameter differs from the one that was
received. -/
theorem target_composeUpload (r : Request) {q : Query} {boundary bucket name : String}
    {sidecar : Sidecar} {ciphertext : Bytes}
    (hr : ∀ raw, r.receivedQuery = some raw → Query.parse raw = q)
    (parameter : String) (hne : q.get? parameter ≠
      (composeUpload r boundary bucket name sidecar ciphertext).query.get? parameter) :
    (composeUpload r boundary bucket name sidecar ciphertext).target =
      (composeUpload r boundary bucket name sidecar ciphertext).writtenTarget := by
  apply Request.target_of_parse_ne
  intro raw hraw heq
  have hparse : Query.parse raw = q := hr raw hraw
  exact hne (congrArg (·.get? parameter) (hparse.symm.trans heq))

/-! ## The request that is addressed to the object -/

theorem headers_addressTo_of_typed (h : (r.header? .contentType).getD "" = "") {t : String}
    (ht : session.contentType = some t) :
    (addressTo session r).headers = r.headers.set .contentType t := by
  unfold addressTo
  dsimp only
  rw [if_pos h, ht]

theorem headers_addressTo_of_untyped
    (h : (r.header? .contentType).getD "" ≠ "" ∨ session.contentType = none) :
    (addressTo session r).headers = r.headers := by
  unfold addressTo
  dsimp only
  split
  · next hempty =>
    rw [h.resolve_left (not_not_intro hempty)]
  · rfl

variable {put post : Request}

theorem headers_of_isMediaUpload (h : session.IsMediaUpload put post) :
    post.headers = (addressTo session put).headers := by
  by_cases hempty : (put.header? .contentType).getD "" = ""
  · cases ht : session.contentType with
    | none => rw [h.untyped (.inr ht), headers_addressTo_of_untyped (.inr ht)]
    | some t => rw [h.typed hempty t ht, headers_addressTo_of_typed hempty ht]
  · rw [h.untyped (.inl hempty), headers_addressTo_of_untyped (.inl hempty)]

theorem without_of_isMediaUpload (h : session.IsMediaUpload put post) :
    post.query.without uploadParameters =
      (addressTo session put).query.without uploadParameters := by
  have htype : "uploadType" ∈ uploadParameters := by decide
  have hname : "name" ∈ uploadParameters := by decide
  have hquery : post.query = ⟨("uploadType", "media") :: ("name", session.objectName) ::
      (put.query.without ["upload_id", "uploadType"]).params⟩ := congrArg Query.mk h.params
  rw [hquery, Query.without_cons_of_mem htype, Query.without_cons_of_mem hname, without_addressTo]
  exact Query.without_without_of_subset (by decide) _

theorem get?_of_isMediaUpload (h : session.IsMediaUpload put post) :
    post.query.get? "uploadType" = some "media" ∧
      post.query.get? "name" = some session.objectName := by
  constructor
  · rw [Query.get?, h.params]
    rfl
  · rw [Query.get?, h.params]
    rfl

/-- The upload is told from other requests by its path, its method and its type. -/
theorem operation_of_isMediaUpload (h : session.IsMediaUpload put post) :
    Classifier.operation post = .mediaUpload := by
  have hroot : ObjectPath.startsWith post.path ObjectPath.uploadRoot ∧ post.method = "POST" :=
    ⟨h.path ▸ ObjectPath.startsWith_uploadPath session.bucket, h.method⟩
  have hupload : Classifier.uploadOperation? post = some .mediaUpload := by
    unfold Classifier.uploadOperation?
    rw [if_pos hroot, (get?_of_isMediaUpload h).1]
    rfl
  unfold Classifier.operation
  rw [hupload]
  rfl

/-- A client can send the upload: its target holds the written parameters. -/
theorem exists_isMediaUpload (session : Session) (put : Request) : ∃ target headers,
    session.IsMediaUpload put { Request.ofTarget "POST" put.host target with
      headers, body := put.body } := by
  refine ⟨ObjectPath.uploadPath session.bucket ++ "?" ++ Query.text ⟨("uploadType", "media") ::
    ("name", session.objectName) :: (put.query.without ["upload_id", "uploadType"]).params⟩,
    (addressTo session put).headers, ?_⟩
  rw [Request.ofTarget_eq (ObjectPath.not_mem_uploadPath session.bucket), Query.parse_text]
  exact {
    method := rfl
    path := rfl
    params := rfl
    received := fun raw hraw => by rw [← Option.some.inj hraw, Query.parse_text]
    typed := fun hempty _ ht => headers_addressTo_of_typed hempty ht
    untyped := headers_addressTo_of_untyped
    body := rfl }

/-! ## Both hooks -/

variable {σ : Type} {c : Context} {o : Occasion} {s : State σ} {x : Exchange}

/-- The upload is sealed like the completion: for the same bucket and under the same key. -/
theorem mediaRequest_of_isMediaUpload (h : session.IsMediaUpload put x.request) {keyId : String}
    (hkey : c.resolve session.bucket = some keyId) (hne : session.objectName ≠ "")
    {ciphertext : Bytes} (hsealed : (s.encrypt c o keyId put.body).1 = .ok ciphertext) :
    (mediaRequest c o s x).result = .ok () ∧ (mediaRequest c o s x).exchange.request =
      composeUpload x.request o.boundary session.bucket session.objectName
        (Sidecar.ofPlaintext put.body keyId c.version) ciphertext := by
  have hbucket : (ObjectPath.bucket? x.request.path).getD "" = session.bucket := by
    rw [h.path, ObjectPath.bucket?_uploadPath]
  have huploadKey : uploadKey c ((ObjectPath.bucket? x.request.path).getD "") none =
      .ok keyId := by
    rw [hbucket, uploadKey, hkey]
  have hname := (get?_of_isMediaUpload h).2
  rw [← h.body] at hsealed ⊢
  have hok : (mediaRequest c o s x).result = .ok () :=
    mediaRequest_eq_ok huploadKey hname hne hsealed
  refine ⟨hok, ?_⟩
  obtain ⟨keyId', r, huploadKey', hcompose, hr⟩ := of_mediaRequest_ok hok
  obtain rfl := Except.ok.inj (huploadKey'.symm.trans huploadKey)
  obtain ⟨name', ciphertext', hname', hsealed', rfl⟩ := of_composeSealed_ok hcompose
  rw [hname] at hname'
  obtain rfl := Option.some.inj (Option.filter_eq_some_iff.1 hname').1
  obtain rfl := Except.ok.inj (hsealed'.symm.trans hsealed)
  rw [hr, hbucket]

/-- The composed requests are the same but for what the client called them by. -/
theorem sentAlike_composeUpload (h : session.IsMediaUpload put post) (hput : put.IsReceived)
    {id : String} (hid : completedId put = .ok id) (boundary : String) (sidecar : Sidecar)
    (ciphertext : Bytes) :
    (composeUpload (addressTo session put) boundary session.bucket session.objectName sidecar
      ciphertext).SentAlike
      (composeUpload post boundary session.bucket session.objectName sidecar ciphertext) := by
  have hsame := composeUpload_congr (addressTo session put) post h.path
    (headers_of_isMediaUpload h) h.body (without_of_isMediaUpload h) boundary session.bucket
    session.objectName sidecar ciphertext
  have hcompletion : (composeUpload (addressTo session put) boundary session.bucket
      session.objectName sidecar ciphertext).target = (composeUpload (addressTo session put)
        boundary session.bucket session.objectName sidecar ciphertext).writtenTarget := by
    -- The parameters that were received hold an upload id, which is not passed on.
    apply target_composeUpload (addressTo session put) hput "upload_id"
    rw [upload_id_of_completedId hid, get?_composeUpload_uploadId]
    exact Option.some_ne_none id
  have hupload : (composeUpload post boundary session.bucket session.objectName sidecar
      ciphertext).target = (composeUpload post boundary session.bucket session.objectName sidecar
        ciphertext).writtenTarget := by
    -- The upload is received as one of media and goes out as a multipart one.
    apply target_composeUpload post h.received "uploadType"
    rw [(get?_of_isMediaUpload h).1, get?_composeUpload_uploadType]
    decide
  constructor
  · rfl
  · rw [hcompletion, hupload, hsame]
    rfl
  · rw [hsame]
    rfl
  · intro n _
    rw [hsame]
  · rw [hsame]

/-- A completion that succeeds forwards what the upload of its bare object forwards. There is such
an upload, it is classified as one, and it succeeds wherever the same keys are in the cache. -/
theorem completion_forwards_mediaUpload [SessionStore σ] {id keyId : String}
    (hput : x.request.IsReceived) (hid : completedId x.request = .ok id)
    (htake : (SessionStore.take o.toMoment id s.sessions).1 = .ok session)
    (hkey : c.resolve session.bucket = some keyId)
    (hok : (completionRequest c o s x).result = .ok ()) :
    (∃ target headers, session.IsMediaUpload x.request
      { Request.ofTarget "POST" x.request.host target with headers, body := x.request.body }) ∧
    ∀ {τ : Type} (t : State τ) (y : Exchange), t.ciphers = s.ciphers →
      session.IsMediaUpload x.request y.request →
      Classifier.operation y.request = .mediaUpload ∧
      (mediaRequest c o t y).result = .ok () ∧
      (completionRequest c o s x).exchange.request.SentAlike
        (mediaRequest c o t y).exchange.request := by
  refine ⟨exists_isMediaUpload session x.request, fun t y hciphers hupload => ?_⟩
  obtain ⟨id', session', sessions, keyId', r, hid', htake', hkey', hcompose, hr⟩ :=
    of_completionRequest_ok hok
  obtain rfl := Except.ok.inj (hid'.symm.trans hid)
  rw [htake'] at htake
  obtain rfl := Except.ok.inj htake
  rw [uploadKey, hkey] at hkey'
  obtain rfl := Except.ok.inj hkey'
  obtain ⟨name, ciphertext, hname, hsealed, rfl⟩ := of_composeSealed_ok hcompose
  rw [name_addressTo] at hname
  obtain ⟨hobject, hne⟩ := Option.filter_eq_some_iff.1 hname
  obtain rfl := Option.some.inj hobject
  -- Sealing asks the cache only, so that the sessions do not count.
  have hsealed' : (t.encrypt c o keyId x.request.body).1 = .ok ciphertext := by
    unfold State.encrypt at hsealed ⊢
    rw [hciphers]
    exact hsealed
  obtain ⟨hmedia, hrequest⟩ :=
    mediaRequest_of_isMediaUpload hupload hkey (by simpa using hne) hsealed'
  refine ⟨operation_of_isMediaUpload hupload, hmedia, ?_⟩
  rw [hr, hrequest]
  exact sentAlike_composeUpload hupload hput hid' _ _ _

def typedSession : Session :=
  ⟨"photos", "cat.jpg", some "image/jpeg", ⟨0, 0⟩⟩

def typedState : State MemoryStore :=
  { Gateway.freshState with sessions := { ttl := 1000000000, sessions := [("U1", typedSession)] } }

def typedCompletion : Request :=
  { Request.ofTarget "PUT" "storage.googleapis.com"
      "/upload/storage/v1/b/photos/o?uploadType=resumable&upload_id=U1&fields=id" with
    body := utf8 "meow" }

def typedUpload : Request :=
  { Request.ofTarget "POST" "storage.googleapis.com"
      "/upload/storage/v1/b/photos/o?uploadType=media&name=cat.jpg&fields=id" with
    headers := ⟨[(.contentType, utf8 "image/jpeg")]⟩
    body := utf8 "meow" }

theorem isMediaUpload_typed : typedSession.IsMediaUpload typedCompletion typedUpload where
  method := rfl
  path := by decide +kernel
  params := by decide +kernel
  received := Request.isReceived_ofTarget "POST" "storage.googleapis.com" _
  typed := fun _ t ht => by
    obtain rfl := Option.some.inj ht
    decide +kernel
  untyped := fun h => absurd h (by decide +kernel)
  body := rfl

theorem completion_forwards_mediaUpload_typed :
    (completionRequest Gateway.photoGateway.engine.context Engine.sealingOccasion typedState
      { request := typedCompletion }).result = .ok () ∧
    (mediaRequest Gateway.photoGateway.engine.context Engine.sealingOccasion Gateway.freshState
      { request := typedUpload }).result = .ok () ∧
    (completionRequest Gateway.photoGateway.engine.context Engine.sealingOccasion typedState
      { request := typedCompletion }).exchange.request.SentAlike
      (mediaRequest Gateway.photoGateway.engine.context Engine.sealingOccasion Gateway.freshState
        { request := typedUpload }).exchange.request := by
  have hid : completedId typedCompletion = .ok "U1" := by decide +kernel
  have htake : (SessionStore.take Engine.sealingOccasion.toMoment "U1" typedState.sessions).1 =
      .ok typedSession := by decide +kernel
  have hkey : Gateway.photoGateway.engine.context.resolve typedSession.bucket = some "k" := by
    decide
  have huploadKey : uploadKey Gateway.photoGateway.engine.context typedSession.bucket
      (ObjectPath.bucket? typedCompletion.path) = .ok "k" := by
    rw [uploadKey, hkey]
  obtain ⟨ciphertext, hsealed⟩ := Envelope.exists_encrypt_derived .zero "k"
    Engine.isSized_sealingOccasion typedCompletion.body
  have hok : (completionRequest Gateway.photoGateway.engine.context Engine.sealingOccasion
      typedState { request := typedCompletion }).result = .ok () :=
    completionRequest_eq_ok hid (Prod.ext htake rfl) huploadKey (by decide)
      (State.encrypt_eq_ok Engine.reaches_freshState.holds Engine.handle_photoGateway hsealed)
  exact ⟨hok, ((completion_forwards_mediaUpload (x := { request := typedCompletion })
    (Request.isReceived_ofTarget "PUT" "storage.googleapis.com" _) hid htake hkey hok).2
      Gateway.freshState { request := typedUpload } rfl isMediaUpload_typed).2⟩

end Hooks
end SealingProxy
