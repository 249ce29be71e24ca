import SealingProxy.Hooks.Resumable
import SealingProxy.Proofs.Decimals
import SealingProxy.Proofs.FieldLaws
import SealingProxy.Proofs.HeaderLaws
import SealingProxy.Proofs.QueryLaws
/-! # What a successful upload did

For each of the three hooks that seal an object, everything that holds when it succeeds: the key,
the ciphertext and the request that is forwarded. Later proofs go by these statements and do not
open the hooks again. -/

namespace SealingProxy

namespace Hooks

variable {σ : Type} {c : Context} {o : Occasion} {s : State σ} {x : Exchange} {cipher : Cipher}

/-- A composed upload names the object by the parameter and is sealed under the given key. -/
theorem of_composeSealed_ok {r r' : Request} {bucket keyId : String}
    (h : (composeSealed c o s r bucket keyId cipher).1 = .ok r') :
    ∃ name ciphertext, (r.query.get? "name").filter (· != "") = some name ∧
      (s.encrypt c o keyId r.body cipher).1 = .ok ciphertext ∧
      r' = composeUpload r o.boundary bucket name (Sidecar.ofPlaintext r.body keyId c.version)
        ciphertext := by
  unfold composeSealed at h
  split at h
  · cases h
  · next name hname =>
    split at h
    · cases h
    · next ciphertext _ hsealed =>
      cases h
      exact ⟨name, ciphertext, hname, by rw [hsealed], rfl⟩

theorem of_multipartRequest_ok (h : (multipartRequest c o s x cipher).result = .ok ()) :
    ∃ body keyId ciphertext, readMultipart c x.request = .ok (body, keyId) ∧
      (s.encrypt c o keyId body.payload cipher).1 = .ok ciphertext ∧
      (multipartRequest c o s x cipher).exchange.request = sealMultipart x.request body
        (Sidecar.ofPlaintext body.payload keyId c.version) ciphertext := by
  unfold multipartRequest at h ⊢
  split at h
  · cases h
  · next body keyId hread =>
    split at h
    · cases h
    · next ciphertext _ hsealed =>
      refine ⟨body, keyId, ciphertext, hread, by rw [hsealed], ?_⟩
      rfl

theorem of_mediaRequest_ok (h : (mediaRequest c o s x cipher).result = .ok ()) :
    ∃ keyId r, uploadKey c ((ObjectPath.bucket? x.request.path).getD "") none = .ok keyId ∧
      (composeSealed c o s x.request ((ObjectPath.bucket? x.request.path).getD "") keyId
        cipher).1 = .ok r ∧
      (mediaRequest c o s x cipher).exchange.request = r := by
  unfold mediaRequest at h ⊢
  dsimp only at h ⊢
  split at h
  · cases h
  · next keyId hkey =>
    split at h
    · cases h
    · next r _ hr =>
      refine ⟨keyId, r, hkey, by rw [hr], ?_⟩
      rfl

theorem of_completionRequest_ok [SessionStore σ]
    (h : (completionRequest c o s x cipher).result = .ok ()) :
    ∃ id session sessions keyId r, completedId x.request = .ok id ∧
      SessionStore.take o.toMoment id s.sessions = (.ok session, sessions) ∧
      uploadKey c session.bucket (ObjectPath.bucket? x.request.path) = .ok keyId ∧
      (composeSealed c o { s with sessions } (addressTo session x.request) session.bucket keyId
        cipher).1 = .ok r ∧
      (completionRequest c o s x cipher).exchange.request = r := by
  unfold completionRequest at h ⊢
  split at h
  · cases h
  · next id hid =>
    split at h
    · cases h
    · next session sessions htake =>
      dsimp only at h
      split at h
      · cases h
      · next keyId hkey =>
        split at h
        · cases h
        · next r _ hr =>
          refine ⟨id, session, sessions, keyId, r, hid, htake, hkey, by rw [hr], ?_⟩
          dsimp only
          rw [hr]
          rfl

theorem composeSealed_eq_ok {r : Request} {keyId name : String} {ciphertext : Bytes}
    (hname : r.query.get? "name" = some name) (hne : name ≠ "")
    (hsealed : (s.encrypt c o keyId r.body cipher).1 = .ok ciphertext) (bucket : String) :
    ∃ r', (composeSealed c o s r bucket keyId cipher).1 = .ok r' := by
  unfold composeSealed
  rw [hname, Option.filter_some, if_pos (by simpa using hne)]
  dsimp only
  split
  · next h =>
    rw [h] at hsealed
    cases hsealed
  · exact ⟨_, rfl⟩

theorem mediaRequest_eq_ok {name keyId : String} {ciphertext : Bytes}
    (hkey : uploadKey c ((ObjectPath.bucket? x.request.path).getD "") none = .ok keyId)
    (hname : x.request.query.get? "name" = some name) (hne : name ≠ "")
    (hsealed : (s.encrypt c o keyId x.request.body cipher).1 = .ok ciphertext) :
    (mediaRequest c o s x cipher).result = .ok () := by
  obtain ⟨r, hr⟩ := composeSealed_eq_ok hname hne hsealed
    ((ObjectPath.bucket? x.request.path).getD "")
  unfold mediaRequest
  dsimp only
  rw [hkey]
  dsimp only
  split
  · next h =>
    rw [h] at hr
    cases hr
  · rfl

/-- The name of a completed upload is that of its session. -/
theorem name_addressTo (session : Session) (r : Request) :
    (addressTo session r).query.get? "name" = some session.objectName :=
  Query.get?_set_self _ _ _

/-- Of the other parameters the same pass as without a session. -/
theorem without_addressTo (session : Session) (r : Request) :
    (addressTo session r).query.without uploadParameters = r.query.without uploadParameters :=
  (Query.without_set_of_mem (by decide) _ _).trans
    (Query.without_without_of_subset (by decide) _)

theorem completionRequest_eq_ok [SessionStore σ] {id keyId : String} {session : Session}
    {sessions : σ} {ciphertext : Bytes} (hid : completedId x.request = .ok id)
    (htake : SessionStore.take o.toMoment id s.sessions = (.ok session, sessions))
    (hkey : uploadKey c session.bucket (ObjectPath.bucket? x.request.path) = .ok keyId)
    (hne : session.objectName ≠ "")
    (hsealed : (State.encrypt { s with sessions } c o keyId x.request.body cipher).1 =
      .ok ciphertext) :
    (completionRequest c o s x cipher).result = .ok () := by
  obtain ⟨r, hr⟩ := composeSealed_eq_ok (r := addressTo session x.request)
    (name_addressTo session x.request) hne hsealed session.bucket
  unfold completionRequest
  rw [hid]
  dsimp only
  rw [htake]
  dsimp only
  rw [hkey]
  dsimp only
  split
  · next h =>
    rw [h] at hr
    cases hr
  · rfl

/-! ## What is forwarded -/

theorem isVisible_text (n : Nat) : Headers.IsVisible (Decimal.text n) := by
  apply Headers.isVisible_of_forall_mem
  intro c hc
  rw [Decimal.toList_text] at hc
  have hdigit := Char.isDigit_iff_toNat.1 (Decimal.isDigit_of_mem_write hc)
  exact ⟨Nat.le_trans (by decide) hdigit.1, Nat.lt_of_le_of_lt hdigit.2 (by decide)⟩

theorem isVisible_contentType_ofNumber (n : Nat) :
    Headers.IsVisible (Boundary.contentType (Boundary.ofNumber n)) := by
  have hboundary : Headers.IsVisible (Boundary.ofNumber n) :=
    (Headers.IsVisible.append (by decide) (isVisible_text n)).append (by decide)
  exact (Headers.IsVisible.append (by decide) hboundary).append (by decide)

/-- The facts that are left for the response half do not touch other headers. -/
theorem values_stashFacts {n : HeaderName} (hn : n ∉ HeaderName.stash) (r : Request) (length : Nat)
    (sidecar : Sidecar) : (stashFacts r length sidecar).headers.values n = r.headers.values n := by
  have hne (m : HeaderName) (hm : m ∈ HeaderName.stash) : n ≠ m := fun h => hn (h ▸ hm)
  unfold stashFacts
  dsimp only
  rw [Headers.values_set_of_ne (hne _ (by decide)), Headers.values_set_of_ne (hne _ (by decide)),
    Headers.values_set_of_ne (hne _ (by decide))]

/-- Sealing the object of a multipart upload changes no header but the length, and the stash. -/
theorem values_sealMultipart {n : HeaderName} (hlength : n ≠ .contentLength)
    (hstash : n ∉ HeaderName.stash) (r : Request) (body : MultipartBody) (sidecar : Sidecar)
    (ciphertext : Bytes) :
    (sealMultipart r body sidecar ciphertext).headers.values n = r.headers.values n := by
  unfold sealMultipart Request.setBody
  dsimp only
  rw [Headers.values_insert_of_ne hlength, values_stashFacts hstash]

theorem header?_sealMultipart_contentType (r : Request) (body : MultipartBody) (sidecar : Sidecar)
    (ciphertext : Bytes) :
    (sealMultipart r body sidecar ciphertext).header? .contentType = r.header? .contentType :=
  Headers.get?_congr (values_sealMultipart (by decide) (by decide) r body sidecar ciphertext)

theorem header?_composeUpload_contentType (r : Request) (number : Nat) (bucket name : String)
    (sidecar : Sidecar) (ciphertext : Bytes) :
    (composeUpload r (Boundary.ofNumber number) bucket name sidecar ciphertext).header?
      .contentType = some (Boundary.contentType (Boundary.ofNumber number)) := by
  rw [← Headers.get?_set_self (isVisible_contentType_ofNumber number)
    (r.headers.eraseAll bodyHeaders) .contentType]
  apply Headers.get?_congr
  unfold composeUpload Request.setBody
  dsimp only
  rw [Headers.values_insert_of_ne (by decide), values_stashFacts (by decide),
    Headers.values_set_of_ne (by decide)]

/-- The sidecar is a member of its own in a resource. -/
theorem get?_writeInto {name : String} (h : name ≠ Sidecar.metadataName) (sidecar : Sidecar)
    (r : Resource) : Fields.get? (sidecar.writeInto r) name = Fields.get? r name :=
  Fields.get?_insert_of_ne h r _

theorem get?_composeBody {field : String} (h : field ≠ Sidecar.metadataName)
    (boundary bucket name contentType : String) (sidecar : Sidecar) (ciphertext : Bytes) :
    Fields.get? (composeBody boundary bucket name contentType sidecar ciphertext).metadata field =
      Fields.get? [("bucket", Json.string bucket), ("contentType", .string contentType),
        ("name", .string name)] field := by
  unfold composeBody
  rw [get?_writeInto h]

theorem get?_composeUpload_name (r : Request) (boundary bucket name : String) (sidecar : Sidecar)
    (ciphertext : Bytes) :
    (composeUpload r boundary bucket name sidecar ciphertext).query.get? "name" = none := by
  have hname : "name" ∈ uploadParameters := by decide
  unfold composeUpload
  exact (Query.get?_set_of_ne (by decide) _ _).trans
    ((Query.get?_set_of_ne (by decide) _ _).trans (Query.get?_without_of_mem hname r.query))

end Hooks

/-- The request is the upload of the object of the session: no parameter names another object, and
the resource in its body names the bucket and the object. -/
structure Session.IsUploadedBy (session : Session) (r : Request) : Prop where
  method : r.method = "POST"
  path : r.path = ObjectPath.uploadPath session.bucket
  parameter : r.query.get? "name" = none
  body : ∃ sent : MultipartBody, r.body = sent.write ∧
    r.header? .contentType = some (Boundary.contentType sent.boundary) ∧
    Fields.get? sent.metadata "bucket" = some (.string session.bucket) ∧
    Fields.get? sent.metadata "name" = some (.string session.objectName)

namespace Hooks

variable {σ : Type} [SessionStore σ] {c : Context} {o : Occasion} {s : State σ} {x : Exchange}

/-- A completion that succeeds uploads the object of the session that it took. -/
theorem isUploadedBy_of_completionRequest_ok
    (h : (completionRequest c o s x).result = .ok ()) :
    ∃ id session, completedId x.request = .ok id ∧
      (SessionStore.take o.toMoment id s.sessions).1 = .ok session ∧
      session.IsUploadedBy (completionRequest c o s x).exchange.request := by
  obtain ⟨id, session, sessions, keyId, r, hid, htake, -, hcompose, hr⟩ := of_completionRequest_ok h
  obtain ⟨name, ciphertext, hname, -, rfl⟩ := of_composeSealed_ok hcompose
  rw [name_addressTo] at hname
  obtain rfl := Option.some.inj (Option.filter_eq_some_iff.1 hname).1
  refine ⟨id, session, hid, by rw [htake], ?_⟩
  rw [hr]
  have hbucket : "bucket" ≠ Sidecar.metadataName := by decide
  have hname : "name" ≠ Sidecar.metadataName := by decide
  refine ⟨rfl, rfl, get?_composeUpload_name .., _, rfl, ?_, ?_, ?_⟩
  · exact header?_composeUpload_contentType ..
  · rw [get?_composeBody hbucket]
    simp [Fields.get?]
  · rw [get?_composeBody hname]
    simp [Fields.get?]

end Hooks
end SealingProxy
