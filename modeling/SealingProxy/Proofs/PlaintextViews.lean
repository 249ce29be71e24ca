import SealingProxy.Proofs.SidecarLaws
import SealingProxy.Proofs.UploadDownload
import SealingProxy.Proofs.UploadedObjects
/-! # What is shown of an uploaded object

The facts of a plaintext reach its client on two ways. In the response to an upload they come from
the stash of the same exchange, in a fetched resource from the sidecar that the service kept. Both
ways show the same resource: size and digest are those of the plaintext, the checksum is gone, and
every other member is the stored one. -/

namespace SealingProxy

variable {σ : Type}

namespace Sidecar

/-- The resource carries the sidecar in its custom metadata, possibly among other members. -/
def IsIn (s : Sidecar) (r : Resource) : Prop :=
  ∀ m ∈ s.members, Fields.get? (custom r) m.1 = some (.string m.2)

/-- Only an object has members. -/
theorem exists_object_of_custom {r : Resource} {name : String} {v : Json}
    (h : Fields.get? (custom r) name = some v) :
    ∃ c, Fields.get? r metadataName = some (.object c) ∧ custom r = c := by
  have hempty : Fields.get? ([] : Fields Json) name ≠ some v := by simp [Fields.get?]
  unfold custom at h ⊢
  split at h
  · next c hc => exact ⟨c, hc, rfl⟩
  · exact absurd h hempty

theorem isIn_writeInto (s : Sidecar) (r : Resource) : s.IsIn (s.writeInto r) := by
  intro m hm
  rw [custom_writeInto, get?_addTo hm]

end Sidecar

namespace PlaintextFacts

def ofContent (content : Bytes) : PlaintextFacts :=
  ⟨content.length, contentMd5 content⟩

theorem readSize?_text {n : Nat} (h : n < UInt64.size) :
    readSize? (.string (Decimal.text n)) = some n := by
  rw [readSize?, Decimal.toList_text, Decimal.trim_write, Decimal.read?_write h]

theorem ofResource?_eq_some {r : Resource} {size : Nat} {md5 : String} (hsize : size < UInt64.size)
    (hl : Fields.get? (Sidecar.custom r) Sidecar.lengthName = some (.string (Decimal.text size)))
    (hm : Fields.get? (Sidecar.custom r) Sidecar.md5Name = some (.string md5)) :
    ofResource? r = some ⟨size, md5⟩ := by
  obtain ⟨custom, hr, hcustom⟩ := Sidecar.exists_object_of_custom hl
  rw [hcustom] at hl hm
  simp only [ofResource?, hr, hl, hm, Option.bind_some, readSize?_text hsize, Json.string?]

/-- A sidecar gives back the facts of its object. -/
theorem ofResource?_of_isIn {content : Bytes} {keyId version : String} {r : Resource}
    (hlength : content.length < UInt64.size)
    (h : (Sidecar.ofPlaintext content keyId version).IsIn r) :
    ofResource? r = some (ofContent content) :=
  ofResource?_eq_some hlength (h (_, _) List.mem_cons_self)
    (h (_, _) (List.mem_cons_of_mem _ List.mem_cons_self))

/-- The resource is the stored one, except that it states the facts and no checksum. -/
structure ShownIn (f : PlaintextFacts) (stored shown : Resource) : Prop where
  size : Fields.get? shown "size" = some (.string (Decimal.text f.size))
  md5 : Fields.get? shown "md5Hash" = some (.string f.md5)
  checksum : Fields.get? shown "crc32c" = none
  rest : ∀ name, name ∉ ["size", "md5Hash", "crc32c"] →
    Fields.get? shown name = Fields.get? stored name
  distinct : (shown.map (·.1)).Nodup

theorem shownIn_applyTo (f : PlaintextFacts) {r : Resource} (hd : (r.map (·.1)).Nodup) :
    f.ShownIn r (f.applyTo r) := by
  have hstated : ((Fields.insert (Fields.insert r "size" (.string (Decimal.text f.size))) "md5Hash"
      (Json.string f.md5)).map (·.1)).Nodup :=
    Fields.nodup_insert (Fields.nodup_insert hd _ _) _ _
  unfold applyTo
  constructor
  · rw [Fields.get?_swapErase_of_ne (by decide) hstated, Fields.get?_insert_of_ne (by decide),
      Fields.get?_insert_self]
  · rw [Fields.get?_swapErase_of_ne (by decide) hstated, Fields.get?_insert_self]
  · exact Fields.get?_swapErase_self hstated
  · intro name hname
    simp only [List.mem_cons, List.not_mem_nil, or_false, not_or] at hname
    obtain ⟨hsize, hmd5, hchecksum⟩ := hname
    rw [Fields.get?_swapErase_of_ne hchecksum hstated, Fields.get?_insert_of_ne hmd5,
      Fields.get?_insert_of_ne hsize]
  · exact Fields.nodup_swapErase hstated _

end PlaintextFacts

theorem Resource.nodup_of_read {body : Bytes} {r : Resource} (h : Resource.read body = .ok r) :
    (r.map (·.1)).Nodup := by
  unfold Resource.read at h
  split at h
  · next members hread =>
    cases h
    exact (Json.fits_of_read? hread).1.1
  · cases h
  · cases h

theorem Resource.read_write {r : Resource} (hn : ∀ n ∈ (Json.object r).numbers, n.IsReadable)
    (hr : Json.Fits 0 (.object r)) : Resource.read (Resource.write r) = .ok (Json.rereadMembers r) := by
  rw [Resource.read, Resource.write, Json.read?_write hn hr.1 hr.2]
  rfl

namespace Hooks

variable {x : Exchange} {response : Response} {resource : Resource} {facts : PlaintextFacts}

theorem stashedFacts_of_stashes {r : Request} {content : Bytes} (h : r.Stashes content)
    (hlength : content.length < UInt64.size) : stashedFacts r = .ok (.ofContent content) := by
  rw [stashedFacts, h.size, h.md5]
  dsimp only
  rw [Decimal.toList_text, Decimal.trim_write, Decimal.read?_write hlength]
  rfl

theorem restoreUpload_of_read (hx : x.response = some response) (hsuccess : response.isSuccess)
    (hfacts : stashedFacts x.request = .ok facts) (hread : Resource.read response.body = .ok resource)
    (c : Context) (o : Occasion) (s : State σ) :
    restoreUpload c o s x = .success { x with
      response := some (response.setBody (Resource.write (facts.applyTo resource))) } s := by
  simp only [restoreUpload, restoreFacts, hx, hsuccess, hfacts, hread, if_true]

theorem resourceResponse_of_read (hx : x.response = some response)
    (hsuccess : response.isSuccess) (hread : Resource.read response.body = .ok resource)
    (hfacts : PlaintextFacts.ofResource? resource = some facts)
    (c : Context) (o : Occasion) (s : State σ) :
    resourceResponse c o s x = .success { x with
      response := some (response.setBody (Resource.write (facts.applyTo resource))) } s := by
  simp only [resourceResponse, revealFacts, hx, hsuccess, hread, hfacts, if_true]

theorem isIn_sealMultipart (r : Request) (body : MultipartBody) (sidecar : Sidecar)
    (ciphertext : Bytes) : ∃ sent : MultipartBody,
      (sealMultipart r body sidecar ciphertext).body = sent.write ∧ sidecar.IsIn sent.metadata :=
  ⟨_, rfl, sidecar.isIn_writeInto body.metadata⟩

theorem isIn_composeUpload (r : Request) (boundary bucket name : String) (sidecar : Sidecar)
    (ciphertext : Bytes) : ∃ sent : MultipartBody,
      (composeUpload r boundary bucket name sidecar ciphertext).body = sent.write ∧
      sidecar.IsIn sent.metadata := by
  refine ⟨composeBody boundary bucket name (objectContentType r) sidecar ciphertext, rfl, ?_⟩
  exact sidecar.isIn_writeInto [("bucket", .string bucket),
    ("contentType", .string (objectContentType r)), ("name", .string name)]

end Hooks

namespace Operation
open Hooks

variable [SessionStore σ] {c : Context} {o : Occasion} {s : State σ} {x : Exchange}

/-- What an upload forwards carries the sidecar of its object. -/
theorem exists_sidecar_of_requestHook_ok {op : Operation} {content : Bytes}
    (hobject : op.object? x.request = some content)
    (h : (op.requestHook c o s x).result = .ok ()) :
    ∃ (sent : MultipartBody) (keyId : String),
      (op.requestHook c o s x).exchange.request.body = sent.write ∧
      (Sidecar.ofPlaintext content keyId c.version).IsIn sent.metadata := by
  cases op with
  | multipartUpload =>
    obtain ⟨body, keyId, ciphertext, hread, -, hr⟩ := of_multipartRequest_ok h
    obtain rfl := Option.some.inj ((object?_of_readMultipart hread).symm.trans hobject)
    obtain ⟨sent, hsent, hin⟩ := isIn_sealMultipart x.request body
      (Sidecar.ofPlaintext body.payload keyId c.version) ciphertext
    exact ⟨sent, keyId, (congrArg Request.body hr).trans hsent, hin⟩
  | mediaUpload =>
    obtain ⟨keyId, r, -, hcompose, hr⟩ := of_mediaRequest_ok h
    obtain ⟨name, ciphertext, -, -, rfl⟩ := of_composeSealed_ok hcompose
    obtain rfl : x.request.body = content := Option.some.inj hobject
    obtain ⟨sent, hsent, hin⟩ := isIn_composeUpload x.request o.boundary _ name
      (Sidecar.ofPlaintext x.request.body keyId c.version) ciphertext
    exact ⟨sent, keyId, (congrArg Request.body hr).trans hsent, hin⟩
  | sessionCompletion =>
    obtain ⟨id, session, sessions, keyId, r, -, -, -, hcompose, hr⟩ := of_completionRequest_ok h
    obtain ⟨name, ciphertext, -, -, rfl⟩ := of_composeSealed_ok hcompose
    have hbody : (addressTo session x.request).body = content := Option.some.inj hobject
    rw [hbody] at hr
    obtain ⟨sent, hsent, hin⟩ := isIn_composeUpload (addressTo session x.request) o.boundary
      session.bucket name (Sidecar.ofPlaintext content keyId c.version) ciphertext
    exact ⟨sent, keyId, (congrArg Request.body hr).trans hsent, hin⟩
  | sessionOpening => cases hobject
  | download => cases hobject
  | resourceFetch => cases hobject
  | passThrough => cases hobject

theorem isUpload_of_object? {op : Operation} {r : Request} {content : Bytes}
    (h : op.object? r = some content) : op.isUpload = true := by
  cases op <;> first | rfl | cases h

end Operation

namespace Engine

variable [SessionStore σ]

/-- Every success that answers an upload gives its client the stored resource with the facts of
the object. Where that resource still carries the sidecar, whoever fetches it gets the same body. -/
theorem exists_shown_of_upload {e : Engine} {first : Occasion} {s : State σ} {x : Exchange}
    {content : Bytes} (hobject : (e.operation x.request).object? x.request = some content)
    (hlength : content.length < UInt64.size) (h : (e.onRequest first s x).result = .ok ()) :
    ∃ (sent : MultipartBody) (keyId : String),
      (e.onRequest first s x).exchange.request.body = sent.write ∧
      (Sidecar.ofPlaintext content keyId e.context.version).IsIn sent.metadata ∧
      ∀ (response : Response) (stored : Resource), response.isSuccess = true →
        Resource.read response.body = .ok stored →
        ∃ shown, (PlaintextFacts.ofContent content).ShownIn stored shown ∧
          (∀ (second : Occasion) (s₁ : State σ), e.onResponse second s₁
              { (e.onRequest first s x).exchange with response := some response } =
            .success { (e.onRequest first s x).exchange with
              response := some (response.setBody (Resource.write shown)) } s₁) ∧
          ((Sidecar.ofPlaintext content keyId e.context.version).IsIn stored →
            ∀ (fetcher : Engine) (third : Occasion) (s₂ : State σ) (y : Exchange)
              (fetched : Response), y.operation = some .resourceFetch → fetched.isSuccess = true →
            Resource.read fetched.body = .ok stored →
            fetcher.onResponse third s₂ { y with response := some fetched } =
              .success { y with
                response := some (fetched.setBody (Resource.write shown)) } s₂) := by
  have hop := Operation.isUpload_of_object? hobject
  obtain ⟨content', hobject', hstash⟩ := Operation.exists_stashes_of_requestHook_ok hop h
  obtain rfl := Option.some.inj (hobject'.symm.trans hobject)
  obtain ⟨sent, keyId, hsent, hin⟩ := Operation.exists_sidecar_of_requestHook_ok
    (x := { x with operation := some (e.operation x.request) }) hobject h
  have hfacts := Hooks.stashedFacts_of_stashes hstash hlength
  refine ⟨sent, keyId, hsent, hin, fun response stored hsuccess hread => ?_⟩
  have hdistinct := Resource.nodup_of_read hread
  -- Both ways end in the same rewriting of the same resource, once they have found the same facts.
  refine ⟨_, (PlaintextFacts.ofContent content').shownIn_applyTo hdistinct, ?_, ?_⟩
  · intro second s₁
    rw [onResponse_onRequest]
    have hrestore := Hooks.restoreUpload_of_read
      (x := { (e.onRequest first s x).exchange with response := some response }) rfl hsuccess
      hfacts hread e.context second s₁
    cases hkind : e.operation x.request <;>
      first | exact hrestore | rw [hkind] at hop; cases hop
  · intro hstored fetcher third s₂ y fetched hy hfetched hread'
    rw [onResponse_answered hy]
    exact Hooks.resourceResponse_of_read (x := { y with response := some fetched }) rfl hfetched
      hread' (PlaintextFacts.ofResource?_of_isIn hlength hstored) fetcher.context third s₂

/-- An upload of four bytes. Its client states another size in the header for the response half. -/
def statedCatUpload : Exchange where
  request := { Request.ofTarget "POST" "storage.googleapis.com"
      "/upload/storage/v1/b/photos/o?uploadType=media&name=cat.jpg" with
    headers := ⟨[(.stashedSize, utf8 "eleven")]⟩
    body := utf8 "meow" }

def storedCat (keyId : String) : Resource :=
  (Sidecar.ofPlaintext (utf8 "meow") keyId "1").writeInto
    [("crc32c", .string "yZRlqg=="), ("name", .string "cat.jpg"), ("size", .string "96")]

private theorem read_storedCat (keyId : String) :
    Resource.read (Resource.write (storedCat keyId)) = .ok (storedCat keyId) := by
  have hstrings : ∀ m ∈ [("crc32c", Json.string "yZRlqg=="), ("name", .string "cat.jpg"),
      ("size", .string "96")], ∃ s, m.2 = .string s := by simp
  exact Resource.read_write
    (fun n hn => absurd (Sidecar.mem_numbers_writeInto hn) (Json.not_mem_numbers_of_strings hstrings n))
    (Sidecar.fits_writeInto _ (Json.fits_of_strings (by decide) hstrings))

def catReport (keyId : String) : Response where
  status := 200
  body := Resource.write (storedCat keyId)

private theorem onRequest_statedCatUpload :
    (Gateway.photoGateway.engine.onRequest sealingOccasion Gateway.freshState
      statedCatUpload).result = .ok () := by
  obtain ⟨ciphertext, hsealed⟩ := Envelope.exists_encrypt_derived .zero "k"
    isSized_sealingOccasion (utf8 "meow")
  have hname : statedCatUpload.request.query.get? "name" = some "cat.jpg" := by decide +kernel
  rw [onRequest_mediaUpload (by decide +kernel)]
  exact Hooks.mediaRequest_eq_ok (by decide +kernel) hname (by decide)
    (State.encrypt_eq_ok reaches_freshState.holds handle_photoGateway hsealed)

theorem exists_shown_of_upload_cat :
    ∃ (keyId : String) (shown : Resource),
      (PlaintextFacts.ofContent (utf8 "meow")).ShownIn (storedCat keyId) shown ∧
      (Gateway.photoGateway.engine.onResponse Gateway.quietOccasion Gateway.freshState
        { (Gateway.photoGateway.engine.onRequest sealingOccasion Gateway.freshState
            statedCatUpload).exchange with response := some (catReport keyId) }).exchange.response =
        some ((catReport keyId).setBody (Resource.write shown)) ∧
      (Gateway.photoGateway.engine.onResponse Gateway.quietOccasion Gateway.freshState
        { request := Request.ofTarget "GET" "storage.googleapis.com" "/storage/v1/b/photos/o/cat.jpg"
          response := some (catReport keyId)
          operation := some .resourceFetch }).exchange.response =
        some ((catReport keyId).setBody (Resource.write shown)) := by
  have hobject : (Gateway.photoGateway.engine.operation statedCatUpload.request).object?
      statedCatUpload.request = some (utf8 "meow") := by decide +kernel
  obtain ⟨sent, keyId, -, -, hshown⟩ :=
    exists_shown_of_upload hobject (by decide +kernel) onRequest_statedCatUpload
  obtain ⟨shown, hview, hanswered, hfetched⟩ :=
    hshown (catReport keyId) (storedCat keyId) rfl (read_storedCat keyId)
  refine ⟨keyId, shown, hview, ?_, ?_⟩
  · rw [hanswered]
    rfl
  · exact congrArg (fun out => out.exchange.response) (hfetched (Sidecar.isIn_writeInto _ _)
      Gateway.photoGateway.engine Gateway.quietOccasion Gateway.freshState
      { request := Request.ofTarget "GET" "storage.googleapis.com" "/storage/v1/b/photos/o/cat.jpg"
        operation := some .resourceFetch } (catReport keyId) rfl rfl (read_storedCat keyId))

end Engine
end SealingProxy
