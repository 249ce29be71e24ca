import SealingProxy.Proofs.DeliveredContent
import SealingProxy.Proofs.MappingEntries
import SealingProxy.Proofs.SessionLocation
import SealingProxy.Proofs.UploadedObjects
/-! # Keys of the exchanges that are handled

A mapping never hands out the empty key, and an exchange is handled only if the bucket in its target
has a key. The hooks look for a key again, by what the resource, the session or the response names.
They find one whatever that is, as they fall back on the target. -/

namespace SealingProxy

variable {σ : Type}

namespace Classifier

/-- The bucket in the target of a handled request has a key. -/
theorem exists_key_of_classify {c : Classifier} {r : Request} (h : c.classify r ≠ .passThrough) :
    ∃ bucket key, ObjectPath.bucket? r.path = some bucket ∧ c.resolve bucket = some key := by
  obtain ⟨-, hkey, -⟩ := classify_ne_passThrough h
  unfold hasKey at hkey
  split at hkey
  · next bucket hbucket =>
    obtain ⟨key, hkey⟩ := Option.isSome_iff_exists.1 hkey
    exact ⟨bucket, key, hbucket, hkey⟩
  · cases hkey

end Classifier

namespace Hooks

variable {c : Context} {o : Occasion} {s : State σ} {x : Exchange}

/-- With a key for the bucket in the target, an upload falls back on this key. -/
theorem uploadKey_eq_ok {target key : String} (h : c.resolve target = some key)
    (bucket : String) : uploadKey c bucket (some target) = .ok ((c.resolve bucket).getD key) := by
  unfold uploadKey
  cases hbucket : c.resolve bucket with
  | some keyId => rfl
  | none =>
    have hne : target ≠ bucket := by
      rintro rfl
      rw [hbucket] at h
      cases h
    have hfallback : ((some target).filter (· != bucket)).bind c.resolve = some key := by
      rw [Option.filter_some, if_pos (by simpa using hne), Option.bind_some, h]
    rw [hfallback]
    rfl

theorem exists_uploadKey {target key : String} (h : c.resolve target = some key)
    (bucket : String) : ∃ keyId, uploadKey c bucket (some target) = .ok keyId :=
  ⟨_, uploadKey_eq_ok h bucket⟩

/-! ## Why an upload is not sealed -/

/-- Some content cannot be sealed under some key that a bucket has. -/
def CannotSeal (c : Context) (o : Occasion) (s : State σ) (reason : String) : Prop :=
  ∃ bucket keyId content, c.resolve bucket = some keyId ∧
    (s.encrypt c o keyId content).1 = .error (.encryptionFailed reason)

theorem cannotSeal_of_composeSealed {r : Request} {bucket named keyId reason : String}
    (hkey : c.resolve named = some keyId)
    (h : (composeSealed c o s r bucket keyId).1 = .error (.encryptionFailed reason)) :
    CannotSeal c o s reason := by
  unfold composeSealed at h
  split at h
  · cases h
  · split at h
    · next hsealed =>
      obtain rfl := Except.error.inj h
      exact ⟨named, keyId, r.body, hkey, congrArg Prod.fst hsealed⟩
    · cases h

theorem readMultipart_ne_encryptionFailed {r : Request} {target key : String}
    (htarget : ObjectPath.bucket? r.path = some target) (hkey : c.resolve target = some key)
    (reason : String) : readMultipart c r ≠ .error (.encryptionFailed reason) := by
  intro h
  unfold readMultipart at h
  split at h
  · cases h
  split at h
  · cases h
  · next body _ =>
    dsimp only at h
    rw [htarget] at h
    obtain ⟨keyId, hkeyId⟩ :=
      exists_uploadKey hkey (((namedBucket? body.metadata).or (some target)).getD "")
    rw [hkeyId] at h
    cases h

theorem cannotSeal_of_multipartRequest {target key reason : String}
    (htarget : ObjectPath.bucket? x.request.path = some target) (hkey : c.resolve target = some key)
    (h : (multipartRequest c o s x).result = .error (.encryptionFailed reason)) :
    CannotSeal c o s reason := by
  unfold multipartRequest at h
  split at h
  · next hread =>
    obtain rfl := Except.error.inj h
    exact absurd hread (readMultipart_ne_encryptionFailed htarget hkey reason)
  · next body keyId hread =>
    obtain ⟨_, -, -, hkeyId⟩ := readMultipart_eq_ok_iff.1 hread
    obtain ⟨named, hnamed⟩ := of_uploadKey_ok hkeyId
    split at h
    · next hsealed =>
      obtain rfl := Except.error.inj h
      exact ⟨named, keyId, body.payload, hnamed, congrArg Prod.fst hsealed⟩
    · cases h

theorem cannotSeal_of_mediaRequest {target key reason : String}
    (htarget : ObjectPath.bucket? x.request.path = some target) (hkey : c.resolve target = some key)
    (h : (mediaRequest c o s x).result = .error (.encryptionFailed reason)) :
    CannotSeal c o s reason := by
  unfold mediaRequest at h
  dsimp only at h
  rw [htarget, Option.getD_some, uploadKey, hkey] at h
  dsimp only at h
  split at h
  · next hcompose =>
    obtain rfl := Except.error.inj h
    exact cannotSeal_of_composeSealed hkey (congrArg Prod.fst hcompose)
  · cases h

theorem completedId_ne_encryptionFailed (r : Request) (reason : String) :
    completedId r ≠ .error (.encryptionFailed reason) := by
  intro h
  unfold completedId at h
  split at h
  · next hrange =>
    obtain rfl := Except.error.inj h
    unfold checkContentRange at hrange
    split at hrange
    · cases hrange
    · dsimp only at hrange
      split at hrange <;> cases hrange
  · split at h <;> cases h

theorem cannotSeal_of_completionRequest [SessionStore σ] {target key reason : String}
    (htarget : ObjectPath.bucket? x.request.path = some target) (hkey : c.resolve target = some key)
    (h : (completionRequest c o s x).result = .error (.encryptionFailed reason)) :
    CannotSeal c o s reason := by
  unfold completionRequest at h
  split at h
  · next hid =>
    obtain rfl := Except.error.inj h
    exact absurd hid (completedId_ne_encryptionFailed x.request reason)
  split at h
  · next e _ _ =>
    cases e <;> cases h
  · next session sessions _ =>
    obtain ⟨keyId, hkeyId⟩ := exists_uploadKey hkey session.bucket
    obtain ⟨named, hnamed⟩ := of_uploadKey_ok hkeyId
    dsimp only at h
    rw [htarget, hkeyId] at h
    dsimp only at h
    split at h
    · next hcompose =>
      obtain rfl := Except.error.inj h
      obtain ⟨bucket, keyId, content, hresolve, hsealed⟩ :=
        cannotSeal_of_composeSealed hnamed (congrArg Prod.fst hcompose)
      exact ⟨bucket, keyId, content, hresolve, hsealed⟩
    · cases h

/-! ## Downloads -/

theorem exists_downloadKey {r : Request} {target key : String}
    (htarget : ObjectPath.bucket? r.path = some target) (hkey : c.resolve target = some key)
    (response : Response) : ∃ keyId, downloadKey? c r response = some keyId ∧
      (keyId ≠ "" ∨ c.resolve target = some keyId) := by
  by_cases hstored : ∃ keyId, response.header? .storedKey = some keyId ∧ keyId ≠ ""
  · obtain ⟨keyId, hheader, hne⟩ := hstored
    exact ⟨keyId, downloadKey?_eq_some_iff.2 (.inl ⟨hheader, hne⟩), .inl hne⟩
  · refine ⟨key, downloadKey?_eq_some_iff.2 (.inr ⟨?_, target, htarget, hkey⟩), .inr hkey⟩
    cases hheader : response.header? .storedKey with
    | none => exact .inl rfl
    | some keyId =>
      refine .inr (congrArg some ?_)
      by_contra hne
      exact hstored ⟨keyId, hheader, hne⟩

/-- What is delivered is the content or the range of it that was asked for. -/
theorem body_of_deliver {range : Option String} {content : Bytes} {response delivered : Response}
    (h : deliver range content response = .ok delivered) :
    range = none ∧ delivered.body = content ∨
    ∃ header r, range = some header ∧ ByteRange.parse? header content.length = some r ∧
      delivered.body = content.extract r.start r.stop := by
  cases range with
  | none =>
    obtain ⟨whole, hwhole, hreturns⟩ := exists_returnsWhole content response
    obtain rfl := Except.ok.inj (hwhole.symm.trans h)
    exact .inl ⟨rfl, hreturns.body⟩
  | some header =>
    cases hparse : ByteRange.parse? header content.length with
    | none =>
      rw [deliver_of_parse?_eq_none hparse] at h
      cases h
    | some r =>
      obtain ⟨part, hpart, hreturns⟩ := exists_returnsRange hparse response
      obtain rfl := Except.ok.inj (hpart.symm.trans h)
      exact .inr ⟨header, r, rfl, hparse, hreturns.body⟩

/-- The exchange is left with a response that holds what the key opens, or a range of it. -/
def LeavesOpened (c : Context) (o : Occasion) (s : State σ) (keyId : String) (sealed : Bytes)
    (x left : Exchange) : Prop :=
  ∃ content delivered, (s.decrypt c o keyId sealed).1 = .ok content ∧
    left = { x with response := some delivered } ∧
    (delivered.body = content ∨ ∃ start stop, delivered.body = content.extract start stop)

theorem leavesOpened_of_downloadResponse {response : Response} {keyId : String}
    (hx : x.response = some response) (hsuccess : response.isSuccess = true)
    (hkey : downloadKey? c x.request response = some keyId)
    (h : (downloadResponse c o s x).result = .ok ()) :
    LeavesOpened c o s keyId response.body x (downloadResponse c o s x).exchange := by
  cases hopen : (s.decrypt c o keyId response.body).1 with
  | error e =>
    rw [downloadResponse_of_decrypt_error hx hsuccess hkey hopen] at h
    cases h
  | ok content =>
    obtain ⟨hfails, hdelivers⟩ := downloadResponse_of_decrypt_ok hx hsuccess hkey hopen
    cases hdeliver : deliver (x.request.header? .stashedRange) content response with
    | error e =>
      rw [hfails e hdeliver] at h
      cases h
    | ok delivered =>
      have hexchange := (hdelivers delivered hdeliver).2
      rcases body_of_deliver hdeliver with ⟨-, hbody⟩ | ⟨_, r, -, -, hbody⟩
      · exact ⟨content, delivered, hopen, hexchange, .inl hbody⟩
      · exact ⟨content, delivered, hopen, hexchange, .inr ⟨r.start, r.stop, hbody⟩⟩

@[simp] theorem path_deferRange (r : Request) : (deferRange r).path = r.path := by
  unfold deferRange
  split <;> rfl

end Hooks

namespace Engine

/-- An engine that is made has one mapping, by which it tells exchanges and finds keys. -/
theorem of_create_ok {c : Config} {keys : KeyService} {e : Engine} {ciphers : CipherCache}
    (h : create c keys = .ok (e, ciphers)) :
    ∃ (m : KeyMapping) (idle : Nat), m.NamesKeys ∧
      e.classifier = ⟨c.interceptHosts, m.resolve⟩ ∧ e.context = ⟨m.resolve, keys, c.version⟩ ∧
      ciphers = { idle } := by
  unfold create at h
  split at h
  · cases h
  · next m hm =>
    split at h
    · cases h
    · next idle _ =>
      cases h
      refine ⟨m, idle, ?_, rfl, rfl, rfl⟩
      unfold Config.mapping at hm
      cases hparse : KeyMapping.parse c.keyMapping with
      | error e =>
        rw [hparse] at hm
        cases hm
      | ok parsed =>
        rw [hparse] at hm
        obtain rfl := Except.ok.inj hm
        exact KeyMapping.namesKeys_of_parse hparse

theorem cannotSeal_of_onRequest [SessionStore σ] {e : Engine} {o : Occasion} {s : State σ}
    {x : Exchange} {target key reason : String}
    (htarget : ObjectPath.bucket? x.request.path = some target)
    (hkey : e.context.resolve target = some key)
    (h : (e.onRequest o s x).result = .error (.encryptionFailed reason)) :
    Hooks.CannotSeal e.context o s reason := by
  unfold onRequest at h
  cases hop : e.operation x.request with
  | multipartUpload =>
    rw [hop] at h
    exact Hooks.cannotSeal_of_multipartRequest
      (x := { x with operation := some .multipartUpload }) htarget hkey h
  | mediaUpload =>
    rw [hop] at h
    exact Hooks.cannotSeal_of_mediaRequest
      (x := { x with operation := some .mediaUpload }) htarget hkey h
  | sessionCompletion =>
    rw [hop] at h
    exact Hooks.cannotSeal_of_completionRequest
      (x := { x with operation := some .sessionCompletion }) htarget hkey h
  | sessionOpening | download | resourceFetch | passThrough =>
    rw [hop] at h
    cases h

/-- Every upload that is handled finds a key, whatever bucket its resource or its session names, and
so fails to be encrypted only if some key does not seal. Every download that is handled finds a
key, whatever headers the response has, and so succeeds only with what it opened. -/
theorem keyed_of_classify [SessionStore σ] {c : Config} {keys : KeyService} {e : Engine}
    {ciphers : CipherCache} (hcreate : create c keys = .ok (e, ciphers)) {x : Exchange}
    (hclassify : e.classifier.classify x.request ≠ .passThrough) :
    (∀ bucket, ∃ keyId, keyId ≠ "" ∧
      Hooks.uploadKey e.context bucket (ObjectPath.bucket? x.request.path) = .ok keyId) ∧
    (∃ keyId, keyId ≠ "" ∧ Hooks.uploadKey e.context
      ((ObjectPath.bucket? x.request.path).getD "") none = .ok keyId) ∧
    (∀ (o : Occasion) (s : State σ) (reason : String),
      (e.onRequest o s x).result = .error (.encryptionFailed reason) →
      ∃ keyId content, keyId ≠ "" ∧
        (s.encrypt e.context o keyId content).1 = .error (.encryptionFailed reason)) ∧
    (e.classifier.classify x.request = .download →
      ∀ (first second : Occasion) (s s₁ : State σ) (response : Response),
        response.isSuccess = true →
        ∃ keyId, keyId ≠ "" ∧
          Hooks.downloadKey? e.context (Hooks.downloadRequest e.context first s x).exchange.request
            response = some keyId ∧
          ∀ y : Exchange, y.request = (Hooks.downloadRequest e.context first s x).exchange.request →
            y.response = some response →
            (Hooks.downloadResponse e.context second s₁ y).result = .ok () →
            Hooks.LeavesOpened e.context second s₁ keyId response.body y
              (Hooks.downloadResponse e.context second s₁ y).exchange) := by
  obtain ⟨m, -, hm, hclassifier, hcontext, -⟩ := of_create_ok hcreate
  obtain ⟨target, key, htarget, hkey⟩ := Classifier.exists_key_of_classify hclassify
  have hresolve : e.context.resolve = m.resolve := by rw [hcontext]
  have hkey : e.context.resolve target = some key := by
    rw [hclassifier] at hkey
    rw [hresolve]
    exact hkey
  have hnamed {bucket keyId : String} (h : e.context.resolve bucket = some keyId) : keyId ≠ "" :=
    hm.resolve_ne (hresolve ▸ h)
  refine ⟨fun bucket => ?_, ⟨key, hnamed hkey, ?_⟩, fun o s reason herr => ?_, ?_⟩
  · obtain ⟨keyId, hkeyId⟩ := Hooks.exists_uploadKey hkey bucket
    obtain ⟨named, hnamedKey⟩ := Hooks.of_uploadKey_ok hkeyId
    exact ⟨keyId, hnamed hnamedKey, htarget ▸ hkeyId⟩
  · rw [htarget, Option.getD_some, Hooks.uploadKey, hkey]
  · obtain ⟨bucket, keyId, content, hbucket, hsealed⟩ := cannotSeal_of_onRequest htarget hkey herr
    exact ⟨keyId, content, hnamed hbucket, hsealed⟩
  · intro _ first second s s₁ response hsuccess
    -- The request half leaves the path alone, so that the target still has its key.
    have hpath : ObjectPath.bucket?
        (Hooks.downloadRequest e.context first s x).exchange.request.path = some target := by
      rw [← htarget]
      exact congrArg ObjectPath.bucket? (Hooks.path_deferRange x.request)
    obtain ⟨keyId, hkeyId, hne⟩ := Hooks.exists_downloadKey hpath hkey response
    refine ⟨keyId, hne.elim id hnamed, hkeyId, fun y hrequest hy hok => ?_⟩
    exact Hooks.leavesOpened_of_downloadResponse hy hsuccess (hrequest ▸ hkeyId) hok

def photoConfig : Config :=
  { keyMapping := "photos:k" }

def photoMapping : KeyMapping :=
  { perBucket := [("photos", "k")] }

def photoEngine : Engine where
  classifier := ⟨photoConfig.interceptHosts, photoMapping.resolve⟩
  context := ⟨photoMapping.resolve, .ofMaster .zero, photoConfig.version⟩
  disabled := false
  keyIds := photoMapping.keyIds

theorem create_photoConfig :
    create photoConfig (.ofMaster .zero) = .ok (photoEngine, { idle := 14400000000000 }) := by
  have hmapping : photoConfig.mapping = .ok photoMapping := by decide +kernel
  have hspan : photoConfig.cacheSpan = .ok 14400000000000 := by decide +kernel
  rw [create, hmapping]
  dsimp only
  rw [hspan]
  rfl

/-- An upload under the root of `photos` may name another bucket. -/
theorem keyed_of_classify_albums :
    photoEngine.context.resolve "albums" = none ∧
    ∃ keyId, keyId ≠ "" ∧ Hooks.uploadKey photoEngine.context "albums"
      (ObjectPath.bucket? (catUpload 0).path) = .ok keyId :=
  ⟨by decide, (keyed_of_classify (σ := MemoryStore) create_photoConfig
    (x := { request := catUpload 0 }) (by decide +kernel)).1 "albums"⟩

end Engine
end SealingProxy
