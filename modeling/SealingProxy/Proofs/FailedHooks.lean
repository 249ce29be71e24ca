import SealingProxy.Proofs.EngineRuns
import SealingProxy.Proofs.HookSteps
import SealingProxy.Proofs.UploadHooks
/-! # What a failed hook leaves

A hook that fails leaves the exchange as it was, with one exception. A completion is addressed to
the object of its session before that object is sealed, so that a failure of the sealing leaves
another request than the client sent. -/

namespace SealingProxy

variable {σ : Type}

/-- The hook succeeds, or it leaves the exchange as it was. -/
def Outcome.Keeps (out : Outcome σ) (x : Exchange) : Prop :=
  out.result = .ok () ∨ out.exchange = x

theorem Outcome.Keeps.exchange_eq {out : Outcome σ} {x : Exchange} {err : ProxyError}
    (h : out.Keeps x) (herr : out.result = .error err) : out.exchange = x := by
  refine h.resolve_left fun hok => ?_
  rw [hok] at herr
  cases herr

namespace Hooks

section
variable (c : Context) (o : Occasion) (s : State σ) (x : Exchange)

theorem keeps_multipartRequest : (multipartRequest c o s x).Keeps x := by
  unfold multipartRequest
  split
  · exact .inr rfl
  split
  · exact .inr rfl
  · exact .inl rfl

theorem keeps_mediaRequest : (mediaRequest c o s x).Keeps x := by
  unfold mediaRequest
  dsimp only
  split
  · exact .inr rfl
  split
  · exact .inr rfl
  · exact .inl rfl

theorem keeps_restoreUpload : (restoreUpload c o s x).Keeps x := by
  unfold restoreUpload
  split
  · exact .inl rfl
  split
  · split
    · exact .inr rfl
    · exact .inl rfl
  · exact .inl rfl

theorem keeps_downloadResponse : (downloadResponse c o s x).Keeps x := by
  unfold downloadResponse
  split
  · exact .inl rfl
  split
  · split
    · exact .inl rfl
    split
    · exact .inr rfl
    split
    · exact .inr rfl
    · exact .inl rfl
  · exact .inl rfl

theorem keeps_resourceResponse : (resourceResponse c o s x).Keeps x := by
  unfold resourceResponse
  split
  · exact .inl rfl
  split
  · split
    · exact .inr rfl
    · exact .inl rfl
  · exact .inl rfl

end

variable {c : Context} {o : Occasion} {s : State σ} {x : Exchange} {err : ProxyError}

theorem composeSealed_eq_error_iff {r : Request} {bucket keyId : String} :
    (composeSealed c o s r bucket keyId).1 = .error err ↔
      (r.query.get? "name").filter (· != "") = none ∧ err = .missingObjectName ∨
      ((r.query.get? "name").filter (· != "")).isSome ∧
        (s.encrypt c o keyId r.body).1 = .error err := by
  unfold composeSealed
  split
  · next hname => simp [hname, eq_comm]
  · next name hname =>
    split
    · next h => simp [hname, h]
    · next h => simp [hname, h]

/-- Once a request is addressed to the object of a session, sealing fails for want of a name or for
the cause that the key service gives. -/
theorem composeSealed_addressTo_eq_error_iff {session : Session} {r : Request} {sessions : σ}
    {bucket keyId : String} :
    (composeSealed c o { s with sessions } (addressTo session r) bucket keyId).1 = .error err ↔
      session.objectName = "" ∧ err = .missingObjectName ∨
      session.objectName ≠ "" ∧ (s.encrypt c o keyId r.body).1 = .error err := by
  rw [composeSealed_eq_error_iff, name_addressTo]
  by_cases hname : session.objectName = ""
  · simp [hname]
  · simp only [Option.filter_some, bne_iff_ne, ne_eq, hname, not_false_eq_true, if_true,
      Option.isSome_some, true_and, reduceCtorEq, false_and, false_or]
    rfl

/-- A completion names a session, which no request addressed to an object does. -/
theorem addressTo_ne_of_completedId {r : Request} {id : String} (h : completedId r = .ok id)
    (session : Session) : addressTo session r ≠ r := by
  intro heq
  have hmem : "upload_id" ∈ ["upload_id", "uploadType", "name"] := by decide
  have hnone : (addressTo session r).query.get? "upload_id" = none :=
    (Query.get?_set_of_ne (by decide) _ _).trans (Query.get?_without_of_mem hmem r.query)
  rw [heq] at hnone
  unfold completedId at h
  rw [hnone] at h
  split at h
  · cases h
  · cases h

end Hooks

/-- The request completes a session for which there is a key, and its object cannot be sealed: the
session names no object, or the sealing fails. -/
structure Session.FailsToSeal [SessionStore σ] (session : Session) (c : Context) (o : Occasion)
    (s : State σ) (r : Request) (err : ProxyError) : Prop where
  taken : ∃ id, Hooks.completedId r = .ok id ∧
    (SessionStore.take o.toMoment id s.sessions).1 = .ok session
  failed : ∃ keyId, Hooks.uploadKey c session.bucket (ObjectPath.bucket? r.path) = .ok keyId ∧
    (session.objectName = "" ∧ err = .missingObjectName ∨
      session.objectName ≠ "" ∧ (s.encrypt c o keyId r.body).1 = .error err)

variable [SessionStore σ]

theorem Hooks.exchange_completionRequest_of_error {c : Context} {o : Occasion} {s : State σ}
    {x : Exchange} {err : ProxyError} (h : (completionRequest c o s x).result = .error err) :
    (completionRequest c o s x).exchange = x ∨
      ∃ session : Session, session.FailsToSeal c o s x.request err ∧
        (completionRequest c o s x).exchange =
          { x with request := addressTo session x.request } := by
  unfold completionRequest at h ⊢
  split at h
  · exact .inl rfl
  · next id hid =>
    split at h
    · exact .inl rfl
    · next session sessions htake =>
      dsimp only at h ⊢
      split at h
      · exact .inl rfl
      · next keyId hkey =>
        split at h
        · next hcompose =>
          -- Only here is the request no longer the one that was received.
          cases h
          refine .inr ⟨session, ⟨⟨id, hid, by rw [htake]⟩, keyId, hkey, ?_⟩, rfl⟩
          rw [← composeSealed_addressTo_eq_error_iff, hcompose]
        · cases h

/-- A hook that fails leaves the exchange as it was, unless it is that of a completion whose object
cannot be sealed. The request of such a completion is left as addressed to the object of its
session, which is never the request that was received. -/
theorem Operation.exchange_of_failed_hook (op : Operation) (c : Context) (o : Occasion)
    (s : State σ) (x : Exchange) (err : ProxyError) :
    ((op.requestHook c o s x).result = .error err →
      (op.requestHook c o s x).exchange = x ∨
      op = .sessionCompletion ∧ ∃ session : Session, session.FailsToSeal c o s x.request err ∧
        (op.requestHook c o s x).exchange =
          { x with request := Hooks.addressTo session x.request } ∧
        Hooks.addressTo session x.request ≠ x.request) ∧
    ((op.responseHook c o s x).result = .error err →
      (op.responseHook c o s x).exchange = x) := by
  constructor
  · intro h
    cases op with
    | multipartUpload => exact .inl ((Hooks.keeps_multipartRequest c o s x).exchange_eq h)
    | mediaUpload => exact .inl ((Hooks.keeps_mediaRequest c o s x).exchange_eq h)
    | sessionCompletion =>
      obtain hx | ⟨session, hfails, hx⟩ := Hooks.exchange_completionRequest_of_error h
      · exact .inl hx
      · obtain ⟨id, hid, -⟩ := hfails.taken
        exact .inr ⟨rfl, session, hfails, hx, Hooks.addressTo_ne_of_completedId hid session⟩
    | sessionOpening => cases h
    | download => cases h
    | resourceFetch => cases h
    | passThrough => cases h
  · intro h
    cases op with
    | multipartUpload => exact (Hooks.keeps_restoreUpload c o s x).exchange_eq h
    | mediaUpload => exact (Hooks.keeps_restoreUpload c o s x).exchange_eq h
    | sessionCompletion => exact (Hooks.keeps_restoreUpload c o s x).exchange_eq h
    | sessionOpening => exact Hooks.exchange_openingResponse c o s x
    | download => exact (Hooks.keeps_downloadResponse c o s x).exchange_eq h
    | resourceFetch => exact (Hooks.keeps_resourceResponse c o s x).exchange_eq h
    | passThrough => cases h

/-! ## A session that names no object

Nothing that a client declares is stored without a name, but a store may hold such a record. -/

namespace Operation
open Gateway

def namelessState : State MemoryStore :=
  { freshState with sessions := { ttl := 1000000000, sessions := [("U1", {
      bucket := "photos"
      objectName := ""
      createdAt := quietOccasion.now })] } }

/-- The completion of that session, with the response that it never gets. -/
def namelessCompletion : Exchange where
  request := { Request.ofTarget "PUT" "storage.googleapis.com"
    "/upload/storage/v1/b/photos/o?uploadType=resumable&upload_id=U1" with body := utf8 "meow" }
  response := some ⟨200, {}, utf8 "\x7b\x7d"⟩

private theorem exists_error_namelessCompletion :
    ∃ err, (sessionCompletion.requestHook photoGateway.engine.context quietOccasion namelessState
      namelessCompletion).result = .error err := by
  have hok : (sessionCompletion.requestHook photoGateway.engine.context quietOccasion namelessState
      namelessCompletion).result.isOk = false := by decide +kernel
  cases h : (sessionCompletion.requestHook photoGateway.engine.context quietOccasion namelessState
      namelessCompletion).result with
  | error err => exact ⟨err, rfl⟩
  | ok u =>
    rw [h] at hok
    cases hok

/-- The request that is left has another target than the one that was received. -/
theorem target_ne_of_nameless_session :
    (∃ err, (sessionCompletion.requestHook photoGateway.engine.context quietOccasion namelessState
      namelessCompletion).result = .error err) ∧
    (sessionCompletion.requestHook photoGateway.engine.context quietOccasion namelessState
      namelessCompletion).exchange.request.target = "/upload/storage/v1/b/photos/o?name=" ∧
    (sessionCompletion.requestHook photoGateway.engine.context quietOccasion namelessState
      namelessCompletion).exchange.request.target ≠ namelessCompletion.request.target :=
  ⟨exists_error_namelessCompletion, by decide +kernel, by decide +kernel⟩

theorem exchange_of_nameless_session :
    (∃ session, (sessionCompletion.requestHook photoGateway.engine.context quietOccasion
      namelessState namelessCompletion).exchange =
        { namelessCompletion with
          request := Hooks.addressTo session namelessCompletion.request }) ∧
    (sessionCompletion.responseHook photoGateway.engine.context quietOccasion namelessState
      namelessCompletion).result = .error (.missingStash .stashedSize) ∧
    (sessionCompletion.responseHook photoGateway.engine.context quietOccasion namelessState
      namelessCompletion).exchange = namelessCompletion := by
  obtain ⟨err, herr⟩ := exists_error_namelessCompletion
  have hne : (sessionCompletion.requestHook photoGateway.engine.context quietOccasion
      namelessState namelessCompletion).exchange ≠ namelessCompletion := by decide +kernel
  refine ⟨?_, rfl, ?_⟩
  · obtain h | ⟨-, session, -, h, -⟩ := (exchange_of_failed_hook sessionCompletion
      photoGateway.engine.context quietOccasion namelessState namelessCompletion err).1 herr
    · exact absurd h hne
    · exact ⟨session, h⟩
  · exact (exchange_of_failed_hook sessionCompletion photoGateway.engine.context quietOccasion
      namelessState namelessCompletion (.missingStash .stashedSize)).2 rfl

end Operation
end SealingProxy
