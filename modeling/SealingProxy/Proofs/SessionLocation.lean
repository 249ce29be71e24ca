import Mathlib.Data.List.TakeWhile
import SealingProxy.Proofs.EngineRuns
import SealingProxy.Proofs.HeaderLaws
import SealingProxy.Proofs.HookSteps
import SealingProxy.Proofs.RequestTargets
/-! # The location of a session

The service answers an opening with a location. The client gets it pointed back at the gateway, and
sends the object there. Which operation the gateway then assigns depends on the location: it is a
completion if the path lies under the root of sessions or the first upload type is `resumable`, and
else it passes through. In both cases the upload id in the location is the one that was recorded. -/

namespace SealingProxy

open Text

namespace Query

def IsResumable (path query : String) : Prop :=
  ObjectPath.startsWith path ObjectPath.resumableRoot = true ∨
    (Query.parse query).get? "uploadType" = some "resumable"

instance (path query : String) : Decidable (IsResumable path query) :=
  inferInstanceAs (Decidable (_ ∨ _))

end Query

namespace Classifier

theorem classify_ne_passThrough {c : Classifier} {r : Request} (h : c.classify r ≠ .passThrough) :
    c.interceptsHost r.host = true ∧ c.hasKey r = true ∧ c.classify r = operation r := by
  unfold classify at h ⊢
  split at h
  · next hk =>
    rw [if_pos hk]
    rw [Bool.and_eq_true] at hk
    exact ⟨hk.1, hk.2, rfl⟩
  · exact absurd rfl h

/-- A request that puts something can only be the completion of a session. -/
theorem operation_put {r : Request} (hm : r.method = "PUT")
    (hroot : ObjectPath.startsWith r.path ObjectPath.resumableRoot = true ∨
      ObjectPath.startsWith r.path ObjectPath.uploadRoot = true) :
    operation r =
      if ObjectPath.startsWith r.path ObjectPath.resumableRoot = true ∨
        r.query.get? "uploadType" = some "resumable" then .sessionCompletion else .passThrough := by
  have hpost : r.method ≠ "POST" := by rw [hm]; decide
  have hget : r.method ≠ "GET" := by rw [hm]; decide
  have hupload : uploadOperation? r = none := if_neg fun h => hpost h.2
  have hresource : resourceOperation? r = none := if_neg fun h => hget h.2
  have hdownload : downloadOperation? r = none := by
    unfold downloadOperation?
    rw [if_neg (fun h => hget h.1), if_neg (fun h => hget h.1)]
  unfold operation
  rw [hupload, hresource, hdownload]
  unfold sessionOperation?
  rw [if_neg hpost, if_pos hm]
  by_cases hr : ObjectPath.startsWith r.path ObjectPath.resumableRoot = true
  · simp [hr]
  · have hu := hroot.resolve_left hr
    by_cases ht : r.query.get? "uploadType" = some "resumable" <;> simp [hr, hu, ht]

end Classifier

namespace Gateway

theorem head?_of_startsWith {path root : String} {c : Char} (hc : root.toList.head? = some c)
    (h : ObjectPath.startsWith path root = true) : path.toList.head? = some c := by
  obtain ⟨t, ht⟩ := List.isPrefixOf_iff_prefix.1 h
  rw [← ht, List.head?_append, hc]
  rfl

theorem startsWith_trans {path root root' : String} {t : List Char}
    (ht : root'.toList = root.toList ++ t) (h : ObjectPath.startsWith path root' = true) :
    ObjectPath.startsWith path root = true := by
  obtain ⟨u, hu⟩ := List.isPrefixOf_iff_prefix.1 h
  exact List.isPrefixOf_iff_prefix.2 ⟨t ++ u, by rw [← hu, ht, List.append_assoc]⟩

/-- A host and a port: nothing that would start a path, a query or a fragment. -/
def IsAuthority (host : String) : Prop :=
  '/' ∉ host.toList ∧ '?' ∉ host.toList ∧ '#' ∉ host.toList

theorem afterScheme_http (s : List Char) : afterScheme ("http://".toList ++ s) = some s := by
  simp [afterScheme, dropStart?]

/-- The first slash behind the scheme ends the authority. -/
theorem dropWhile_authority {host : String} (hh : IsAuthority host) {s : List Char}
    (hs : s.head? = some '/') :
    (host.toList ++ s).dropWhile (fun c => c != '/' && c != '?') = s := by
  obtain ⟨hslash, hmark, -⟩ := hh
  have hall : ∀ c ∈ host.toList, (c != '/' && c != '?') = true := by
    intro c hc
    rw [Bool.and_eq_true, bne_iff_ne, bne_iff_ne]
    exact ⟨fun he => hslash (he ▸ hc), fun he => hmark (he ▸ hc)⟩
  rw [List.dropWhile_append_of_pos hall]
  cases s with
  | nil => rfl
  | cons c s =>
    obtain rfl := Option.some.inj hs
    rfl

theorem takeWhile_location {host target : String} (hh : '#' ∉ host.toList)
    (ht : '#' ∉ target.toList) :
    ("http://" ++ host ++ target).toList.takeWhile (· != '#') =
      "http://".toList ++ (host.toList ++ target.toList) := by
  have hall : ∀ c ∈ "http://".toList ++ (host.toList ++ target.toList), (c != '#') = true := by
    intro c hc
    rw [bne_iff_ne]
    rintro rfl
    rcases List.mem_append.1 hc with hc | hc
    · exact absurd hc (by decide)
    · exact (List.mem_append.1 hc).elim hh ht
  rw [String.toList_append, String.toList_append, List.append_assoc]
  exact List.takeWhile_eq_self_iff.2 hall

/-- A target at the gateway, as a client finds it in a location. -/
theorem pathAndQuery_location {host target : String} (hh : IsAuthority host)
    (ht : target.toList.head? = some '/') (hf : '#' ∉ target.toList) :
    pathAndQuery ("http://" ++ host ++ target) = target := by
  have hhead : ("http://".toList ++ (host.toList ++ target.toList)).head? = some 'h' := by
    rw [List.head?_append]
    rfl
  unfold pathAndQuery
  rw [takeWhile_location hh.2.2 hf]
  split
  · next h =>
    rw [h] at hhead
    exact absurd (Option.some.inj hhead) (by decide)
  · next h =>
    rw [h] at hhead
    exact absurd (Option.some.inj hhead) (by decide)
  · rw [afterScheme_http, Option.getD_some, dropWhile_authority hh ht]
    split
    · next h => rw [← h, String.ofList_toList]
    · next hne =>
      obtain ⟨s, hs⟩ := List.head?_eq_some_iff.1 ht
      exact absurd hs (hne s)

end Gateway

namespace Hooks

theorem locatedUploadId?_of_location {r : Response} {start query : String}
    (h : r.header? .location = some (start ++ "?" ++ query)) (hs : '?' ∉ start.toList) :
    locatedUploadId? r = (Query.parse query).get? "upload_id" := by
  have hcut : cut '?' (start ++ "?" ++ query).toList = some (start.toList, query.toList) := by
    rw [toList_joined, cut_append_cons hs]
  unfold locatedUploadId?
  rw [h]
  dsimp only
  rw [hcut]
  dsimp only
  rw [String.ofList_toList]

theorem completedId_of_query {r : Request} {id : String}
    (h : r.query.get? "upload_id" = some id) (hid : id ≠ "") :
    completedId r =
      (checkContentRange (r.header? .contentRange) r.body.length).map fun _ => id := by
  have hf : (some id).filter (· != "") = some id := by simp [hid]
  unfold completedId
  split
  · next hc => rw [hc]; rfl
  · next hc =>
    rw [hc, h, hf]
    rfl

end Hooks

namespace Gateway

variable {σ : Type} [SessionStore σ]

theorem values_reply {n : HeaderName} (hn : n ∉ connectionHeaders) (r : Response) :
    (reply r).headers.values n = r.headers.values n := by
  have hne : n ≠ .contentLength := by
    rintro rfl
    exact hn (by decide)
  unfold reply
  dsimp only
  split
  · exact Headers.values_eraseAll hn r.headers
  · rw [Headers.values_insert_of_ne hne, Headers.values_eraseAll hn]

/-- Pointing back sets the location to a text that can be read. -/
theorem isVisible_relocated {g : Gateway} {call : Call} {r : Response} {host rest : String}
    (hh : call.headers.get? .host = some host)
    (hl : r.header? .location = some (g.endpoint ++ rest)) :
    Headers.IsVisible ("http://" ++ host ++ rest) := by
  have hrest := (Headers.isVisible_append_iff.1 (Headers.isVisible_of_get? hl)).2
  have hscheme : (utf8 "http://").all Headers.isVisibleByte = true := by decide
  exact (Headers.IsVisible.append hscheme (Headers.isVisible_of_get? hh)).append hrest

theorem values_location_relocate {g : Gateway} {call : Call} {r : Response} {host rest : String}
    (hh : call.headers.get? .host = some host)
    (hl : r.header? .location = some (g.endpoint ++ rest)) :
    (g.relocate call r).headers.values .location = [utf8 ("http://" ++ host ++ rest)] := by
  have hget : r.headers.get? .location = some (g.endpoint ++ rest) := hl
  have hdrop : dropStart? g.endpoint.toList (g.endpoint ++ rest).toList = some rest.toList := by
    rw [String.toList_append]
    exact dropStart?_eq_some_iff.2 rfl
  have horigin : origin? call = some ("http://" ++ host) := by
    rw [origin?, hh]
    rfl
  rw [relocate, horigin]
  dsimp only
  rw [redirectLocation, hget, Option.bind_some, hdrop]
  dsimp only
  rw [String.ofList_toList, Headers.values_set_self (isVisible_relocated hh hl)]

/-- A location under the endpoint is pointed back at the origin by which the client calls. -/
theorem location_reply {g : Gateway} {call : Call} {r : Response} {host rest : String}
    (hh : call.headers.get? .host = some host)
    (hl : r.header? .location = some (g.endpoint ++ rest)) :
    (reply (g.relocate call r)).header? .location = some ("http://" ++ host ++ rest) := by
  unfold Response.header?
  rw [Headers.get?_eq_some_iff, values_reply (by decide), values_location_relocate hh hl]
  exact ⟨isVisible_relocated hh hl, rfl⟩

/-- The call opens a session: the service answers it with a location of the same bucket under the
endpoint, and the session is recorded under the id in that location. -/
structure OpensSession (g : Gateway) (service : Service) (first second : Occasion) (s : State σ)
    (call : Call) (host path query id : String) : Prop where
  enabled : g.engine.disabled = false
  opening : g.engine.operation (g.receive call) = .sessionOpening
  calledAs : call.headers.get? .host = some host
  authority : IsAuthority host
  answered : ∃ response : Response,
    service (g.forward (g.engine.onRequest first s { request := g.receive call }).exchange.request)
      = .ok response ∧
    response.header? .location = some (g.endpoint ++ path ++ "?" ++ query) ∧
    response.isSuccess = true ∧ Hooks.locatedUploadId? response = some id ∧ id ≠ "" ∧
    (g.engine.onResponse second
      (g.engine.onRequest first s { request := g.receive call }).state
      { (g.engine.onRequest first s { request := g.receive call }).exchange with
        response := some response }).result = .ok ()
  bucket : ObjectPath.bucket? path = ObjectPath.bucket? (g.receive call).path
  root : ObjectPath.startsWith path "/upload/storage/v1/b/" = true ∨
    ObjectPath.startsWith path "/resumable/upload/storage/v1/b/" = true
  plainEndpoint : '?' ∉ g.endpoint.toList
  plainPath : '?' ∉ path.toList ∧ '#' ∉ path.toList
  plainQuery : '#' ∉ query.toList

theorem OpensSession.location {g : Gateway} {service : Service} {first second : Occasion}
    {s : State σ} {call : Call} {host path query id : String}
    (h : g.OpensSession service first second s call host path query id) :
    (g.exchange service first second s call).1.header? .location =
      some ("http://" ++ host ++ (path ++ "?" ++ query)) := by
  obtain ⟨response, hservice, hlocation, -, -, -, hok⟩ := h.answered
  have hop : (g.engine.onRequest first s { request := g.receive call }).result = .ok () := by
    rw [Engine.onRequest, h.opening]
    rfl
  have hafter : (g.engine.onResponse second
      (g.engine.onRequest first s { request := g.receive call }).state
      { (g.engine.onRequest first s { request := g.receive call }).exchange with
        response := some response }).exchange.response = some response := by
    rw [Engine.onRequest, h.opening]
    exact congrArg Exchange.response (Hooks.exchange_openingResponse _ _ _ _)
  have hreply : (g.exchange service first second s call).1 =
      reply (g.relocate call response) := by
    unfold exchange
    simp only [hop, hservice]
    unfold complete
    simp only [hok, hafter]
  rw [hreply]
  apply location_reply h.calledAs
  rw [hlocation, String.append_assoc, String.append_assoc, String.append_assoc]

theorem host_receive (g : Gateway) (call : Call) : (g.receive call).host = hostOf g.endpoint := by
  unfold receive Request.ofTarget
  split <;> rfl

/-- What arrives when a client puts the object to the location. -/
theorem OpensSession.receive_put {g : Gateway} {service : Service} {first second : Occasion}
    {s : State σ} {call : Call} {host path query id : String}
    (h : g.OpensSession service first second s call host path query id) (headers : Headers)
    (body : Bytes) :
    g.receive (Call.ofTarget "PUT" ("http://" ++ host ++ (path ++ "?" ++ query)) headers body) =
      { method := "PUT", host := hostOf g.endpoint, path, query := Query.parse query
        receivedQuery := some query, headers, body } := by
  have hslash : path.toList.head? = some '/' :=
    h.root.elim (head?_of_startsWith (by decide)) (head?_of_startsWith (by decide))
  have htarget : pathAndQuery ("http://" ++ host ++ (path ++ "?" ++ query)) =
      path ++ "?" ++ query := by
    apply pathAndQuery_location h.authority
    · rw [String.toList_append, String.toList_append, List.append_assoc, List.head?_append, hslash]
      rfl
    · rw [String.toList_append, String.toList_append, List.mem_append, List.mem_append]
      rintro ((hm | hm) | hm)
      · exact h.plainPath.2 hm
      · exact absurd hm (by decide)
      · exact h.plainQuery hm
  rw [receive, Call.ofTarget, htarget]
  dsimp only
  rw [Request.ofTarget_eq h.plainPath.1]

/-- Every request under the path of the location is classified by its shape. -/
theorem OpensSession.operation_eq {g : Gateway} {service : Service} {first second : Occasion}
    {s : State σ} {call : Call} {host path query id : String}
    (h : g.OpensSession service first second s call host path query id) {r : Request}
    (hhost : r.host = hostOf g.endpoint) (hpath : r.path = path) :
    g.engine.operation r = Classifier.operation r := by
  have hopening := h.opening
  rw [Engine.operation, h.enabled] at hopening
  have hclass : g.engine.classifier.classify (g.receive call) ≠ .passThrough := by
    intro he
    exact absurd (he.symm.trans hopening) (by decide)
  obtain ⟨hintercepts, hkey, -⟩ := Classifier.classify_ne_passThrough hclass
  have hkey' : g.engine.classifier.hasKey r = true := by
    unfold Classifier.hasKey at hkey ⊢
    rw [hpath, h.bucket]
    exact hkey
  rw [host_receive, ← hhost] at hintercepts
  rw [Engine.operation, h.enabled, Classifier.classify, hintercepts, hkey']
  rfl

/-- What the gateway makes of the request that a client sends to the location it was given. -/
theorem operation_of_opensSession {g : Gateway} {service : Service} {first second : Occasion}
    {s : State σ} {call : Call} {host path query id : String}
    (h : g.OpensSession service first second s call host path query id) :
    ∃ location, (g.exchange service first second s call).1.header? .location = some location ∧
      ∀ headers body, ∃ put, put = g.receive (Call.ofTarget "PUT" location headers body) ∧
        g.engine.operation put =
          (if Query.IsResumable path query then .sessionCompletion else .passThrough) ∧
        Hooks.completedId put =
          (Hooks.checkContentRange (put.header? .contentRange) body.length).map fun _ => id := by
  refine ⟨_, h.location, fun headers body => ⟨_, rfl, ?_⟩⟩
  obtain ⟨response, -, hlocation, -, hid, hne, -⟩ := h.answered
  have hroot : ObjectPath.startsWith path ObjectPath.resumableRoot = true ∨
      ObjectPath.startsWith path ObjectPath.uploadRoot = true := by
    refine h.root.symm.imp ?_ ?_
    · exact startsWith_trans (t := ['b', '/']) (by decide)
    · exact startsWith_trans (t := ['b', '/']) (by decide)
  have hquery : (Query.parse query).get? "upload_id" = some id := by
    rw [← hid, Hooks.locatedUploadId?_of_location hlocation]
    rw [String.toList_append, List.mem_append, not_or]
    exact ⟨h.plainEndpoint, h.plainPath.1⟩
  rw [h.receive_put]
  constructor
  · rw [h.operation_eq (by rfl) (by rfl)]
    exact Classifier.operation_put rfl hroot
  · exact Hooks.completedId_of_query hquery hne

/-! ## Two locations

A service may leave the upload type out of a location. -/

def photoService (query : String) : Service := fun _ => .ok
  { status := 200
    headers := ⟨[(.location,
      utf8 ("https://storage.googleapis.com/upload/storage/v1/b/photos/o?" ++ query))]⟩ }

private theorem opensSession_photo {query : String}
    (hq : query = "upload_id=U1" ∨ query = "uploadType=resumable&upload_id=U1") :
    photoGateway.OpensSession (photoService query) quietOccasion quietOccasion freshState
      photoOpening "localhost:9080" "/upload/storage/v1/b/photos/o" query "U1" where
  enabled := rfl
  opening := by decide +kernel
  calledAs := by decide +kernel
  authority := by unfold IsAuthority; decide
  answered := by
    refine ⟨_, rfl, ?_⟩
    rcases hq with rfl | rfl <;> decide +kernel
  bucket := by decide +kernel
  root := by decide +kernel
  plainEndpoint := by decide +kernel
  plainPath := by decide +kernel
  plainQuery := by rcases hq with rfl | rfl <;> decide +kernel

/-- Without the upload type in the location, the object of the session passes through. -/
theorem passThrough_of_bare_location :
    photoGateway.OpensSession (photoService "upload_id=U1") quietOccasion quietOccasion freshState
      photoOpening "localhost:9080" "/upload/storage/v1/b/photos/o" "upload_id=U1" "U1" ∧
    (photoGateway.exchange (photoService "upload_id=U1") quietOccasion quietOccasion freshState
      photoOpening).1.header? .location =
        some "http://localhost:9080/upload/storage/v1/b/photos/o?upload_id=U1" ∧
    photoGateway.engine.operation (photoGateway.receive (Call.ofTarget "PUT"
      "http://localhost:9080/upload/storage/v1/b/photos/o?upload_id=U1" {} (utf8 "meow"))) =
        .passThrough :=
  ⟨opensSession_photo (.inl rfl), by decide +kernel, by decide +kernel⟩

/-- With the upload type in the location, it completes the session. -/
theorem completion_of_typed_location :
    ∃ location, (photoGateway.exchange (photoService "uploadType=resumable&upload_id=U1")
      quietOccasion quietOccasion freshState photoOpening).1.header? .location = some location ∧
      ∀ headers body, ∃ put,
        put = photoGateway.receive (Call.ofTarget "PUT" location headers body) ∧
        photoGateway.engine.operation put = .sessionCompletion ∧
        Hooks.completedId put =
          (Hooks.checkContentRange (put.header? .contentRange) body.length).map fun _ => "U1" := by
  have h := operation_of_opensSession (opensSession_photo (.inr rfl))
  rwa [if_pos (by decide +kernel)] at h

end Gateway
end SealingProxy
