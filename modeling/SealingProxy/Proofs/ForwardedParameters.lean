import SealingProxy.Proofs.EditedTargets
import SealingProxy.Proofs.ObjectPaths
import SealingProxy.Proofs.UploadDownload
/-! # The parameters that are forwarded

Each operation decides a few parameters itself and leaves all others alone: their values, their
order and their repetitions. An upload of a bare object decides the four that say what is uploaded
and how, a fetch of a resource the two that say which part of it is wanted, the other operations
none; these forward the target that they received. What is forwarded is what the service reads. -/

namespace SealingProxy

namespace Query

/-- The parameters ask for a whole resource as text, and else for the same as others. -/
structure IsWholeFetchOf (sent q : Query) : Prop where
  others : sent.without ["alt", "fields"] = q.without ["alt", "fields"]
  fields : sent.get? "fields" = none
  alt : sent.params.filter (·.1 == "alt") = [("alt", "json")]
  place : ∀ front old back, q.params = front ++ ("alt", old) :: back →
    (∀ p ∈ front, p.1 ≠ "alt") →
      sent.params = (without ⟨front⟩ ["fields"]).params ++
        ("alt", "json") :: (without ⟨back⟩ ["alt", "fields"]).params
  last : (∀ p ∈ q.params, p.1 ≠ "alt") →
    sent.params = (q.without ["fields"]).params ++ [("alt", "json")]

theorem isWholeFetchOf_set_erase (q : Query) :
    ((q.erase "fields").set "alt" "json").IsWholeFetchOf q where
  others := by
    have hfields : ["fields"] ⊆ ["alt", "fields"] := by simp
    rw [without_set_of_mem (by decide), erase_eq_without, without_without_of_subset hfields]
  fields := by
    rw [get?_set_of_ne (by decide), erase_eq_without, get?_without_of_mem (by decide)]
  alt := filter_set_self _ _ _
  place := by
    rintro front old back hq hfront
    have herase : q.erase "fields" = ⟨(without ⟨front⟩ ["fields"]).params ++
        ("alt", old) :: (without ⟨back⟩ ["fields"]).params⟩ := by
      obtain ⟨params⟩ := q
      obtain rfl : params = _ := hq
      rw [erase_eq_without, without_append, without_cons_of_not_mem (by decide)]
    have hkept : ∀ p ∈ (without ⟨front⟩ ["fields"]).params, p.1 ≠ "alt" :=
      fun p hp => hfront p ((List.mem_filter.1 hp).1)
    have hback : (without ⟨back⟩ ["fields"]).params.filter (·.1 != "alt") =
        (without ⟨back⟩ ["alt", "fields"]).params := by
      simp only [without, List.filter_filter]
      congr 1
      funext p
      by_cases ha : p.1 = "alt" <;> simp [ha]
    rw [herase, set_of_first hkept, hback]
  last := by
    intro hnone
    have hkept : ∀ p ∈ (q.without ["fields"]).params, p.1 ≠ "alt" :=
      fun p hp => hnone p ((List.mem_filter.1 hp).1)
    rw [erase_eq_without, set_of_absent hkept]

end Query

/-- The parameters that the service reads in the target of a request. -/
def Request.forwardedQuery (r : Request) : Query :=
  (Request.ofTarget r.method r.host r.target).query

theorem Request.forwardedQuery_eq {r : Request} (hp : '?' ∉ r.path.toList) :
    r.forwardedQuery = r.query :=
  (Request.ofTarget_target hp r.method r.host).2

namespace Hooks

/-- Of the parameters of a bare upload only those pass that do not say what is uploaded. -/
theorem params_composeUpload (r : Request) (boundary bucket name : String) (sidecar : Sidecar)
    (ciphertext : Bytes) :
    (composeUpload r boundary bucket name sidecar ciphertext).query.params =
      (r.query.without uploadParameters).params ++
        [("uploadType", "multipart"), ("alt", "json")] := by
  have htype : ∀ p ∈ (r.query.without uploadParameters).params, p.1 ≠ "uploadType" :=
    Query.ne_of_mem_without (by decide) r.query
  have halt : ∀ p ∈ (r.query.without uploadParameters).params ++ [("uploadType", "multipart")],
      p.1 ≠ "alt" := by
    intro p hp
    rcases List.mem_append.1 hp with hp | hp
    · exact Query.ne_of_mem_without (by decide) r.query p hp
    · obtain rfl := List.mem_singleton.1 hp
      decide
  have hquery : (composeUpload r boundary bucket name sidecar ciphertext).query =
      ((r.query.without uploadParameters).set "uploadType" "multipart").set "alt" "json" := rfl
  rw [hquery, Query.set_of_absent htype, Query.set_of_absent halt, List.append_assoc]
  rfl

theorem target_sealMultipart (r : Request) (m : MultipartBody) (sidecar : Sidecar)
    (ciphertext : Bytes) : (sealMultipart r m sidecar ciphertext).target = r.target :=
  Request.target_congr rfl rfl rfl

theorem target_deferRange (r : Request) : (deferRange r).target = r.target := by
  unfold deferRange
  split
  · rfl
  · exact Request.target_congr rfl rfl rfl

variable {σ : Type} {c : Context} {o : Occasion} {s : State σ} {r sent : Request}

/-- A composed upload goes to the path of the request that it was composed for. -/
theorem forwardedQuery_of_composeSealed_ok {bucket keyId : String} (hp : '?' ∉ r.path.toList)
    (h : (composeSealed c o s r bucket keyId).1 = .ok sent) :
    sent.forwardedQuery.params = (r.query.without uploadParameters).params ++
      [("uploadType", "multipart"), ("alt", "json")] := by
  obtain ⟨name, ciphertext, -, -, hsent⟩ := of_composeSealed_ok h
  have hpath : sent.path = r.path := hsent ▸ rfl
  rw [Request.forwardedQuery_eq (hpath ▸ hp), hsent, params_composeUpload]

end Hooks

namespace Operation
open Hooks

variable {σ : Type} [SessionStore σ] {op : Operation} {c : Context} {o : Occasion} {s : State σ}
variable {x : Exchange} {method host target : String} {headers : Headers} {body : Bytes}

/-- What is forwarded of the parameters of a request, when its hook succeeds. -/
theorem parameters_of_requestHook_ok
    (hx : x.request = { Request.ofTarget method host target with headers, body })
    (h : (op.requestHook c o s x).result = .ok ()) :
    (op ∈ [multipartUpload, sessionOpening, download, passThrough] →
      (op.requestHook c o s x).exchange.request.target = target) ∧
    (op = resourceFetch →
      (op.requestHook c o s x).exchange.request.forwardedQuery.IsWholeFetchOf x.request.query) ∧
    (op ∈ [mediaUpload, sessionCompletion] →
      (op.requestHook c o s x).exchange.request.forwardedQuery.params =
        (x.request.query.without ["name", "uploadType", "alt", "upload_id"]).params ++
          [("uploadType", "multipart"), ("alt", "json")]) := by
  have htarget : x.request.target = target := by
    rw [← Request.target_ofTarget method host target, hx]
    exact Request.target_congr rfl rfl rfl
  have hp : '?' ∉ x.request.path.toList := by
    rw [hx]
    exact Request.not_mem_path_ofTarget method host target
  cases op with
  | multipartUpload =>
    obtain ⟨m, keyId, ciphertext, -, -, hr⟩ := of_multipartRequest_ok h
    refine ⟨fun _ => ?_, by simp, by simp⟩
    rw [requestHook, hr, target_sealMultipart]
    exact htarget
  | sessionOpening => exact ⟨fun _ => htarget, by simp, by simp⟩
  | download => exact ⟨fun _ => (target_deferRange x.request).trans htarget, by simp, by simp⟩
  | passThrough => exact ⟨fun _ => htarget, by simp, by simp⟩
  | resourceFetch =>
    refine ⟨by simp, fun _ => ?_, by simp⟩
    have hpath : '?' ∉ (resourceRequest c o s x).exchange.request.path.toList := hp
    rw [requestHook, Request.forwardedQuery_eq hpath]
    exact Query.isWholeFetchOf_set_erase x.request.query
  | mediaUpload =>
    obtain ⟨keyId, sent, -, hcompose, hr⟩ := of_mediaRequest_ok h
    refine ⟨by simp, by simp, fun _ => ?_⟩
    rw [requestHook, hr]
    exact forwardedQuery_of_composeSealed_ok hp hcompose
  | sessionCompletion =>
    obtain ⟨id, session, sessions, keyId, sent, -, -, -, hcompose, hr⟩ := of_completionRequest_ok h
    refine ⟨by simp, by simp, fun _ => ?_⟩
    have haddressed : '?' ∉ (addressTo session x.request).path.toList :=
      ObjectPath.not_mem_uploadPath session.bucket
    rw [requestHook, hr, forwardedQuery_of_composeSealed_ok haddressed hcompose, without_addressTo]
    rfl

/-- The target of an upload under a condition that is stated twice. -/
def cautiousTarget : String :=
  "/upload/storage/v1/b/photos/o?ifGenerationMatch=0&uploadType=media&name=a&ifGenerationMatch=0"

def cautiousUpload : Exchange where
  request := { Request.ofTarget "POST" "storage.googleapis.com" cautiousTarget with
    headers := {}
    body := utf8 "meow" }

def partialFetch : Exchange where
  request := { Request.ofTarget "GET" "storage.googleapis.com"
      "/storage/v1/b/photos/o/cat.jpg?generation=7&fields=size&alt=json&x=1&alt=media&x=1" with
    headers := {}
    body := [] }

theorem parameters_of_requestHook_ok_cautious :
    (mediaUpload.requestHook Gateway.photoGateway.engine.context Engine.sealingOccasion
        Gateway.freshState cautiousUpload).exchange.request.forwardedQuery.params =
      [("ifGenerationMatch", "0"), ("ifGenerationMatch", "0"), ("uploadType", "multipart"),
        ("alt", "json")] ∧
    (resourceFetch.requestHook Gateway.photoGateway.engine.context Engine.sealingOccasion
        Gateway.freshState partialFetch).exchange.request.forwardedQuery.params =
      [("generation", "7"), ("alt", "json"), ("x", "1"), ("x", "1")] := by
  constructor
  · obtain ⟨ciphertext, hsealed⟩ := Envelope.exists_encrypt_derived .zero "k"
      Engine.isSized_sealingOccasion (utf8 "meow")
    have hname : cautiousUpload.request.query.get? "name" = some "a" := by decide +kernel
    have hok : (mediaUpload.requestHook Gateway.photoGateway.engine.context Engine.sealingOccasion
        Gateway.freshState cautiousUpload).result = .ok () :=
      mediaRequest_eq_ok (by decide +kernel) hname (by decide)
        (State.encrypt_eq_ok Engine.reaches_freshState.holds Engine.handle_photoGateway hsealed)
    rw [(parameters_of_requestHook_ok rfl hok).2.2 (by decide)]
    decide +kernel
  · have hok : (resourceFetch.requestHook Gateway.photoGateway.engine.context
        Engine.sealingOccasion Gateway.freshState partialFetch).result = .ok () := rfl
    have hfetch := (parameters_of_requestHook_ok rfl hok).2.1 rfl
    have hquery : partialFetch.request.query.params = [("generation", "7"), ("fields", "size")] ++
        ("alt", "json") :: [("x", "1"), ("alt", "media"), ("x", "1")] := by decide +kernel
    rw [hfetch.place _ _ _ hquery (by decide)]
    decide +kernel

end Operation
end SealingProxy
