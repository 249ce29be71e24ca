import SealingProxy.Proofs.UploadDownload
import SealingProxy.Proofs.UploadedObjects
/-! # What a client writes into the stash

A client may send headers under the names of the stash. No request half reads them, and every upload
overwrites what its response half reads. A download does so only if it holds a range back: without a
range the response half reads what the client sent. -/

namespace SealingProxy

variable {σ : Type}

theorem Outcome.withoutStash_success {x x' : Exchange} (h : x.withoutStash = x'.withoutStash)
    (s : State σ) : (success x s).withoutStash = (success x' s).withoutStash :=
  congrArg (fun y => success y s) h

theorem Outcome.withoutStash_failure {x x' : Exchange} (h : x.withoutStash = x'.withoutStash)
    (e : ProxyError) (s : State σ) : (failure e x s).withoutStash = (failure e x' s).withoutStash :=
  congrArg (fun y => failure e y s) h

namespace Hooks

variable {c : Context} {o : Occasion} {s : State σ} {x x' : Exchange}

/-! ## Request halves -/

theorem readMultipart_withoutStash (c : Context) (r : Request) :
    readMultipart c r.withoutStash = readMultipart c r := by
  unfold readMultipart
  rw [r.header?_withoutStash (by decide)]
  rfl

theorem completedId_withoutStash (r : Request) : completedId r.withoutStash = completedId r := by
  unfold completedId
  rw [r.header?_withoutStash (by decide)]
  rfl

theorem declaredSession_withoutStash (r : Request) (now : Instant) :
    declaredSession r.withoutStash now = declaredSession r now := by
  unfold declaredSession
  rw [r.header?_withoutStash (by decide)]
  rfl

theorem withoutStash_multipartRequest (c : Context) (o : Occasion) (s : State σ) (x : Exchange) :
    (multipartRequest c o s x.withoutStash).withoutStash =
      (multipartRequest c o s x).withoutStash := by
  have hread : readMultipart c x.withoutStash.request = readMultipart c x.request :=
    readMultipart_withoutStash c x.request
  unfold multipartRequest
  rw [hread]
  split
  · exact Outcome.withoutStash_failure x.withoutStash_withoutStash _ s
  · next body keyId _ =>
    split
    · exact Outcome.withoutStash_failure x.withoutStash_withoutStash _ _
    · next ciphertext _ _ =>
      have hr := withoutStash_sealMultipart x.request x.request.body body
        (Sidecar.ofPlaintext body.payload keyId c.version) ciphertext
      exact Outcome.withoutStash_success (congrArg (fun r => { x with request := r }) hr) _

theorem composeSealed_withoutStash_cases (c : Context) (o : Occasion) (s : State σ) (r : Request)
    (bucket keyId : String) :
    (∃ e t, composeSealed c o s r.withoutStash bucket keyId = (.error e, t) ∧
      composeSealed c o s r bucket keyId = (.error e, t)) ∨
    ∃ q q' t, composeSealed c o s r.withoutStash bucket keyId = (.ok q, t) ∧
      composeSealed c o s r bucket keyId = (.ok q', t) ∧ q.withoutStash = q'.withoutStash := by
  have hquery : r.withoutStash.query = r.query := rfl
  have hbody : r.withoutStash.body = r.body := rfl
  unfold composeSealed
  rw [hquery, hbody]
  split
  · exact .inl ⟨_, _, rfl, rfl⟩
  · next name _ =>
    split
    · exact .inl ⟨_, _, rfl, rfl⟩
    · next ciphertext _ _ =>
      exact .inr ⟨_, _, _, rfl, rfl, withoutStash_composeUpload r r.body o.boundary bucket name
        (Sidecar.ofPlaintext r.body keyId c.version) ciphertext⟩

theorem withoutStash_mediaRequest (c : Context) (o : Occasion) (s : State σ) (x : Exchange) :
    (mediaRequest c o s x.withoutStash).withoutStash = (mediaRequest c o s x).withoutStash := by
  have hpath : x.withoutStash.request.path = x.request.path := rfl
  have hrequest : x.withoutStash.request = x.request.withoutStash := rfl
  unfold mediaRequest
  rw [hpath, hrequest]
  dsimp only
  split
  · exact Outcome.withoutStash_failure x.withoutStash_withoutStash _ s
  · next keyId _ =>
    obtain ⟨e, t, h, h'⟩ | ⟨q, q', t, h, h', hq⟩ := composeSealed_withoutStash_cases c o s
      x.request ((ObjectPath.bucket? x.request.path).getD "") keyId
    · rw [h, h']
      exact Outcome.withoutStash_failure x.withoutStash_withoutStash e t
    · rw [h, h']
      exact Outcome.withoutStash_success (congrArg (fun r => { x with request := r }) hq) t

theorem withoutStash_deferRange (r : Request) :
    (deferRange r.withoutStash).withoutStash = (deferRange r).withoutStash := by
  unfold deferRange
  rw [r.header?_withoutStash (by decide)]
  split
  · exact r.withoutStash_withoutStash
  · unfold Request.withoutStash Request.forwardable
    dsimp only
    rw [Headers.eraseAll_set_of_mem (by decide), Headers.eraseAll_set_of_mem (by decide),
      Headers.eraseAll_erase, Headers.eraseAll_erase, Headers.eraseAll_erase,
      Headers.eraseAll_erase, Headers.eraseAll_eraseAll_self]

theorem withoutStash_openingRequest (c : Context) (o : Occasion) (s : State σ) (x : Exchange) :
    (openingRequest c o s x.withoutStash).withoutStash =
      (openingRequest c o s x).withoutStash := by
  have herase : ((x.request.headers.eraseAll HeaderName.stash).erase .uploadLength).eraseAll
      HeaderName.stash = (x.request.headers.erase .uploadLength).eraseAll HeaderName.stash := by
    rw [Headers.eraseAll_erase, Headers.eraseAll_eraseAll_self, Headers.eraseAll_erase]
  exact congrArg (fun headers => Outcome.success { x with
    request := { x.request with headers } } s) herase

theorem withoutStash_completionRequest [SessionStore σ] (c : Context) (o : Occasion) (s : State σ)
    (x : Exchange) : (completionRequest c o s x.withoutStash).withoutStash =
      (completionRequest c o s x).withoutStash := by
  have hrequest : x.withoutStash.request = x.request.withoutStash := rfl
  have hpath : x.request.withoutStash.path = x.request.path := rfl
  have hexchange := x.withoutStash_withoutStash
  unfold completionRequest
  rw [hrequest, completedId_withoutStash, hpath]
  split
  · exact Outcome.withoutStash_failure hexchange _ s
  split
  · exact Outcome.withoutStash_failure hexchange _ _
  · next session sessions _ =>
    dsimp only
    split
    · exact Outcome.withoutStash_failure hexchange _ _
    · next keyId _ =>
      rw [← withoutStash_addressTo]
      obtain ⟨e, t, h, h'⟩ | ⟨q, q', t, h, h', hq⟩ := composeSealed_withoutStash_cases c o
        { s with sessions } (addressTo session x.request) session.bucket keyId
      · rw [h, h']
        exact Outcome.withoutStash_failure (congrArg (fun r => { x with request := r })
          (addressTo session x.request).withoutStash_withoutStash) e t
      · rw [h, h']
        exact Outcome.withoutStash_success (congrArg (fun r => { x with request := r }) hq) t

end Hooks

namespace Operation
open Hooks

variable [SessionStore σ] {c : Context} {o : Occasion} {s : State σ} {x x' : Exchange}

theorem withoutStash_requestHook (op : Operation) (c : Context) (o : Occasion) (s : State σ)
    (x : Exchange) : (op.requestHook c o s x.withoutStash).withoutStash =
      (op.requestHook c o s x).withoutStash := by
  cases op with
  | multipartUpload => exact withoutStash_multipartRequest c o s x
  | mediaUpload => exact withoutStash_mediaRequest c o s x
  | sessionOpening => exact withoutStash_openingRequest c o s x
  | sessionCompletion => exact withoutStash_completionRequest c o s x
  | download =>
    exact Outcome.withoutStash_success (congrArg (fun r => { x with request := r })
      (withoutStash_deferRange x.request)) s
  | resourceFetch =>
    exact Outcome.withoutStash_success (congrArg (fun r => { x with request := { r with
      query := (x.request.query.erase "fields").set "alt" "json" } })
      x.request.withoutStash_withoutStash) s
  | passThrough => exact Outcome.withoutStash_success x.withoutStash_withoutStash s

theorem object?_withoutStash (op : Operation) (r : Request) :
    op.object? r.withoutStash = op.object? r := by
  cases op with
  | multipartUpload =>
    rw [object?, r.header?_withoutStash (by decide)]
    rfl
  | mediaUpload => rfl
  | sessionOpening => rfl
  | sessionCompletion => rfl
  | download => rfl
  | resourceFetch => rfl
  | passThrough => rfl

end Operation

/-! ## Response halves -/

theorem Exchange.withoutStash_answered {x x' : Exchange} (h : x.withoutStash = x'.withoutStash)
    (response : Option Response) :
    { x with response }.withoutStash = { x' with response }.withoutStash :=
  congrArg (fun y => { y with response }) h

/-- The exchanges look alike from outside, and what the response half of the operation reads of the
stash is the same in both. -/
structure Exchange.SameForResponse (op : Operation) (x x' : Exchange) : Prop where
  seen : x.withoutStash = x'.withoutStash
  facts : op.isUpload = true → Hooks.stashedFacts x.request = Hooks.stashedFacts x'.request
  range : op = .download →
    x.request.header? .stashedRange = x'.request.header? .stashedRange

namespace Hooks

variable {x x' : Exchange}

theorem withoutStash_restoreUpload (hseen : x.withoutStash = x'.withoutStash)
    (hfacts : stashedFacts x.request = stashedFacts x'.request) (c : Context) (o : Occasion)
    (s : State σ) :
    (restoreUpload c o s x).withoutStash = (restoreUpload c o s x').withoutStash := by
  have hresponse : x.response = x'.response := (congrArg Exchange.response hseen :)
  have hrestore (r : Response) : restoreFacts x.request r = restoreFacts x'.request r := by
    rw [restoreFacts, hfacts, restoreFacts]
  unfold restoreUpload
  rw [hresponse]
  split
  · exact Outcome.withoutStash_success hseen s
  split
  · rw [hrestore]
    split
    · exact Outcome.withoutStash_failure hseen _ s
    · exact Outcome.withoutStash_success (Exchange.withoutStash_answered hseen _) s
  · exact Outcome.withoutStash_success hseen s

theorem withoutStash_openingResponse [SessionStore σ] (hseen : x.withoutStash = x'.withoutStash)
    (c : Context) (o : Occasion) (s : State σ) :
    (openingResponse c o s x).withoutStash = (openingResponse c o s x').withoutStash := by
  have hresponse : x.response = x'.response := (congrArg Exchange.response hseen :)
  have hdeclared : declaredSession x.request o.now = declaredSession x'.request o.now := by
    rw [← declaredSession_withoutStash, ← declaredSession_withoutStash x'.request]
    exact congrArg (fun y => declaredSession y.request o.now) hseen
  unfold openingResponse
  rw [hresponse, hdeclared]
  split
  · exact Outcome.withoutStash_success hseen s
  split
  · split
    · exact Outcome.withoutStash_failure hseen _ s
    split
    · exact Outcome.withoutStash_failure hseen _ s
    split
    · exact Outcome.withoutStash_failure hseen _ _
    · exact Outcome.withoutStash_success hseen _
  · exact Outcome.withoutStash_success hseen s

theorem withoutStash_downloadResponse (hseen : x.withoutStash = x'.withoutStash)
    (hrange : x.request.header? .stashedRange = x'.request.header? .stashedRange) (c : Context)
    (o : Occasion) (s : State σ) :
    (downloadResponse c o s x).withoutStash = (downloadResponse c o s x').withoutStash := by
  have hresponse : x.response = x'.response := (congrArg Exchange.response hseen :)
  have hkey (r : Response) : downloadKey? c x.request r = downloadKey? c x'.request r :=
    (congrArg (fun y => downloadKey? c y.request r) hseen :)
  unfold downloadResponse
  rw [hresponse, hrange]
  split
  · exact Outcome.withoutStash_success hseen s
  split
  · rw [hkey]
    split
    · exact Outcome.withoutStash_success hseen s
    split
    · exact Outcome.withoutStash_failure hseen _ _
    split
    · exact Outcome.withoutStash_failure hseen _ _
    · exact Outcome.withoutStash_success (Exchange.withoutStash_answered hseen _) _
  · exact Outcome.withoutStash_success hseen s

theorem withoutStash_resourceResponse (hseen : x.withoutStash = x'.withoutStash) (c : Context)
    (o : Occasion) (s : State σ) :
    (resourceResponse c o s x).withoutStash = (resourceResponse c o s x').withoutStash := by
  have hresponse : x.response = x'.response := (congrArg Exchange.response hseen :)
  unfold resourceResponse
  rw [hresponse]
  split
  · exact Outcome.withoutStash_success hseen s
  split
  · split
    · exact Outcome.withoutStash_failure hseen _ s
    · exact Outcome.withoutStash_success (Exchange.withoutStash_answered hseen _) s
  · exact Outcome.withoutStash_success hseen s

/-- With a range of its own, a download overwrites what the client sent in its place. -/
theorem header?_deferRange_congr {r r' : Request} (hr : r.withoutStash = r'.withoutStash)
    (hnone : r.header? .range = none →
      r.header? .stashedRange = r'.header? .stashedRange) :
    (deferRange r).header? .stashedRange = (deferRange r').header? .stashedRange := by
  have hrange : r.header? .range = r'.header? .range := by
    rw [← r.header?_withoutStash (by decide), hr, r'.header?_withoutStash (by decide)]
  cases h : r.header? .range with
  | none =>
    rw [deferRange_of_none h, deferRange_of_none (hrange ▸ h)]
    exact hnone h
  | some range => rw [header?_deferRange h, header?_deferRange (hrange ▸ h)]

end Hooks

namespace Operation
open Hooks

variable [SessionStore σ] {x x' : Exchange}

theorem withoutStash_responseHook {op : Operation} (hx : x.SameForResponse op x') (c : Context)
    (o : Occasion) (s : State σ) :
    (op.responseHook c o s x).withoutStash = (op.responseHook c o s x').withoutStash := by
  cases op with
  | multipartUpload => exact withoutStash_restoreUpload hx.seen (hx.facts rfl) c o s
  | mediaUpload => exact withoutStash_restoreUpload hx.seen (hx.facts rfl) c o s
  | sessionCompletion => exact withoutStash_restoreUpload hx.seen (hx.facts rfl) c o s
  | sessionOpening => exact withoutStash_openingResponse hx.seen c o s
  | download => exact withoutStash_downloadResponse hx.seen (hx.range rfl) c o s
  | resourceFetch => exact withoutStash_resourceResponse hx.seen c o s
  | passThrough => exact Outcome.withoutStash_success hx.seen s

theorem withoutStash_requestHook_eq (hx : x.withoutStash = x'.withoutStash) (op : Operation)
    (c : Context) (o : Occasion) (s : State σ) :
    (op.requestHook c o s x).withoutStash = (op.requestHook c o s x').withoutStash := by
  rw [← withoutStash_requestHook, hx, withoutStash_requestHook]

/-- What a request half leaves is the same for the response half, whatever the client wrote into the
stash. Only a download without a range leaves it there. -/
theorem sameForResponse_requestHook (hx : x.withoutStash = x'.withoutStash) {op : Operation}
    (hrange : op = .download → x.request.header? .range = none →
      x.request.header? .stashedRange = x'.request.header? .stashedRange)
    {c : Context} {o : Occasion} {s : State σ} (h : (op.requestHook c o s x).result = .ok ()) :
    (op.requestHook c o s x).exchange.SameForResponse op (op.requestHook c o s x').exchange := by
  have hsame := withoutStash_requestHook_eq hx op c o s
  have hrequest : x.request.withoutStash = x'.request.withoutStash :=
    (congrArg Exchange.request hx :)
  constructor
  · exact (congrArg Outcome.exchange hsame :)
  · intro hop
    have h' : (op.requestHook c o s x').result = .ok () :=
      ((congrArg Outcome.result hsame).symm.trans h :)
    -- Both requests hold the same object, so that both hooks stash the same facts of it.
    obtain ⟨content, hcontent, hstashes⟩ := exists_stashes_of_requestHook_ok hop h
    obtain ⟨content', hcontent', hstashes'⟩ := exists_stashes_of_requestHook_ok hop h'
    rw [← object?_withoutStash, hrequest, object?_withoutStash, hcontent'] at hcontent
    obtain rfl := Option.some.inj hcontent
    exact hstashes.stashedFacts_eq hstashes'
  · rintro rfl
    exact header?_deferRange_congr hrequest (hrange rfl)

end Operation

namespace Engine

variable [SessionStore σ] {e : Engine} {x x' : Exchange}

/-- Two exchanges that differ only in what the client wrote into the stash get the same operation,
have the same result and are forwarded and answered alike. The one exception is a download without
a range: its two requests have to agree on the range in the stash. -/
theorem withoutStash_halves_eq (hx : x.withoutStash = x'.withoutStash)
    (hrange : e.operation x.request = .download → x.request.header? .range = none →
      x.request.header? .stashedRange = x'.request.header? .stashedRange)
    (first : Occasion) (s : State σ) :
    e.operation x.request = e.operation x'.request ∧
    (e.onRequest first s x).withoutStash = (e.onRequest first s x').withoutStash ∧
    ((e.onRequest first s x).result = .ok () →
      ∀ (second : Occasion) (s' : State σ) (response : Response),
        (e.onResponse second s' { (e.onRequest first s x).exchange with
          response := some response }).withoutStash =
        (e.onResponse second s' { (e.onRequest first s x').exchange with
          response := some response }).withoutStash) := by
  have hop : e.operation x.request = e.operation x'.request :=
    (congrArg (fun y => e.operation y.request) hx :)
  have hassigned : { x with operation := some (e.operation x.request) }.withoutStash =
      { x' with operation := some (e.operation x.request) }.withoutStash :=
    congrArg (fun y => { y with operation := some (e.operation x.request) }) hx
  refine ⟨hop, ?_, ?_⟩
  · unfold onRequest
    rw [← hop]
    exact Operation.withoutStash_requestHook_eq hassigned _ e.context first s
  · intro hok second s' response
    unfold onRequest at hok ⊢
    rw [← hop]
    have hsame := Operation.sameForResponse_requestHook hassigned hrange hok
    have hleft := Operation.operation_requestHook (e.operation x.request) e.context first s
      { x with operation := some (e.operation x.request) }
    have hright := Operation.operation_requestHook (e.operation x.request) e.context first s
      { x' with operation := some (e.operation x.request) }
    -- The hooks left the operation in place, by which the response halves go.
    rw [onResponse_answered hleft, onResponse_answered hright]
    exact Operation.withoutStash_responseHook
      ⟨Exchange.withoutStash_answered hsame.seen (some response), hsame.facts, hsame.range⟩
      e.context second s'

/-! ## A range that the client planted

Both pairs of downloads differ in the stash alone. In the first the client also asks for a range, in
the second it asks for none. -/

theorem response_eq_of_planted_range :
    (Gateway.photoGateway.engine.onResponse Gateway.quietOccasion Gateway.freshState
      { (Gateway.photoGateway.engine.onRequest Gateway.quietOccasion Gateway.freshState
          (catDownload ⟨[(.range, utf8 "bytes=1-2")]⟩)).exchange with
        response := some (storedResponse []) }).withoutStash =
    (Gateway.photoGateway.engine.onResponse Gateway.quietOccasion Gateway.freshState
      { (Gateway.photoGateway.engine.onRequest Gateway.quietOccasion Gateway.freshState
          (catDownload ⟨[(.range, utf8 "bytes=1-2"),
            (.stashedRange, utf8 "bytes=0-1")]⟩)).exchange with
        response := some (storedResponse []) }).withoutStash := by
  have hx : (catDownload ⟨[(.range, utf8 "bytes=1-2")]⟩).withoutStash =
      (catDownload ⟨[(.range, utf8 "bytes=1-2"),
        (.stashedRange, utf8 "bytes=0-1")]⟩).withoutStash := by decide +kernel
  have hrange : (catDownload ⟨[(.range, utf8 "bytes=1-2")]⟩).request.header? .range ≠ none := by
    decide +kernel
  have hop : Gateway.photoGateway.engine.operation
      (catDownload ⟨[(.range, utf8 "bytes=1-2")]⟩).request = .download := by decide +kernel
  obtain ⟨-, -, hanswered⟩ := withoutStash_halves_eq hx (fun _ h => absurd h hrange)
    Gateway.quietOccasion Gateway.freshState
  exact hanswered (by rw [onRequest_download hop]; rfl) _ _ _

theorem fetch_ne_of_planted_range :
    (catDownload {}).withoutStash =
        (catDownload ⟨[(.stashedRange, utf8 "bytes=0-1")]⟩).withoutStash ∧
      ∃ sealed,
        Gateway.photoGateway.engine.fetch Gateway.quietOccasion Gateway.quietOccasion
          Gateway.freshState Gateway.freshState (catDownload {})
          (storedResponse sealed) = some (utf8 "meow") ∧
        Gateway.photoGateway.engine.fetch Gateway.quietOccasion Gateway.quietOccasion
          Gateway.freshState Gateway.freshState
          (catDownload ⟨[(.stashedRange, utf8 "bytes=0-1")]⟩)
          (storedResponse sealed) = some (utf8 "me") := by
  refine ⟨by decide +kernel, ?_⟩
  obtain ⟨sealed, hsealed⟩ := Envelope.exists_encrypt_derived .zero "k" isSized_sealingOccasion
    (utf8 "meow")
  have hopen := Envelope.decrypt_encrypt_derived isSized_sealingOccasion hsealed
  have hfetch {x : Exchange} (hop : Gateway.photoGateway.engine.operation x.request = .download)
      {delivered : Response} (hdeliver : Hooks.deliver
        ((Hooks.deferRange x.request).header? .stashedRange) (utf8 "meow")
        (storedResponse sealed) = .ok delivered) :=
    fetch_of_decrypt reaches_freshState.holds hop rfl (by decide) (header?_storedResponse sealed)
      handle_photoGateway hopen hdeliver Gateway.quietOccasion Gateway.quietOccasion
      Gateway.freshState
  have hplain : (Hooks.deferRange (catDownload {}).request).header? .stashedRange = none := by
    decide +kernel
  have hplanted : (Hooks.deferRange (catDownload
      ⟨[(.stashedRange, utf8 "bytes=0-1")]⟩).request).header? .stashedRange =
        some "bytes=0-1" := by decide +kernel
  have hresolved : ByteRange.parse? "bytes=0-1" (utf8 "meow").length = some ⟨0, 2⟩ := by
    decide +kernel
  refine ⟨sealed, ?_, ?_⟩
  · obtain ⟨delivered, hdeliver, hbody⟩ := Hooks.deliver_whole (utf8 "meow") (storedResponse sealed)
    rw [hfetch (by decide +kernel) (hplain ▸ hdeliver), hbody]
  · obtain ⟨delivered, hdeliver, hbody⟩ := Hooks.deliver_range hresolved (storedResponse sealed)
    rw [hfetch (by decide +kernel) (hplanted ▸ hdeliver), hbody]
    rfl

end Engine
end SealingProxy
