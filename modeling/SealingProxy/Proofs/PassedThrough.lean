import SealingProxy.Proofs.SessionLocation
/-! # What passes through

A call that is not handled reaches the service as the client sent it, but for the headers of a single
connection, the codings it accepts and the names of the stash. The response comes back as the service
gave it, but for the headers of a single connection, the length of the body and a location under
the endpoint. So does every response that reports a failure, whatever the call asked for: no hook
touches it. -/

namespace SealingProxy

namespace Operation

/-- No hook touches a response that reports a failure. -/
theorem responseHook_of_not_isSuccess {σ : Type} [SessionStore σ] {x : Exchange}
    {response : Response} (hx : x.response = some response) (hfail : response.isSuccess = false)
    (op : Operation) (c : Context) (o : Occasion) (s : State σ) :
    op.responseHook c o s x = .success x s := by
  have hskip {α : Type} (a b : α) : (if response.isSuccess = true then a else b) = b :=
    if_neg (by rw [hfail]; exact Bool.false_ne_true)
  cases op with
  | multipartUpload | mediaUpload | sessionCompletion =>
    change Hooks.restoreUpload c o s x = _
    unfold Hooks.restoreUpload
    rw [hx]
    exact hskip _ _
  | sessionOpening =>
    change Hooks.openingResponse c o s x = _
    unfold Hooks.openingResponse
    rw [hx]
    exact hskip _ _
  | download =>
    change Hooks.downloadResponse c o s x = _
    unfold Hooks.downloadResponse
    rw [hx]
    exact hskip _ _
  | resourceFetch =>
    change Hooks.resourceResponse c o s x = _
    unfold Hooks.resourceResponse
    rw [hx]
    exact hskip _ _
  | passThrough => rfl

end Operation

namespace Gateway
open Text

/-! ## To the service -/

/-- The headers that are not forwarded: those of a single connection, the codings that the client
accepts, and the stash. -/
def withheld : List HeaderName :=
  connectionHeaders ++ .acceptEncoding :: HeaderName.stash

/-- What is sent is the call, without the headers that are withheld. -/
structure Relays (g : Gateway) (call : Call) (sent : Forwarded) : Prop where
  method : sent.method = call.method
  url : sent.url = g.endpoint ++ call.target
  headers : sent.headers = call.headers.eraseAll withheld
  body : sent.body = call.body

theorem method_receive (g : Gateway) (call : Call) : (g.receive call).method = call.method := by
  unfold receive Request.ofTarget
  split <;> rfl

theorem target_receive (g : Gateway) (call : Call) : (g.receive call).target = call.target := by
  rw [← Request.target_ofTarget call.method (hostOf g.endpoint) call.target]
  rfl

theorem relays_forward (g : Gateway) (call : Call) : g.Relays call (g.forward (g.receive call)) where
  method := g.method_receive call
  url := congrArg (g.endpoint ++ ·) (g.target_receive call)
  headers := by
    have hheaders : (g.receive call).headers = call.headers := rfl
    unfold forward Request.forwardable withheld
    dsimp only
    rw [hheaders, Headers.eraseAll_append_names, Headers.eraseAll_cons, Headers.eraseAll_erase,
      Headers.eraseAll_comm]
  body := rfl

/-! ## To the client -/

/-- What the client gets is the response. The headers of a single connection are left out, of which
the length is stated anew where there is a body, and a location under the endpoint is pointed back
at the gateway, if the call names it. -/
structure Answers (g : Gateway) (call : Call) (response reply : Response) : Prop where
  status : reply.status = response.status
  body : reply.body = response.body
  length : reply.headers.values .contentLength =
    if isBodiless response.status then [] else [utf8 (Decimal.text response.body.length)]
  connection : ∀ n ∈ connectionHeaders, n ≠ .contentLength → reply.headers.values n = []
  others : ∀ n, n ∉ connectionHeaders → n ≠ .location →
    reply.headers.values n = response.headers.values n
  moved : ∀ host rest, call.headers.get? .host = some host →
    response.header? .location = some (g.endpoint ++ rest) →
      reply.headers.values .location = [utf8 ("http://" ++ host ++ rest)]
  kept : (∀ host rest, call.headers.get? .host = some host →
    response.header? .location ≠ some (g.endpoint ++ rest)) →
      reply.headers.values .location = response.headers.values .location

variable {g : Gateway} {call : Call} {r : Response}

theorem values_reply_of_mem {n : HeaderName} (hn : n ∈ connectionHeaders)
    (hne : n ≠ .contentLength) (r : Response) : (reply r).headers.values n = [] := by
  unfold reply
  dsimp only
  split
  · exact Headers.values_eraseAll_of_mem hn r.headers
  · rw [Headers.values_insert_of_ne hne, Headers.values_eraseAll_of_mem hn]

theorem values_reply_contentLength (r : Response) : (reply r).headers.values .contentLength =
    if isBodiless r.status then [] else [utf8 (Decimal.text r.body.length)] := by
  unfold reply
  dsimp only
  split
  · exact Headers.values_eraseAll_of_mem (by decide) r.headers
  · exact Headers.values_insert_self _ _ _

/-- Pointing back changes no header but the location. -/
theorem values_relocate_of_ne {n : HeaderName} (hn : n ≠ .location) (g : Gateway) (call : Call)
    (r : Response) : (g.relocate call r).headers.values n = r.headers.values n := by
  unfold relocate redirectLocation
  split
  · rfl
  · dsimp only
    split
    · rfl
    · exact Headers.values_set_of_ne hn _ _

/-- A location elsewhere stays, and so does every location if the call does not name the gateway. -/
theorem relocate_eq_self (h : ∀ host rest, call.headers.get? .host = some host →
    r.header? .location ≠ some (g.endpoint ++ rest)) : g.relocate call r = r := by
  unfold relocate
  split
  · rfl
  · next origin horigin =>
    obtain ⟨host, hhost, -⟩ := Option.map_eq_some_iff.1 horigin
    have hnone : ((r.headers.get? .location).bind fun l =>
        dropStart? g.endpoint.toList l.toList) = none := by
      rw [Option.bind_eq_none_iff]
      intro location hlocation
      by_contra hdrop
      obtain ⟨rest, hrest⟩ := Option.ne_none_iff_exists'.1 hdrop
      have heq : location = g.endpoint ++ String.ofList rest := by
        rw [← String.toList_inj, String.toList_append, String.toList_ofList]
        exact dropStart?_eq_some_iff.1 hrest
      exact h host (String.ofList rest) hhost (heq ▸ hlocation)
    unfold redirectLocation
    rw [hnone]

theorem answers_reply (g : Gateway) (call : Call) (r : Response) :
    g.Answers call r (reply (g.relocate call r)) where
  status := by
    unfold relocate
    split <;> rfl
  body := by
    unfold relocate
    split <;> rfl
  length := by
    rw [values_reply_contentLength]
    unfold relocate
    split <;> rfl
  connection := fun _ hn hne => values_reply_of_mem hn hne _
  others := fun n hn hne => by rw [values_reply hn, values_relocate_of_ne hne]
  moved := fun _ _ hh hl => by rw [values_reply (by decide), values_location_relocate hh hl]
  kept := fun h => by rw [values_reply (by decide), relocate_eq_self h]

/-! ## The whole call -/

variable {σ : Type} [SessionStore σ]

/-- What the service is sent for a call, once the request half is done. -/
def sent (g : Gateway) (first : Occasion) (s : State σ) (call : Call) : Forwarded :=
  g.forward (g.engine.onRequest first s { request := g.receive call }).exchange.request

theorem onRequest_passThrough {e : Engine} {r : Request} (h : e.operation r = .passThrough)
    (o : Occasion) (s : State σ) : e.onRequest o s { request := r } =
      .success { request := r, operation := some .passThrough } s := by
  unfold Engine.onRequest
  dsimp only
  rw [h]
  rfl

/-- A response that the hook leaves alone is passed on. -/
theorem complete_of_onResponse {x : Exchange} {s : State σ} {second : Occasion}
    {response : Response} (h : g.engine.onResponse second s { x with response := some response } =
      .success { x with response := some response } s) :
    g.complete second call s x (.ok response) = (reply (g.relocate call response), s) := by
  unfold complete
  dsimp only
  rw [h]
  rfl

/-- A call that is not handled is relayed, and what the service answers is passed on. Every call is
passed on the response that reports a failure, and nothing more is changed for it. -/
theorem exchange_transparent (g : Gateway) (call : Call) (first second : Occasion) (s : State σ) :
    (g.engine.disabled = true ∨ g.engine.classifier.classify (g.receive call) = .passThrough →
      g.Relays call (g.sent first s call) ∧
      ∀ service : Service,
        (∀ reason, service (g.sent first s call) = .error reason →
          g.exchange service first second s call = (failureReply (.badGateway reason), s)) ∧
        ∀ response, service (g.sent first s call) = .ok response →
          ∃ reply, g.exchange service first second s call = (reply, s) ∧
            g.Answers call response reply) ∧
    ((g.engine.onRequest first s { request := g.receive call }).result = .ok () →
      ∀ (service : Service) (response : Response),
        service (g.sent first s call) = .ok response → response.isSuccess = false →
          ∃ reply, g.exchange service first second s call =
              (reply, (g.engine.onRequest first s { request := g.receive call }).state) ∧
            g.Answers call response reply) := by
  constructor
  · intro h
    have hop : g.engine.operation (g.receive call) = .passThrough := by
      unfold Engine.operation
      split
      · rfl
      · next henabled => exact h.resolve_left henabled
    have hrequest := onRequest_passThrough hop first s
    have hsent : g.sent first s call = g.forward (g.receive call) := by
      unfold sent
      rw [hrequest]
      rfl
    refine ⟨hsent ▸ g.relays_forward call, fun service => ⟨fun reason hreason => ?_,
      fun response hresponse => ⟨_, ?_, g.answers_reply call response⟩⟩⟩
    · unfold exchange
      rw [hrequest]
      rw [hsent] at hreason
      dsimp only [Outcome.success]
      rw [hreason]
      rfl
    · unfold exchange
      rw [hrequest]
      rw [hsent] at hresponse
      dsimp only [Outcome.success]
      rw [hresponse]
      exact complete_of_onResponse rfl
  · intro hok service response hresponse hfail
    refine ⟨_, ?_, g.answers_reply call response⟩
    unfold exchange
    dsimp only
    rw [hok]
    dsimp only
    unfold sent at hresponse
    rw [hresponse]
    exact complete_of_onResponse (Operation.responseHook_of_not_isSuccess rfl hfail _ _ _ _)

def photoListing : Call where
  method := "GET"
  target := "/storage/v1/b/photos/o?prefix=a+b&prefix=%61"
  headers := ⟨[(.host, utf8 "localhost:9080"), (.acceptEncoding, utf8 "gzip"),
    (⟨"x-note"⟩, utf8 "a"), (.stashedSize, utf8 "1"), (⟨"x-note"⟩, [233])]⟩

def photoListed : Response where
  status := 200
  headers := ⟨[(.location, utf8 "https://storage.googleapis.com/next"),
    (.contentLength, utf8 "99")]⟩
  body := utf8 "[]"

def photoDownload : Call where
  method := "GET"
  target := "/download/storage/v1/b/photos/o/cat.jpg?alt=media"

theorem exchange_transparent_photo :
    (∃ sent : Forwarded, photoGateway.Relays photoListing sent ∧
      sent.headers = ⟨[(⟨"x-note"⟩, utf8 "a"), (⟨"x-note"⟩, [233])]⟩) ∧
    (∃ reply, photoGateway.exchange (fun _ => .ok photoListed) quietOccasion quietOccasion
        freshState photoListing = (reply, freshState) ∧
      reply.headers.values .location = [utf8 "http://localhost:9080/next"] ∧
      reply.headers.values .contentLength = [utf8 "2"]) ∧
    photoGateway.engine.operation (photoGateway.receive photoDownload) = .download ∧
    ∃ reply, photoGateway.exchange (fun _ => .ok { status := 404, body := utf8 "none" })
        quietOccasion quietOccasion freshState photoDownload = (reply, freshState) ∧
      photoGateway.Answers photoDownload { status := 404, body := utf8 "none" } reply := by
  have hclassify : photoGateway.engine.classifier.classify (photoGateway.receive photoListing) =
      .passThrough := by decide +kernel
  obtain ⟨hrelays, hservice⟩ := (exchange_transparent photoGateway photoListing quietOccasion
    quietOccasion freshState).1 (.inr hclassify)
  obtain ⟨reply, hreply, hanswers⟩ := (hservice fun _ => .ok photoListed).2 photoListed rfl
  refine ⟨⟨_, hrelays, ?_⟩, ⟨reply, hreply, ?_, ?_⟩, by decide +kernel, ?_⟩
  · rw [hrelays.headers]
    decide +kernel
  · exact hanswers.moved "localhost:9080" "/next" (by decide +kernel) (by decide +kernel)
  · rw [hanswers.length]
    decide +kernel
  · have hop : photoGateway.engine.operation (photoGateway.receive photoDownload) = .download := by
      decide +kernel
    have hrequest (s : State MemoryStore) : photoGateway.engine.onRequest quietOccasion s
        { request := photoGateway.receive photoDownload } = Hooks.downloadRequest
          photoGateway.engine.context quietOccasion s
          { request := photoGateway.receive photoDownload, operation := some .download } := by
      unfold Engine.onRequest
      dsimp only
      rw [hop]
      rfl
    have hok : (photoGateway.engine.onRequest quietOccasion freshState
        { request := photoGateway.receive photoDownload }).result = .ok () := by
      rw [hrequest]
      rfl
    obtain ⟨reply, hreply, hanswers⟩ := (exchange_transparent photoGateway photoDownload
      quietOccasion quietOccasion freshState).2 hok
        (fun _ => .ok { status := 404, body := utf8 "none" }) _ rfl (by decide)
    rw [hrequest] at hreply
    exact ⟨reply, hreply, hanswers⟩

end Gateway
end SealingProxy
