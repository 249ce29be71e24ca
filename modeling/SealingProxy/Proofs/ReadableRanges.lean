import SealingProxy.Proofs.SessionRuns
import SealingProxy.Proofs.UploadDownload
/-! # Ranges that can be read

A download never asks for a part of the sealed object, and a completion never carries a part of the
object: the hooks see to it by the first value of one header. They read this value as text, and a
value with an octet that is not visible ASCII counts as absent for them, although it is relayed. So
both hold as long as the first value can be read. -/

namespace SealingProxy

namespace Headers
open Text

variable {h : Headers} {n : HeaderName}

/-- The first value of the name, if there is one, can be read as text. -/
def IsReadable (h : Headers) (n : HeaderName) : Prop :=
  ∀ v ∈ (h.values n).head?, v.all isVisibleByte = true

theorem get?_of_isReadable (hr : h.IsReadable n) : h.get? n = (h.values n).head?.map ofAscii := by
  unfold get?
  cases hv : h.values n with
  | nil => rfl
  | cons v vs =>
    have hvisible : v.all isVisibleByte = true := hr v (by rw [hv]; rfl)
    dsimp only
    rw [if_pos hvisible]
    rfl

theorem get?_of_not_isReadable (hr : ¬h.IsReadable n) : h.get? n = none := by
  unfold get?
  cases hv : h.values n with
  | nil => rfl
  | cons v vs =>
    have hhidden : ¬v.all isVisibleByte = true := by
      intro hvisible
      refine hr fun w hw => ?_
      rw [hv] at hw
      rwa [← Option.some.inj hw]
    dsimp only
    rw [if_neg hhidden]

end Headers

namespace Hooks
open Text

variable {σ : Type} {c : Context} {o : Occasion} {s : State σ} {x : Exchange} {r : Request}

/-! ## The range of a download -/

/-- A range that can be read is held back with all its values. Without one there is none. -/
theorem values_range_deferRange (h : r.headers.IsReadable .range) :
    (deferRange r).forwardable.values .range = [] := by
  have hforwardable (q : Request) : q.forwardable.values .range = q.headers.values .range :=
    Headers.values_eraseAll (by decide) q.headers
  have hget : r.header? .range = (r.headers.values .range).head?.map ofAscii :=
    Headers.get?_of_isReadable h
  rw [hforwardable]
  cases hv : r.headers.values .range with
  | nil =>
    have hnone : r.header? .range = none := by rw [hget, hv]; rfl
    rw [deferRange_of_none hnone, hv]
  | cons v vs =>
    have hsome : r.header? .range = some (ofAscii v) := by rw [hget, hv]; rfl
    unfold deferRange
    rw [hsome]
    dsimp only
    rw [Headers.values_set_of_ne (by decide), Headers.values_erase_of_ne (by decide),
      Headers.values_erase_self]

/-! ## The statement of a completion -/

theorem checkContentRange_of_completedId {id : String} (h : completedId r = .ok id) :
    checkContentRange (r.header? .contentRange) r.body.length = .ok () := by
  unfold completedId at h
  split at h
  · cases h
  · assumption

/-- A completion that succeeds has passed the check of its first statement that can be read. -/
theorem checkContentRange_of_completionRequest_ok [SessionStore σ]
    (hr : x.request.headers.IsReadable .contentRange)
    (hok : (completionRequest c o s x).result = .ok ()) :
    ∀ v ∈ (x.request.headers.values .contentRange).head?,
      checkContentRange (some (ofAscii v)) x.request.body.length = .ok () := by
  intro v hv
  obtain ⟨id, -, -, -, -, hid, -⟩ := of_completionRequest_ok hok
  have hget : x.request.header? .contentRange = some (ofAscii v) := by
    rw [Request.header?, Headers.get?_of_isReadable hr, Option.mem_def.1 hv]
    rfl
  have hcheck := checkContentRange_of_completedId hid
  rwa [hget] at hcheck

/-- A statement that cannot be read passes like none. -/
theorem completedId_of_not_isReadable (hr : ¬r.headers.IsReadable .contentRange) :
    completedId r = completedId { r with headers := r.headers.erase .contentRange } := by
  have hnone : r.header? .contentRange = none := Headers.get?_of_not_isReadable hr
  have herased : Request.header? { r with headers := r.headers.erase .contentRange }
      .contentRange = none := by
    unfold Request.header? Headers.get?
    dsimp only
    rw [Headers.values_erase_self]
  unfold completedId
  rw [hnone, herased]

/-- As far as the first value can be read, a download forwards no range, and a completion that
succeeds states the whole object. Otherwise a download forwards what the client sent, and a
completion goes on as if it stated nothing. -/
theorem wholeObjects_of_isReadable [SessionStore σ] (c : Context) (o : Occasion) (s : State σ)
    (x : Exchange) :
    ((downloadRequest c o s x).result = .ok () ∧
      (x.request.headers.IsReadable .range →
        (downloadRequest c o s x).exchange.request.forwardable.values .range = []) ∧
      (¬x.request.headers.IsReadable .range → (downloadRequest c o s x).exchange = x)) ∧
    ((x.request.headers.IsReadable .contentRange → (completionRequest c o s x).result = .ok () →
        ∀ v ∈ (x.request.headers.values .contentRange).head?,
          checkContentRange (some (ofAscii v)) x.request.body.length = .ok ()) ∧
      (¬x.request.headers.IsReadable .contentRange → completedId x.request =
        completedId { x.request with headers := x.request.headers.erase .contentRange })) := by
  refine ⟨⟨rfl, fun hr => ?_, fun hr => ?_⟩, fun hr hok => ?_, fun hr => ?_⟩
  · exact values_range_deferRange hr
  · have hsame : deferRange x.request = x.request :=
      deferRange_of_none (Headers.get?_of_not_isReadable hr)
    exact congrArg (fun r => { x with request := r }) hsame
  · exact checkContentRange_of_completionRequest_ok hr hok
  · exact completedId_of_not_isReadable hr

def rangedDownload (range : String) : Exchange :=
  Engine.catDownload ⟨[(.range, utf8 range)]⟩

def rangedCompletion (statement : String) : Exchange where
  request := { Engine.catCompletion with headers := ⟨[(.contentRange, utf8 statement)]⟩ }

def openedState : State MemoryStore :=
  Gateway.photoGateway.engine.run Gateway.freshState Engine.catHistory

private theorem completionRequest_ranged {statement : String}
    (hid : completedId (rangedCompletion statement).request = .ok "U1") :
    (completionRequest Gateway.photoGateway.engine.context Engine.sealingOccasion openedState
      (rangedCompletion statement)).result = .ok () := by
  have htake : (SessionStore.take Engine.sealingOccasion.toMoment "U1" openedState.sessions).1 =
      .ok ⟨"photos", "cat.jpg", none, ⟨0, 0⟩⟩ := by decide +kernel
  have hkey : uploadKey Gateway.photoGateway.engine.context "photos"
      (ObjectPath.bucket? (rangedCompletion statement).request.path) = .ok "k" := by
    have hresolve : Gateway.photoGateway.engine.context.resolve "photos" = some "k" := by decide
    rw [uploadKey, hresolve]
  obtain ⟨ciphertext, hsealed⟩ := Envelope.exists_encrypt_derived .zero "k"
    Engine.isSized_sealingOccasion (rangedCompletion statement).request.body
  have hreaches : Gateway.photoGateway.engine.Reaches openedState :=
    ⟨1000000000, _, _, Engine.catHistory, .inl rfl, rfl⟩
  exact completionRequest_eq_ok hid (Prod.ext htake rfl) hkey (by decide)
    (State.encrypt_eq_ok hreaches.holds Engine.handle_photoGateway hsealed)

theorem wholeObjects_of_isReadable_cat :
    (downloadRequest Gateway.photoGateway.engine.context Gateway.quietOccasion
      Gateway.freshState (rangedDownload "bytes=1-2")).exchange.request.forwardable.values .range
        = [] ∧
    (completionRequest Gateway.photoGateway.engine.context Engine.sealingOccasion openedState
      (rangedCompletion "bytes 0-3/4")).result = .ok () ∧
    ∀ v ∈ ((rangedCompletion "bytes 0-3/4").request.headers.values .contentRange).head?,
      checkContentRange (some (ofAscii v)) 4 = .ok () := by
  have hrange : (rangedDownload "bytes=1-2").request.headers.IsReadable .range := by
    intro v hv
    obtain rfl := Option.some.inj hv
    decide
  have hstatement : (rangedCompletion "bytes 0-3/4").request.headers.IsReadable
      .contentRange := by
    intro v hv
    obtain rfl := Option.some.inj hv
    decide
  have hid : completedId (rangedCompletion "bytes 0-3/4").request = .ok "U1" := by decide +kernel
  have hok := completionRequest_ranged hid
  exact ⟨(wholeObjects_of_isReadable _ _ Gateway.freshState (rangedDownload "bytes=1-2")).1.2.1
    hrange, hok, (wholeObjects_of_isReadable _ _ openedState (rangedCompletion
      "bytes 0-3/4")).2.1 hstatement hok⟩

/-- A range and a statement that end in a letter beyond ASCII. The range is forwarded, and four
bytes of eleven complete the session. -/
theorem fragments_pass_unread :
    (downloadRequest Gateway.photoGateway.engine.context Gateway.quietOccasion
      Gateway.freshState (rangedDownload "bytes=0-1é")).exchange.request.forwardable.values .range
        = [utf8 "bytes=0-1é"] ∧
    (rangedCompletion "bytes 0-3/11é").request.headers.values .contentRange =
      [utf8 "bytes 0-3/11é"] ∧
    checkContentRange (some "bytes 0-3/11é") (rangedCompletion "bytes 0-3/11é").request.body.length
      = .error (.unsupportedByteRange "bytes 0-3/11é") ∧
    (completionRequest Gateway.photoGateway.engine.context Engine.sealingOccasion openedState
      (rangedCompletion "bytes 0-3/11é")).result = .ok () :=
  ⟨by decide +kernel, by decide +kernel, by decide +kernel,
    completionRequest_ranged (by decide +kernel)⟩

end Hooks
end SealingProxy
