import SealingProxy.Gateway
/-! # Runs of an engine

Any number of clients call the hooks of one engine, and expired sessions are removed from time to
time. A run is the sequence of these calls in the order in which they take effect. Nothing is
assumed about the exchanges: calls of the response half need not follow a request half. -/

namespace SealingProxy

inductive Event where
  | request (o : Occasion) (x : Exchange)
  | response (o : Occasion) (x : Exchange)
  | cleanUp (t : Moment)

variable {σ : Type} [SessionStore σ]

namespace Operation
open Hooks

theorem operation_requestHook (op : Operation) (c : Context) (o : Occasion) (s : State σ)
    (x : Exchange) : (op.requestHook c o s x).exchange.operation = x.operation := by
  cases op with
  | multipartUpload =>
    unfold requestHook
    dsimp only
    unfold multipartRequest
    split
    · rfl
    · split <;> simp only [Outcome.failure, Outcome.success]
  | mediaUpload =>
    unfold requestHook
    dsimp only
    unfold mediaRequest
    dsimp only
    split
    · rfl
    · split <;> rfl
  | sessionCompletion =>
    unfold requestHook
    dsimp only
    unfold completionRequest
    split
    · rfl
    split
    · rfl
    dsimp only
    split
    · rfl
    · split <;> rfl
  | sessionOpening => rfl
  | download => rfl
  | resourceFetch => rfl
  | passThrough => rfl

end Operation

namespace Engine

variable {e : Engine} {o : Occasion} {s : State σ} {x : Exchange} {cipher : Cipher}

theorem onRequest_multipartUpload (h : e.operation x.request = .multipartUpload) :
    e.onRequest o s x cipher = Hooks.multipartRequest e.context o s
      { x with operation := some .multipartUpload } cipher := by
  rw [onRequest, h]
  rfl

theorem onRequest_mediaUpload (h : e.operation x.request = .mediaUpload) :
    e.onRequest o s x cipher = Hooks.mediaRequest e.context o s
      { x with operation := some .mediaUpload } cipher := by
  rw [onRequest, h]
  rfl

theorem onRequest_sessionCompletion (h : e.operation x.request = .sessionCompletion) :
    e.onRequest o s x cipher = Hooks.completionRequest e.context o s
      { x with operation := some .sessionCompletion } cipher := by
  rw [onRequest, h]
  rfl

theorem onRequest_download (h : e.operation x.request = .download) :
    e.onRequest o s x = .success { x with
      request := Hooks.deferRange x.request, operation := some .download } s := by
  rw [onRequest, h]
  rfl

theorem onResponse_answered {op : Operation} (h : x.operation = some op) (e : Engine)
    (o : Occasion) (s : State σ) (response : Response) :
    e.onResponse o s { x with response := some response } =
      op.responseHook e.context o s { x with response := some response } := by
  obtain ⟨request, _, operation⟩ := x
  obtain rfl : operation = some op := h
  rfl

/-- The response half goes by the operation that the request half assigned. -/
theorem onResponse_onRequest (e : Engine) (first second : Occasion) (s s' : State σ) (x : Exchange)
    (response : Response) :
    e.onResponse second s' { (e.onRequest first s x).exchange with response := some response } =
      (e.operation x.request).responseHook e.context second s'
        { (e.onRequest first s x).exchange with response := some response } :=
  onResponse_answered (Operation.operation_requestHook _ e.context first s _) e second s' response

def step (e : Engine) (s : State σ) : Event → State σ
  | .request o x => (e.onRequest o s x).state
  | .response o x => (e.onResponse o s x).state
  | .cleanUp t => { s with sessions := (SessionStore.removeExpired t s.sessions).2 }

def run (e : Engine) (s : State σ) (events : List Event) : State σ :=
  events.foldl e.step s

@[simp] theorem run_nil (e : Engine) (s : State σ) : e.run s [] = s :=
  rfl

theorem run_append (e : Engine) (s : State σ) (events more : List Event) :
    e.run s (events ++ more) = e.run (e.run s events) more :=
  List.foldl_append

theorem run_concat (e : Engine) (s : State σ) (events : List Event) (event : Event) :
    e.run s (events ++ [event]) = e.step (e.run s events) event := by
  rw [run_append]
  rfl

/-- What every step keeps, every run keeps. -/
theorem run_induction {e : Engine} {P : State σ → Prop} (hstep : ∀ s event, P s → P (e.step s event))
    {s : State σ} (hs : P s) (events : List Event) : P (e.run s events) := by
  induction events generalizing s with
  | nil => exact hs
  | cons event events ih => exact ih (hstep s event hs)

/-- Some call in a run has a property in the state in which it is served. -/
def Occurs (e : Engine) (P : State σ → Event → Prop) (s : State σ) (events : List Event) : Prop :=
  ∃ before event after, events = before ++ event :: after ∧ P (e.run s before) event

theorem not_occurs_nil (e : Engine) (P : State σ → Event → Prop) (s : State σ) :
    ¬e.Occurs P s [] := by
  rintro ⟨before, event, after, h, -⟩
  simp at h

theorem occurs_concat_iff {e : Engine} {P : State σ → Event → Prop} {s : State σ}
    {events : List Event} {event : Event} :
    e.Occurs P s (events ++ [event]) ↔ e.Occurs P s events ∨ P (e.run s events) event := by
  constructor
  · rintro ⟨before, event', after, h, hp⟩
    rcases List.eq_nil_or_concat after with rfl | ⟨after, last, rfl⟩
    · obtain ⟨rfl, he⟩ := List.append_inj' h rfl
      obtain rfl := (List.cons.inj he).1
      exact .inr hp
    · rw [List.concat_eq_append, ← List.cons_append, ← List.append_assoc] at h
      obtain ⟨rfl, -⟩ := List.append_inj' h rfl
      exact .inl ⟨before, event', after, rfl, hp⟩
  · rintro (⟨before, event', after, rfl, hp⟩ | hp)
    · exact ⟨before, event', after ++ [event], by simp, hp⟩
    · exact ⟨events, event, [], rfl, hp⟩

end Engine

/-! ## A small gateway

The concrete runs of later modules are those of one gateway, which starts with nothing in memory. -/

namespace Gateway

def photoGateway : Gateway where
  engine :=
    { classifier :=
        ⟨["storage.googleapis.com"], fun bucket => if bucket = "photos" then some "k" else none⟩
      context :=
        { resolve := fun bucket => if bucket = "photos" then some "k" else none
          keys := .ofMaster .zero
          version := "1" }
      disabled := false
      keyIds := ["k"] }
  endpoint := "https://storage.googleapis.com"
  maxBody := 1024

def photoOpening : Call where
  method := "POST"
  target := "/upload/storage/v1/b/photos/o?uploadType=resumable&name=cat.jpg"
  headers := ⟨[(.host, utf8 "localhost:9080")]⟩

/-- A call that draws no random values. -/
def quietOccasion : Occasion where
  now := ⟨0, 0⟩
  token := ""
  draw := ⟨[], [], []⟩
  boundaryNumber := 0

def freshState : State MemoryStore :=
  ⟨{ idle := 1000000000 }, { ttl := 1000000000 }⟩

end Gateway
end SealingProxy
