import Mathlib.Data.List.Induction
import SealingProxy.Proofs.EngineRuns
import SealingProxy.Proofs.HookSteps
import SealingProxy.Proofs.UploadHooks
/-! # Sessions along a run

Each session in memory was recorded under its id by an opening, after which nothing was recorded
under that id and no completion with it succeeded: this is the invariant. A completion that succeeds
takes the session out. So it completes the latest opening of its id, and it is the only one to do
so until the id is recorded again. -/

namespace SealingProxy

namespace MemoryStore

theorem mem_insert {m : MemoryStore} {id : String} {session : Session} {p : String × Session}
    (h : p ∈ (m.insert id session).sessions) :
    p = (id, session) ∨ p ∈ m.sessions ∧ p.1 ≠ id := by
  rcases List.mem_cons.1 h with h | h
  · exact .inl h
  · exact .inr (by simpa [erase] using h)

theorem mem_erase {m : MemoryStore} {id : String} {p : String × Session}
    (h : p ∈ (m.erase id).sessions) : p ∈ m.sessions ∧ p.1 ≠ id := by
  simpa [erase] using h

theorem mem_of_take {m m' : MemoryStore} {now : Instant} {id : String} {session : Session}
    (h : m.take now id = (.ok session, m')) : (id, session) ∈ m.sessions := by
  unfold take at h
  split at h
  · cases h
  · next found hfound =>
    obtain ⟨p, hp, hps⟩ := Option.map_eq_some_iff.1 hfound
    obtain rfl : p.1 = id := by simpa using List.find?_some hp
    have hsession : found = session := by
      have := (Prod.mk.inj h).1
      split at this
      · cases this
      · exact Except.ok.inj this
    rw [← hsession, ← hps]
    exact List.mem_of_find?_eq_some hp

theorem erase_of_find?_eq_none {m : MemoryStore} {id : String} (h : m.find? id = none) :
    m.erase id = m := by
  have hne : ∀ p ∈ m.sessions, (p.1 != id) = true := by
    intro p hp
    rw [bne_iff_ne]
    rintro rfl
    exact absurd (List.find?_eq_none.1 (Option.map_eq_none_iff.1 h) p hp) (by simp)
  unfold erase
  rw [List.filter_eq_self.2 hne]

/-- Taking removes, whether there is a session that is not expired or not. -/
theorem take_snd (m : MemoryStore) (now : Instant) (id : String) :
    (m.take now id).2 = m.erase id := by
  unfold take
  split
  · next h => exact (erase_of_find?_eq_none h).symm
  · rfl

end MemoryStore

namespace Hooks

theorem upload_id_of_completedId {r : Request} {id : String} (h : completedId r = .ok id) :
    r.query.get? "upload_id" = some id := by
  unfold completedId at h
  split at h
  · cases h
  · split at h
    · cases h
    · next hid =>
      cases h
      exact (Option.filter_eq_some_iff.1 hid).1

end Hooks

/-- The call opens a session under the id: it is the response half of an opening, the response
reports success and names the id, and the request declares the session. -/
def Event.Records (id : String) (session : Session) : Event → Prop
  | .response o x => x.operation = some .sessionOpening ∧ ∃ r, x.response = some r ∧
      r.isSuccess = true ∧ Hooks.uploadId? r = some id ∧
      Hooks.declaredSession x.request o.now = .ok session
  | _ => False

/-- A call records one session, under one id. -/
theorem Event.Records.unique {event : Event} {id id' : String} {session session' : Session}
    (h : event.Records id session) (h' : event.Records id' session') :
    id = id' ∧ session = session' := by
  cases event with
  | request => exact h.elim
  | cleanUp => exact h.elim
  | response o x =>
    obtain ⟨-, r, hr, -, hid, hsession⟩ := h
    obtain ⟨-, r', hr', -, hid', hsession'⟩ := h'
    rw [hr] at hr'
    cases hr'
    rw [hid] at hid'
    rw [hsession] at hsession'
    exact ⟨Option.some.inj hid', Except.ok.inj hsession'⟩

namespace Engine

section

variable {σ : Type} [SessionStore σ] {e : Engine} {s : State σ}

theorem sessions_onRequest_of_ne {o : Occasion} {x : Exchange}
    (h : e.operation x.request ≠ .sessionCompletion) :
    (e.onRequest o s x).state.sessions = s.sessions := by
  unfold onRequest
  cases hop : e.operation x.request with
  | multipartUpload => exact (Hooks.asksOnce_multipartRequest e.context o s _).sessions_eq
  | mediaUpload => exact (Hooks.asksOnce_mediaRequest e.context o s _).sessions_eq
  | sessionCompletion => exact absurd hop h
  | _ => rfl

theorem sessions_onResponse_of_ne {o : Occasion} {x : Exchange}
    (h : x.operation ≠ some .sessionOpening) :
    (e.onResponse o s x).state.sessions = s.sessions := by
  unfold onResponse
  split
  · rfl
  · cases hop : x.operation with
    | none => rfl
    | some op =>
      rw [Option.getD_some]
      cases op with
      | sessionOpening => exact absurd hop h
      | multipartUpload => exact (Hooks.asksOnce_restoreUpload e.context o s x).sessions_eq
      | mediaUpload => exact (Hooks.asksOnce_restoreUpload e.context o s x).sessions_eq
      | sessionCompletion => exact (Hooks.asksOnce_restoreUpload e.context o s x).sessions_eq
      | download => exact (Hooks.asksOnce_downloadResponse e.context o s x).sessions_eq
      | resourceFetch => exact (Hooks.asksOnce_resourceResponse e.context o s x).sessions_eq
      | passThrough => rfl

/-- The response half of an opening is called, whether there is a response or not. -/
theorem state_onResponse_opening {x : Exchange} (h : x.operation = some .sessionOpening)
    (o : Occasion) : (e.onResponse o s x).state = (Hooks.openingResponse e.context o s x).state := by
  unfold onResponse
  split
  · next hx => rw [Hooks.openingResponse, hx]
  · rw [h]; rfl

end

/-- The call is a completion that carries the id, and it succeeds. -/
def Completes (e : Engine) (id : String) (s : State MemoryStore) : Event → Prop
  | .request o x => e.operation x.request = .sessionCompletion ∧
      x.request.query.get? "upload_id" = some id ∧ (e.onRequest o s x).result = .ok ()
  | _ => False

variable {e : Engine} {s : State MemoryStore}

theorem not_completes_of_records {event : Event} {id id' : String} {session : Session}
    (h : event.Records id session) : ¬e.Completes id' s event := by
  cases event with
  | request => exact h.elim
  | response => exact fun hc => hc
  | cleanUp => exact h.elim

inductive SessionStep (e : Engine) (s : State MemoryStore) (event : Event) : Prop where
  /-- The call has nothing to do with them. -/
  | same (sessions : (e.step s event).sessions = s.sessions)
      (records : ∀ id session, ¬event.Records id session)
      (completes : ∀ id, ¬e.Completes id s event)
  /-- An opening records a session. -/
  | put (id : String) (session : Session) (records : event.Records id session)
      (sessions : (e.step s event).sessions = s.sessions.insert id session)
      (completes : ∀ id, ¬e.Completes id s event)
  /-- A completion takes a session out, whether it then succeeds or not. -/
  | take (id : String) (sessions : (e.step s event).sessions = s.sessions.erase id)
      (records : ∀ id session, ¬event.Records id session)
      (completes : ∀ id', e.Completes id' s event → id' = id)
  /-- Expired sessions are removed. -/
  | cleanUp (t : Moment) (sessions : (e.step s event).sessions = s.sessions.withoutExpired t.now)
      (records : ∀ id session, ¬event.Records id session)
      (completes : ∀ id, ¬e.Completes id s event)

theorem sessions_openingResponse (o : Occasion) (x : Exchange)
    (h : x.operation = some .sessionOpening) :
    ((e.onResponse o s x).state.sessions = s.sessions ∧
      ∀ id session, ¬(Event.response o x).Records id session) ∨
    ∃ id session, (Event.response o x).Records id session ∧
      (e.onResponse o s x).state.sessions = s.sessions.insert id session := by
  rw [state_onResponse_opening h]
  rcases Hooks.openingResponse_cases e.context o s x with
    ⟨hs, hno⟩ | ⟨r, id, session, hr, hsuccess, hid, hsession, hs⟩
  · refine .inl ⟨by rw [hs], ?_⟩
    rintro id session ⟨-, r, hr, hsuccess, hid, hsession⟩
    exact hno r id session hr hsuccess hid hsession
  · exact .inr ⟨id, session, ⟨h, r, hr, hsuccess, hid, hsession⟩, by rw [hs]; rfl⟩

/-- One step. The cases are those of the call and of its operation. -/
theorem sessionStep (e : Engine) (s : State MemoryStore) (event : Event) :
    e.SessionStep s event := by
  cases event with
  | cleanUp t => exact .cleanUp t rfl (fun _ _ h => h) fun _ h => h
  | response o x =>
    by_cases hop : x.operation = some .sessionOpening
    · rcases sessions_openingResponse (e := e) (s := s) o x hop with ⟨hs, hr⟩ | ⟨id, t, hr, hs⟩
      · exact .same hs hr fun _ h => h
      · exact .put id t hr hs fun _ h => h
    · exact .same (sessions_onResponse_of_ne hop) (fun _ _ h => hop h.1) fun _ h => h
  | request o x =>
    by_cases hop : e.operation x.request = .sessionCompletion
    · have hhook : e.onRequest o s x = _ := onRequest_sessionCompletion hop
      rcases Hooks.completionRequest_cases e.context o s
        { x with operation := some .sessionCompletion } with ⟨err, herr, hs⟩ | ⟨id, hid, ha⟩
      · refine .same (congrArg State.sessions ?_) (fun _ _ h => h) fun id h => ?_
        · exact (congrArg (·.state) hhook).trans hs
        obtain ⟨-, -, hok⟩ := h
        rw [hhook] at hok
        obtain ⟨_, _, _, _, _, hid, -⟩ := Hooks.of_completionRequest_ok hok
        rw [herr] at hid
        cases hid
      · refine .take id ?_ (fun _ _ h => h) fun id' h => ?_
        · rw [← MemoryStore.take_snd _ o.now id]
          exact (congrArg (·.state.sessions) hhook).trans ha.sessions_eq
        · have hquery := Hooks.upload_id_of_completedId hid
          exact Option.some.inj (h.2.1.symm.trans hquery)
    · exact .same (sessions_onRequest_of_ne hop) (fun _ _ h => h) fun _ h => hop h.1

/-- Of the calls, the last that recorded a session under the id recorded this one. No completion
with the id has succeeded since. -/
def IsPending (e : Engine) (s : State MemoryStore) (events : List Event) (id : String)
    (session : Session) : Prop :=
  ∃ before opening since, events = before ++ opening :: since ∧ opening.Records id session ∧
    (∀ event ∈ since, ∀ other, ¬event.Records id other) ∧
    ¬e.Occurs (e.Completes id) (e.step (e.run s before) opening) since

theorem isPending_concat_self {events : List Event} {event : Event} {id : String}
    {session : Session} (h : event.Records id session) :
    e.IsPending s (events ++ [event]) id session :=
  ⟨events, event, [], rfl, h, fun _ hm => absurd hm List.not_mem_nil, not_occurs_nil _ _ _⟩

theorem IsPending.concat {events : List Event} {event : Event} {id : String} {session : Session}
    (h : e.IsPending s events id session) (hr : ∀ other, ¬event.Records id other)
    (hc : ¬e.Completes id (e.run s events) event) :
    e.IsPending s (events ++ [event]) id session := by
  obtain ⟨before, opening, since, rfl, hopening, hnone, hopen⟩ := h
  refine ⟨before, opening, since ++ [event], by simp, hopening, fun later hl => ?_, ?_⟩
  · rcases List.mem_append.1 hl with hl | hl
    · exact hnone later hl
    · obtain rfl := List.mem_singleton.1 hl
      exact hr
  · rw [occurs_concat_iff]
    rintro (ho | ho)
    · exact hopen ho
    · rw [run_append] at hc
      exact hc ho

/-- The invariant: every session in memory is pending. -/
theorem isPending_of_mem (hs : s.sessions.sessions = []) (events : List Event) :
    ∀ p ∈ (e.run s events).sessions.sessions, e.IsPending s events p.1 p.2 := by
  induction events using List.reverseRecOn with
  | nil =>
    intro p hp
    rw [run_nil, hs] at hp
    exact absurd hp List.not_mem_nil
  | append_singleton events event ih =>
    intro p hp
    rw [run_concat] at hp
    cases e.sessionStep (e.run s events) event with
    | same hsessions hr hc =>
      rw [hsessions] at hp
      exact (ih p hp).concat (hr p.1) (hc p.1)
    | put id session hr hsessions hc =>
      rw [hsessions] at hp
      rcases MemoryStore.mem_insert hp with rfl | ⟨hp, hne⟩
      · exact isPending_concat_self hr
      · refine (ih p hp).concat (fun other ho => hne ?_) (hc p.1)
        exact (Event.Records.unique ho hr).1
    | take id hsessions hr hc =>
      rw [hsessions] at hp
      obtain ⟨hp, hne⟩ := MemoryStore.mem_erase hp
      exact (ih p hp).concat (hr p.1) fun ho => hne (hc p.1 ho)
    | cleanUp t hsessions hr hc =>
      rw [hsessions] at hp
      exact (ih p (List.mem_filter.1 hp).1).concat (hr p.1) (hc p.1)

/-- A success before a pending session was followed by its opening. -/
theorem IsPending.exists_records {before after : List Event} {event : Event} {id : String}
    {session : Session} (h : e.IsPending s (before ++ event :: after) id session)
    (hc : e.Completes id (e.run s before) event) :
    ∃ opening ∈ after, opening.Records id session := by
  obtain ⟨before', opening, since, hsplit, hopening, -, hopen⟩ := h
  rcases List.append_eq_append_iff.1 hsplit with ⟨t, rfl, ht⟩ | ⟨t, rfl, ht⟩
  · cases t with
    | nil =>
      obtain rfl := (List.cons.inj ht).1
      exact absurd hc (not_completes_of_records hopening)
    | cons _ t =>
      obtain ⟨-, rfl⟩ := List.cons.inj ht
      exact ⟨opening, by simp, hopening⟩
  · cases t with
    | nil =>
      obtain rfl := (List.cons.inj ht).1
      exact absurd hc (not_completes_of_records hopening)
    | cons _ t =>
      obtain ⟨rfl, rfl⟩ := List.cons.inj ht
      rw [run_append] at hc
      exact absurd ⟨t, event, after, rfl, hc⟩ hopen

/-- A completion that succeeds takes a pending session and uploads its object. Of two that succeed
with one id, the second comes after a further opening. -/
theorem completes_pending (hs : s.sessions.sessions = []) {before : List Event} {o : Occasion}
    {x : Exchange} {id : String} (h : e.Completes id (e.run s before) (.request o x)) :
    (∃ session, e.IsPending s before id session ∧
      session.IsUploadedBy (e.onRequest o (e.run s before) x).exchange.request) ∧
    ∀ earlier event between, before = earlier ++ event :: between →
      e.Completes id (e.run s earlier) event →
      ∃ opening ∈ between, ∃ session, opening.Records id session := by
  obtain ⟨hop, hquery, hok⟩ := h
  rw [onRequest_sessionCompletion hop] at hok ⊢
  obtain ⟨id', session, hid, htake, hupload⟩ := Hooks.isUploadedBy_of_completionRequest_ok hok
  obtain rfl : id' = id := Option.some.inj ((Hooks.upload_id_of_completedId hid).symm.trans hquery)
  have hpending : e.IsPending s before id' session :=
    isPending_of_mem hs before _ (MemoryStore.mem_of_take (Prod.ext htake rfl))
  refine ⟨⟨session, hpending, hupload⟩, fun earlier event between hsplit hc => ?_⟩
  rw [hsplit] at hpending
  obtain ⟨opening, hm, hr⟩ := hpending.exists_records hc
  exact ⟨opening, hm, session, hr⟩

def catHistory : List Event :=
  [.response Gateway.quietOccasion
    { request := Gateway.photoGateway.receive Gateway.photoOpening
      response := some { status := 200, headers := ⟨[(.uploadId, utf8 "U1")]⟩ }
      operation := some .sessionOpening },
    .cleanUp Gateway.quietOccasion.toMoment]

def catCompletion : Request :=
  { Request.ofTarget "PUT" "storage.googleapis.com"
      "/upload/storage/v1/b/photos/o?uploadType=resumable&upload_id=U1&name=dog.jpg" with
    body := utf8 "meow" }

theorem completes_pending_cat :
    Gateway.photoGateway.engine.Completes "U1"
      (Gateway.photoGateway.engine.run Gateway.freshState catHistory)
      (.request Gateway.quietOccasion { request := catCompletion }) ∧
    ∃ session, Gateway.photoGateway.engine.IsPending Gateway.freshState catHistory "U1" session ∧
      session.objectName = "cat.jpg" ∧
      session.IsUploadedBy (Gateway.photoGateway.engine.onRequest Gateway.quietOccasion
        (Gateway.photoGateway.engine.run Gateway.freshState catHistory)
        { request := catCompletion }).exchange.request := by
  have hc : Gateway.photoGateway.engine.Completes "U1"
      (Gateway.photoGateway.engine.run Gateway.freshState catHistory)
      (.request Gateway.quietOccasion { request := catCompletion }) :=
    ⟨by decide +kernel, by decide +kernel, by decide +kernel⟩
  obtain ⟨⟨session, hpending, hupload⟩, -⟩ := completes_pending rfl hc
  refine ⟨hc, session, hpending, ?_, hupload⟩
  obtain ⟨before, opening, since, hsplit, hr, -⟩ := hpending
  have hname : (Hooks.declaredSession (Gateway.photoGateway.receive Gateway.photoOpening)
      Gateway.quietOccasion.now).map Session.objectName = .ok "cat.jpg" := by decide +kernel
  rcases before with _ | ⟨_, _ | ⟨_, before⟩⟩
  · obtain ⟨rfl, -⟩ := List.cons.inj hsplit
    obtain ⟨-, r, -, -, -, hsession⟩ := hr
    rw [hsession] at hname
    exact Except.ok.inj hname
  · obtain ⟨-, h⟩ := List.cons.inj hsplit
    obtain ⟨rfl, -⟩ := List.cons.inj h
    exact hr.elim
  · simp [catHistory] at hsplit

end Engine
end SealingProxy
