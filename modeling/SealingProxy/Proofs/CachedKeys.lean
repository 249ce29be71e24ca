import SealingProxy.Proofs.EngineRuns
import SealingProxy.Proofs.Envelopes
import SealingProxy.Proofs.HookSteps
/-! # The cache along a run

Whatever hook a call reaches, and whether it fails or not, the handles in the cache stay those of the
service, and runs keep that. -/

namespace SealingProxy

variable {σ : Type}

theorem State.AsksOnce.holds {c : Context} {o : Occasion} {s s' : State σ}
    (ha : s.AsksOnce c o s') (h : s.ciphers.Holds c.keys) : s'.ciphers.Holds c.keys := by
  rcases ha with rfl | ⟨keyId, rfl⟩
  · exact h
  · exact h.get o.now keyId

namespace Engine
open CipherCache

variable [SessionStore σ] {e : Engine}

theorem holds_onRequest (o : Occasion) {s : State σ} (x : Exchange)
    (h : s.ciphers.Holds e.context.keys) :
    (e.onRequest o s x).state.ciphers.Holds e.context.keys := by
  unfold onRequest
  cases e.operation x.request with
  | multipartUpload => exact (Hooks.asksOnce_multipartRequest e.context o s _).holds h
  | mediaUpload => exact (Hooks.asksOnce_mediaRequest e.context o s _).holds h
  | sessionCompletion =>
    rcases Hooks.completionRequest_cases e.context o s
      { x with operation := some .sessionCompletion } with ⟨_, _, hs⟩ | ⟨id, _, ha⟩
    · rw [Operation.requestHook, hs]
      exact h
    · exact ha.holds h
  | sessionOpening => exact h
  | download => exact h
  | resourceFetch => exact h
  | passThrough => exact h

theorem holds_onResponse (o : Occasion) {s : State σ} (x : Exchange)
    (h : s.ciphers.Holds e.context.keys) :
    (e.onResponse o s x).state.ciphers.Holds e.context.keys := by
  unfold onResponse
  split
  · exact h
  · cases x.operation.getD .passThrough with
    | sessionOpening =>
      rw [Operation.responseHook, Hooks.ciphers_openingResponse]
      exact h
    | multipartUpload => exact (Hooks.asksOnce_restoreUpload e.context o s x).holds h
    | mediaUpload => exact (Hooks.asksOnce_restoreUpload e.context o s x).holds h
    | sessionCompletion => exact (Hooks.asksOnce_restoreUpload e.context o s x).holds h
    | download => exact (Hooks.asksOnce_downloadResponse e.context o s x).holds h
    | resourceFetch => exact (Hooks.asksOnce_resourceResponse e.context o s x).holds h
    | passThrough => exact h

theorem holds_step (s : State σ) (event : Event) (h : s.ciphers.Holds e.context.keys) :
    (e.step s event).ciphers.Holds e.context.keys := by
  cases event with
  | request o x => exact holds_onRequest o x h
  | response o x => exact holds_onResponse o x h
  | cleanUp t => exact h

theorem checkKey_snd (keys : KeyService) (w : Surroundings) (keyId : String) (c : CipherCache) :
    (checkKey keys w keyId c).2 = (c.get keys w.now keyId).2 := by
  unfold checkKey
  split
  · next h => rw [h]
  · next h => rw [h]

theorem holds_checkKeys {keys : KeyService} (w : Surroundings) (keyIds : List String)
    {c : CipherCache} (h : c.Holds keys) : (checkKeys keys w keyIds c).2.Holds keys := by
  induction keyIds generalizing c with
  | nil => exact h
  | cons keyId keyIds ih =>
    have hk : (checkKey keys w keyId c).2.Holds keys := by
      rw [checkKey_snd]
      exact h.get w.now keyId
    unfold checkKeys
    split
    · next hc => rwa [hc] at hk
    · next hc =>
      rw [hc] at hk
      exact ih hk

/-- The state that the engine has come to: it started with an empty cache and some sessions, may
have checked its keys, and has served calls since. -/
def Reaches (e : Engine) (s : State σ) : Prop :=
  ∃ (idle : Nat) (ciphers : CipherCache) (sessions : σ) (events : List Event),
    (ciphers = { idle } ∨ ∃ w, ciphers = (e.verifyKeys w { idle }).2) ∧
      s = e.run ⟨ciphers, sessions⟩ events

theorem Reaches.run {s : State σ} (h : e.Reaches s) (events : List Event) :
    e.Reaches (e.run s events) := by
  obtain ⟨idle, ciphers, sessions, before, hstart, rfl⟩ := h
  exact ⟨idle, ciphers, sessions, before ++ events, hstart, (run_append ..).symm⟩

/-- The handles in the cache are those of the service, in every state an engine comes to. -/
theorem Reaches.holds {s : State σ} (h : e.Reaches s) : s.ciphers.Holds e.context.keys := by
  obtain ⟨idle, ciphers, sessions, events, hstart, rfl⟩ := h
  have hempty : CipherCache.Holds e.context.keys { idle } := holds_of_entries_eq_nil rfl
  refine run_induction (P := fun s : State σ => s.ciphers.Holds e.context.keys) holds_step ?_ events
  rcases hstart with rfl | ⟨w, rfl⟩
  · exact hempty
  · unfold verifyKeys
    split
    · exact hempty
    · exact holds_checkKeys w _ hempty

end Engine
end SealingProxy
