import Mathlib.Data.List.Dedup
import Mathlib.Data.List.Induction
import Mathlib.Data.List.Perm.Subperm
import SealingProxy.Sealing.CipherCache
/-! # The cache against its history

Calls for handles come one after the other, and the service may answer each of them differently. What
the cache does with a call is told here by the calls before it alone: the last one that succeeded for
the same key, and when that was. At exactly the time to live a handle has expired. The cache may
drop entries where there are more than it is meant to hold; up to that number it drops none. -/

namespace SealingProxy

/-- A call for the handle of a key, with the service as it is at that time. -/
structure HandleCall where
  now : Instant
  keyId : String
  service : KeyService

structure HandleReply where
  call : HandleCall
  answer : Except CryptoError KeyHandle

namespace HandleReply

def use? (keyId : String) (r : HandleReply) : Option CachedHandle :=
  match r.answer with
  | .ok handle => if r.call.keyId = keyId then some ⟨keyId, handle, r.call.now⟩ else none
  | .error _ => none

/-- The handle that the last successful call for a key was answered, and when that call was. -/
def lastUse? (history : List HandleReply) (keyId : String) : Option CachedHandle :=
  (history.filterMap (use? keyId)).getLast?

variable {history : List HandleReply} {call : HandleCall} {keyId : String} {used : CachedHandle}

theorem lastUse?_concat_ok (handle : KeyHandle) :
    lastUse? (history ++ [⟨call, .ok handle⟩]) keyId =
      if call.keyId = keyId then some ⟨keyId, handle, call.now⟩ else lastUse? history keyId := by
  by_cases h : call.keyId = keyId <;> simp [lastUse?, use?, h]

theorem lastUse?_concat_error (e : CryptoError) :
    lastUse? (history ++ [⟨call, .error e⟩]) keyId = lastUse? history keyId := by
  simp [lastUse?, use?]

theorem of_lastUse? (h : lastUse? history keyId = some used) :
    used.keyId = keyId ∧ ∃ r ∈ history, r.call.keyId = keyId := by
  obtain ⟨r, hr, huse⟩ := List.mem_filterMap.1 (List.mem_of_getLast? h)
  unfold use? at huse
  split at huse
  · split at huse
    · next hid =>
      obtain rfl := Option.some.inj huse
      exact ⟨rfl, r, hr, hid⟩
    · cases huse
  · cases huse

end HandleReply

namespace CipherCache
open HandleReply

/-- The number of keys that the cache is meant to hold. -/
def capacity : Nat := 1024

/-- What is kept of the entries after a call. Below the capacity that is all of them. -/
structure Eviction where
  keep : List CachedHandle → List CachedHandle
  keep_eq_self : ∀ entries, entries.length ≤ capacity → keep entries = entries

/-- A call, after which entries may be dropped. -/
def serve (ev : Eviction) (c : CipherCache) (call : HandleCall) :
    Except CryptoError KeyHandle × CipherCache :=
  let r := c.get call.service call.now call.keyId
  (r.1, { r.2 with entries := ev.keep r.2.entries })

def afterCalls (ev : Eviction) (c : CipherCache) (calls : List HandleCall) : CipherCache :=
  calls.foldl (fun c call => (c.serve ev call).2) c

def replies (ev : Eviction) (c : CipherCache) : List HandleCall → List HandleReply
  | [] => []
  | call :: calls => ⟨call, (c.serve ev call).1⟩ :: replies ev (c.serve ev call).2 calls

def Asks (ev : Eviction) (c : CipherCache) (call : HandleCall) : Prop :=
  c.requests < (c.serve ev call).2.requests

variable {ev : Eviction} {c c₀ : CipherCache} {call : HandleCall} {history : List HandleReply}

theorem afterCalls_concat (c : CipherCache) (calls : List HandleCall) (call : HandleCall) :
    c.afterCalls ev (calls ++ [call]) = ((c.afterCalls ev calls).serve ev call).2 := by
  simp [afterCalls]

theorem replies_concat (c : CipherCache) (calls : List HandleCall) (call : HandleCall) :
    c.replies ev (calls ++ [call]) =
      c.replies ev calls ++ [⟨call, ((c.afterCalls ev calls).serve ev call).1⟩] := by
  induction calls generalizing c with
  | nil => rfl
  | cons first calls ih =>
    rw [List.cons_append, replies, ih]
    rfl

theorem map_call_replies (c : CipherCache) (calls : List HandleCall) :
    (c.replies ev calls).map (·.call) = calls := by
  induction calls generalizing c with
  | nil => rfl
  | cons first calls ih => rw [replies, List.map_cons, ih]

/-! ## One call -/

/-- What a call can do: use a live entry, add the handle that the service hands out, or fail. -/
theorem get_cases (c : CipherCache) (call : HandleCall) :
    (∃ e, c.find? call.now call.keyId = some e ∧
      c.get call.service call.now call.keyId =
        (.ok e.handle, c.use call.now call.keyId e.handle)) ∨
    c.find? call.now call.keyId = none ∧
      ((∃ handle, call.service.handle call.keyId = .ok handle ∧
        c.get call.service call.now call.keyId = (.ok handle,
          { c with requests := c.requests + 1 }.use call.now call.keyId handle)) ∨
      ∃ cause, call.service.handle call.keyId = .error cause ∧
        c.get call.service call.now call.keyId =
          (.error (unavailable call.keyId cause), { c with requests := c.requests + 1 })) := by
  unfold get
  cases hfind : c.find? call.now call.keyId with
  | some e => exact .inl ⟨e, rfl, rfl⟩
  | none =>
    refine .inr ⟨rfl, ?_⟩
    cases hhandle : call.service.handle call.keyId with
    | ok handle => exact .inl ⟨handle, rfl, rfl⟩
    | error cause => exact .inr ⟨cause, rfl, rfl⟩

theorem asks_iff : c.Asks ev call ↔ c.find? call.now call.keyId = none := by
  unfold Asks serve
  rcases get_cases c call with ⟨e, hfind, hget⟩ | ⟨hfind, ⟨handle, -, hget⟩ | ⟨cause, -, hget⟩⟩ <;>
    simp [hget, hfind, use]

theorem idle_serve (c : CipherCache) (call : HandleCall) : (c.serve ev call).2.idle = c.idle := by
  unfold serve
  rcases get_cases c call with ⟨e, -, hget⟩ | ⟨-, ⟨handle, -, hget⟩ | ⟨cause, -, hget⟩⟩ <;>
    rw [hget] <;> rfl

theorem idle_afterCalls (c : CipherCache) (calls : List HandleCall) :
    (c.afterCalls ev calls).idle = c.idle := by
  induction calls using List.reverseRecOn with
  | nil => rfl
  | append_singleton calls call ih => rw [afterCalls_concat, idle_serve, ih]

/-! ## What the cache remembers -/

/-- The cache holds one entry for each key that a call succeeded for, and it is that of the last such
call. -/
structure Remembers (c : CipherCache) (history : List HandleReply) : Prop where
  nodup : (c.entries.map (·.keyId)).Nodup
  find?_eq : ∀ keyId, c.entries.find? (·.keyId == keyId) = lastUse? history keyId

theorem find?_keyId_of_mem {entries : List CachedHandle} (h : (entries.map (·.keyId)).Nodup)
    {e : CachedHandle} (he : e ∈ entries) : entries.find? (·.keyId == e.keyId) = some e := by
  induction entries with
  | nil => cases he
  | cons first entries ih =>
    rw [List.map_cons, List.nodup_cons] at h
    rcases List.mem_cons.1 he with rfl | he
    · simp
    · have hne : first.keyId ≠ e.keyId := fun hid => h.1 (hid ▸ List.mem_map_of_mem he)
      rw [List.find?_cons_of_neg (by simpa using hne), ih h.2 he]

/-- Each key has one entry, so that to find a live entry is to look whether the entry is live. -/
theorem Remembers.find?_live (h : c.Remembers history) (now : Instant) (keyId : String) :
    c.find? now keyId = (lastUse? history keyId).filter (c.isLive now) := by
  rw [← h.find?_eq, CipherCache.find?]
  have hnodup := h.nodup
  generalize c.entries = entries at hnodup
  induction entries with
  | nil => rfl
  | cons e entries ih =>
    rw [List.map_cons, List.nodup_cons] at hnodup
    by_cases hid : e.keyId = keyId
    · have hpos : (e :: entries).find? (·.keyId == keyId) = some e :=
        List.find?_cons_of_pos (by simpa using hid)
      rw [hpos, Option.filter_some]
      split
      · next hlive => exact List.find?_cons_of_pos (by simp [hid, hlive])
      · next hlive =>
        -- no other entry has this key
        rw [List.find?_cons_of_neg (by simp [hlive])]
        refine List.find?_eq_none.2 fun f hf hmatch => hnodup.1 ?_
        simp only [Bool.and_eq_true, beq_iff_eq] at hmatch
        rw [hid, ← hmatch.1]
        exact List.mem_map_of_mem hf
    · rw [List.find?_cons_of_neg (by simp [hid]), List.find?_cons_of_neg (by simpa using hid),
        ih hnodup.2]

theorem Remembers.use (h : c.Remembers history) (call : HandleCall) (handle : KeyHandle) :
    (c.use call.now call.keyId handle).Remembers (history ++ [⟨call, .ok handle⟩]) := by
  constructor
  · rw [CipherCache.use, List.map_cons, List.nodup_cons]
    refine ⟨?_, h.nodup.sublist (List.filter_sublist.map _)⟩
    simp
  · intro keyId
    rw [lastUse?_concat_ok, CipherCache.use]
    split
    · next hid => simp [hid]
    · next hid =>
      rw [List.find?_cons_of_neg (by simpa using hid), ← h.find?_eq, List.find?_filter]
      congr 1
      funext e
      by_cases he : e.keyId = keyId
      · simp [he, Ne.symm hid]
      · simp [he]

theorem Remembers.get (h : c.Remembers history) (call : HandleCall) :
    (c.get call.service call.now call.keyId).2.Remembers
      (history ++ [⟨call, (c.get call.service call.now call.keyId).1⟩]) := by
  rcases get_cases c call with ⟨e, -, hget⟩ | ⟨-, ⟨handle, -, hget⟩ | ⟨cause, -, hget⟩⟩
  · rw [hget]
    exact h.use call e.handle
  · rw [hget]
    exact Remembers.use (c := { c with requests := c.requests + 1 }) ⟨h.nodup, h.find?_eq⟩ call
      handle
  · rw [hget]
    exact ⟨h.nodup, fun keyId => by rw [lastUse?_concat_error]; exact h.find?_eq keyId⟩

/-- There are no more entries than keys that were called for. -/
theorem Remembers.length_le (h : c.Remembers history) :
    c.entries.length ≤ ((history.map (·.call)).map (·.keyId)).dedup.length := by
  have hsub : c.entries.map (·.keyId) ⊆ ((history.map (·.call)).map (·.keyId)).dedup := by
    intro keyId hmem
    obtain ⟨e, he, rfl⟩ := List.mem_map.1 hmem
    have hlast := (h.find?_eq e.keyId).symm.trans (find?_keyId_of_mem h.nodup he)
    obtain ⟨-, r, hr, hid⟩ := of_lastUse? hlast
    rw [List.mem_dedup, ← hid]
    exact List.mem_map_of_mem (List.mem_map_of_mem hr)
  simpa using (List.subperm_of_subset h.nodup hsub).length_le

/-! ## Calls one after the other -/

/-- The calls are for no more keys than the cache is meant to hold. -/
def FewKeys (calls : List HandleCall) : Prop :=
  (calls.map (·.keyId)).dedup.length ≤ capacity

theorem FewKeys.subset {calls more : List HandleCall} (h : FewKeys more) (hs : calls ⊆ more) :
    FewKeys calls := by
  have hsub : (calls.map (·.keyId)).dedup ⊆ (more.map (·.keyId)).dedup := fun keyId hmem =>
    List.mem_dedup.2 (List.map_subset _ hs (List.mem_dedup.1 hmem))
  exact Nat.le_trans (List.subperm_of_subset (List.nodup_dedup _) hsub).length_le h

variable {calls later : List HandleCall} {idle : Nat} {keyId : String} {used : CachedHandle}

/-- As long as there are few keys, nothing is dropped. -/
theorem serve_eq_get (h : c.Remembers (c₀.replies ev calls)) (hfew : FewKeys (calls ++ [call])) :
    c.serve ev call = c.get call.service call.now call.keyId := by
  have hlength := (h.get call).length_le
  rw [List.map_append, map_call_replies] at hlength
  have hkeep := ev.keep_eq_self _ (Nat.le_trans hlength hfew)
  rw [serve, hkeep]

theorem remembers_afterCalls (hfew : FewKeys calls) :
    (afterCalls ev { idle } calls).Remembers (replies ev { idle } calls) := by
  induction calls using List.reverseRecOn with
  | nil => exact ⟨List.nodup_nil, fun _ => rfl⟩
  | append_singleton calls call ih =>
    have hbefore := ih (hfew.subset (List.subset_append_left ..))
    rw [afterCalls_concat, replies_concat, serve_eq_get hbefore hfew]
    exact hbefore.get call

/-- No call for the key has succeeded yet, or the last one that did was the time to live ago or
more. -/
def IsDue (idle : Nat) (history : List HandleReply) (call : HandleCall) : Prop :=
  lastUse? history call.keyId = none ∨
    ∃ used, lastUse? history call.keyId = some used ∧
      used.lastUse.ticks + idle ≤ call.now.ticks

theorem find?_afterCalls (hfew : FewKeys calls) (now : Instant) (keyId : String) :
    (afterCalls ev { idle } calls).find? now keyId =
      (lastUse? (replies ev { idle } calls) keyId).filter
        fun used => now.ticks < used.lastUse.ticks + idle := by
  rw [(remembers_afterCalls hfew).find?_live now keyId]
  congr 1
  funext used
  rw [isLive, idle_afterCalls]

theorem asks_iff_isDue (hfew : FewKeys calls) (call : HandleCall) :
    (afterCalls ev { idle } calls).Asks ev call ↔ IsDue idle (replies ev { idle } calls) call := by
  rw [asks_iff, find?_afterCalls hfew, IsDue]
  cases lastUse? (replies ev { idle } calls) call.keyId with
  | none => simp
  | some used => simp

/-- What a call after others can do, as the calls before it tell. -/
theorem serve_cases (ev : Eviction) (idle : Nat) (hfew : FewKeys (calls ++ [call])) :
    (∃ used, lastUse? (replies ev { idle } calls) call.keyId = some used ∧
      ¬IsDue idle (replies ev { idle } calls) call ∧
      (afterCalls ev { idle } calls).serve ev call = (.ok used.handle,
        (afterCalls ev { idle } calls).use call.now call.keyId used.handle)) ∨
    IsDue idle (replies ev { idle } calls) call ∧
      ((∃ handle, call.service.handle call.keyId = .ok handle ∧
        ((afterCalls ev { idle } calls).serve ev call).1 = .ok handle) ∨
      ∃ cause, call.service.handle call.keyId = .error cause ∧
        ((afterCalls ev { idle } calls).serve ev call).1 =
          .error (unavailable call.keyId cause) ∧
        ((afterCalls ev { idle } calls).serve ev call).2.entries =
          (afterCalls ev { idle } calls).entries) := by
  have hbefore : FewKeys calls := hfew.subset (List.subset_append_left ..)
  rw [← asks_iff_isDue hbefore, asks_iff, serve_eq_get (remembers_afterCalls hbefore) hfew]
  rcases get_cases (afterCalls ev { idle } calls) call with
    ⟨e, hfind, hget⟩ | ⟨hfind, ⟨handle, hhandle, hget⟩ | ⟨cause, hcause, hget⟩⟩
  · have hlast := hfind
    rw [find?_afterCalls hbefore, Option.filter_eq_some_iff] at hlast
    exact .inl ⟨e, hlast.1, by simp [hfind], hget⟩
  · exact .inr ⟨hfind, .inl ⟨handle, hhandle, by rw [hget]⟩⟩
  · exact .inr ⟨hfind, .inr ⟨cause, hcause, by rw [hget], by rw [hget]⟩⟩

/-! ## Where handles come from -/

/-- Some call for the key asked the service, and the service handed out the handle. -/
def Built (ev : Eviction) (c : CipherCache) (calls : List HandleCall) (keyId : String)
    (handle : KeyHandle) : Prop :=
  ∃ before builder later, calls = before ++ builder :: later ∧ builder.keyId = keyId ∧
    (c.afterCalls ev before).Asks ev builder ∧ builder.service.handle keyId = .ok handle

theorem Built.concat {handle : KeyHandle} (h : Built ev c calls keyId handle) (call : HandleCall) :
    Built ev c (calls ++ [call]) keyId handle := by
  obtain ⟨before, builder, later, rfl, hbuilder⟩ := h
  exact ⟨before, builder, later ++ [call], by simp, hbuilder⟩

/-- The handle of a successful call is the one that the last such call for the key had, or is built
now. -/
theorem built_of_serve_ok (hfew : FewKeys (calls ++ [call])) {handle : KeyHandle}
    (hlast : ∀ used, lastUse? (replies ev { idle } calls) call.keyId = some used →
      Built ev { idle } calls call.keyId used.handle)
    (h : ((afterCalls ev { idle } calls).serve ev call).1 = .ok handle) :
    Built ev { idle } (calls ++ [call]) call.keyId handle := by
  have hbefore : FewKeys calls := hfew.subset (List.subset_append_left ..)
  rcases serve_cases ev idle hfew with
    ⟨used, hused, -, hserve⟩ | ⟨hdue, ⟨built, hbuilt, hserve⟩ | ⟨cause, -, hserve, -⟩⟩
  · rw [hserve] at h
    obtain rfl := Except.ok.inj h
    exact (hlast used hused).concat call
  · rw [hserve] at h
    obtain rfl := Except.ok.inj h
    exact ⟨calls, call, [], rfl, rfl, (asks_iff_isDue hbefore call).2 hdue, hbuilt⟩
  · rw [hserve] at h
    cases h

theorem built_of_lastUse? (hfew : FewKeys calls)
    (h : lastUse? (replies ev { idle } calls) keyId = some used) :
    Built ev { idle } calls keyId used.handle := by
  induction calls using List.reverseRecOn generalizing keyId used with
  | nil => cases h
  | append_singleton calls call ih =>
    have hbefore : FewKeys calls := hfew.subset (List.subset_append_left ..)
    rw [replies_concat] at h
    cases hanswer : ((afterCalls ev { idle } calls).serve ev call).1 with
    | ok handle =>
      rw [hanswer, lastUse?_concat_ok] at h
      split at h
      · next hid =>
        obtain rfl := Option.some.inj h
        exact hid ▸ built_of_serve_ok hfew (fun used hused => ih hbefore hused) hanswer
      · exact (ih hbefore h).concat call
    | error e =>
      rw [hanswer, lastUse?_concat_error] at h
      exact (ih hbefore h).concat call

/-! ## After a failure -/

/-- Calls for other keys do not count. -/
theorem lastUse?_append_of_ne (c : CipherCache) (calls : List HandleCall)
    (hlater : ∀ other ∈ later, other.keyId ≠ keyId) :
    lastUse? (c.replies ev (calls ++ later)) keyId = lastUse? (c.replies ev calls) keyId := by
  induction later using List.reverseRecOn with
  | nil => rw [List.append_nil]
  | append_singleton later other ih =>
    have hother : other.keyId ≠ keyId := hlater other (by simp)
    have hrest := ih fun o ho => hlater o (List.mem_append_left _ ho)
    rw [← List.append_assoc, replies_concat]
    cases ((c.afterCalls ev (calls ++ later)).serve ev other).1 with
    | ok handle => rw [lastUse?_concat_ok, if_neg hother, hrest]
    | error e => rw [lastUse?_concat_error, hrest]

/-- After a failure the next call for the key is due as well, if time has not gone back. -/
theorem isDue_of_failure {between : List HandleCall} {next : HandleCall} {e : CryptoError}
    (hdue : IsDue idle (replies ev { idle } calls) call)
    (hfailed : ((afterCalls ev { idle } calls).serve ev call).1 = .error e)
    (hbetween : ∀ other ∈ between, other.keyId ≠ call.keyId) (hnext : next.keyId = call.keyId)
    (hle : call.now.ticks ≤ next.now.ticks) :
    IsDue idle (replies ev { idle } (calls ++ call :: between)) next := by
  have hlast : lastUse? (replies ev { idle } (calls ++ call :: between)) next.keyId =
      lastUse? (replies ev { idle } calls) call.keyId := by
    rw [hnext, List.append_cons, lastUse?_append_of_ne _ _ hbetween, replies_concat, hfailed,
      lastUse?_concat_error]
  rw [IsDue, hlast]
  rcases hdue with hnone | ⟨used, hused, hold⟩
  · exact .inl hnone
  · exact .inr ⟨used, hused, Int.le_trans hold hle⟩

/-! ## The reference -/

/-- What the calls before it and the service say about a call. The calls after it tell when the
service is asked again if the call fails. -/
structure Follows (ev : Eviction) (idle : Nat) (before : List HandleCall) (call : HandleCall)
    (later : List HandleCall) : Prop where
  asks_iff : (afterCalls ev { idle } before).Asks ev call ↔
    IsDue idle (replies ev { idle } before) call
  /-- A handle that was used less than the time to live ago is handed out again, and then counts as
  used at the time of this call. -/
  reused : ∀ used, lastUse? (replies ev { idle } before) call.keyId = some used →
    call.now.ticks < used.lastUse.ticks + idle →
    ((afterCalls ev { idle } before).serve ev call).1 = .ok used.handle ∧
    (afterCalls ev { idle } (before ++ [call])).entries.find? (·.keyId == call.keyId) =
      some { used with lastUse := call.now }
  /-- A failure leaves all handles in the cache as they were, and the next call for the key asks. -/
  failed : ∀ e, ((afterCalls ev { idle } before).serve ev call).1 = .error e →
    (afterCalls ev { idle } (before ++ [call])).entries =
      (afterCalls ev { idle } before).entries ∧
    ∀ between next rest, later = between ++ next :: rest → next.keyId = call.keyId →
      (∀ other ∈ between, other.keyId ≠ call.keyId) →
      (afterCalls ev { idle } (before ++ call :: between)).Asks ev next
  built : ∀ handle, ((afterCalls ev { idle } before).serve ev call).1 = .ok handle →
    Built ev { idle } (before ++ [call]) call.keyId handle
  /-- Every failure is that a key is unavailable: as the service put it, or else naming the key. -/
  unavailable : ∀ e, ((afterCalls ev { idle } before).serve ev call).1 = .error e →
    ∃ cause, call.service.handle call.keyId = .error cause ∧
      ((∃ keyId reason, cause = .backendUnavailable keyId reason) ∧ e = cause ∨
        (∀ keyId reason, cause ≠ .backendUnavailable keyId reason) ∧
          e = .backendUnavailable call.keyId cause.message)

theorem unavailable_cases (keyId : String) (cause : CryptoError) :
    (∃ k reason, cause = .backendUnavailable k reason) ∧ unavailable keyId cause = cause ∨
      (∀ k reason, cause ≠ .backendUnavailable k reason) ∧
        unavailable keyId cause = .backendUnavailable keyId cause.message := by
  cases cause with
  | backendUnavailable k reason => exact .inl ⟨⟨k, reason, rfl⟩, rfl⟩
  | encryptionFailed reason => exact .inr ⟨by simp, rfl⟩
  | decryptionFailed reason => exact .inr ⟨by simp, rfl⟩
  | invalidKeyMaterial reason => exact .inr ⟨by simp, rfl⟩

/-- The cache answers each call as the calls before it tell. -/
theorem follows_history (ev : Eviction) (idle : Nat) {before later : List HandleCall}
    {call : HandleCall} (hfew : FewKeys (before ++ call :: later))
    (hsorted : (before ++ call :: later).Pairwise fun a b => a.now.ticks ≤ b.now.ticks) :
    Follows ev idle before call later := by
  have hbefore : FewKeys before := hfew.subset (List.subset_append_left ..)
  have hupto : FewKeys (before ++ [call]) := hfew.subset (by simp)
  have hcases := serve_cases ev idle hupto
  constructor
  case asks_iff => exact asks_iff_isDue hbefore call
  case built =>
    exact fun handle => built_of_serve_ok hupto fun used => built_of_lastUse? hbefore
  case reused =>
    intro used hused hfresh
    rcases hcases with ⟨other, hother, -, hserve⟩ | ⟨hdue, -⟩
    · obtain rfl := Option.some.inj (hused.symm.trans hother)
      rw [(remembers_afterCalls hupto).find?_eq, replies_concat, hserve, lastUse?_concat_ok,
        if_pos rfl, (of_lastUse? hused).1]
      exact ⟨rfl, rfl⟩
    · rcases hdue with hnone | ⟨other, hother, hold⟩
      · rw [hused] at hnone
        cases hnone
      · obtain rfl := Option.some.inj (hused.symm.trans hother)
        omega
  case failed =>
    intro e he
    rcases hcases with ⟨_, -, -, hserve⟩ | ⟨hdue, ⟨_, -, hserve⟩ | ⟨_, -, -, hentries⟩⟩
    · rw [hserve] at he
      cases he
    · rw [hserve] at he
      cases he
    · refine ⟨by rw [afterCalls_concat, hentries], ?_⟩
      rintro between next rest rfl hnext hbetween
      have hle : call.now.ticks ≤ next.now.ticks :=
        (List.pairwise_cons.1 (List.pairwise_append.1 hsorted).2.1).1 next (by simp)
      have hfew' : FewKeys (before ++ call :: between) := by
        rw [← List.cons_append, ← List.append_assoc] at hfew
        exact hfew.subset (List.subset_append_left ..)
      exact (asks_iff_isDue hfew' next).2 (isDue_of_failure hdue he hbetween hnext hle)
  case unavailable =>
    intro e he
    rcases hcases with ⟨_, -, -, hserve⟩ | ⟨-, ⟨_, -, hserve⟩ | ⟨cause, hcause, hserve, -⟩⟩
    · rw [hserve] at he
      cases he
    · rw [hserve] at he
      cases he
    · rw [hserve] at he
      obtain rfl := Except.error.inj he
      exact ⟨cause, hcause, unavailable_cases call.keyId cause⟩

def newest : Eviction where
  keep entries := entries.take capacity
  keep_eq_self _ := List.take_of_length_le

def bareHandle (keyId : String) : KeyHandle where
  keyId
  wrap _ dataKey := .ok dataKey
  unwrap := .ok

def bareService (up : Bool) : KeyService where
  handle keyId := if up then .ok (bareHandle keyId) else .error (.invalidKeyMaterial "offline")

/-- A service is there for a while. Times are in nanoseconds. -/
def outage : List HandleCall :=
  [⟨⟨0, 0⟩, "k", bareService false⟩, ⟨⟨0, 1⟩, "k", bareService true⟩,
    ⟨⟨0, 5⟩, "j", bareService true⟩, ⟨⟨0, 9⟩, "k", bareService false⟩,
    ⟨⟨0, 19⟩, "k", bareService false⟩, ⟨⟨0, 21⟩, "j", bareService false⟩,
    ⟨⟨0, 22⟩, "k", bareService true⟩]

/-- With a time to live of ten, the handle built at one serves the call at nine during the outage. It
has expired at nineteen, that call fails, and the one at twenty-two asks again. -/
theorem follows_history_outage :
    FewKeys outage ∧ (outage.Pairwise fun a b => a.now.ticks ≤ b.now.ticks) ∧
    ((afterCalls newest { idle := 10 } (outage.take 3)).serve newest
      ⟨⟨0, 9⟩, "k", bareService false⟩).1 = .ok (bareHandle "k") ∧
    (afterCalls newest { idle := 10 } (outage.take 4)).Asks newest
      ⟨⟨0, 19⟩, "k", bareService false⟩ ∧
    ((afterCalls newest { idle := 10 } (outage.take 4)).serve newest
      ⟨⟨0, 19⟩, "k", bareService false⟩).1 =
        .error (.backendUnavailable "k" "invalid key material: offline") ∧
    (afterCalls newest { idle := 10 } (outage.take 6)).Asks newest
      ⟨⟨0, 22⟩, "k", bareService true⟩ := by
  have hfew : FewKeys outage := by
    unfold FewKeys
    decide
  have hsorted : outage.Pairwise fun a b => a.now.ticks ≤ b.now.ticks := by
    simp [outage, Instant.ticks]
  have hhit : Follows newest 10 (outage.take 3) ⟨⟨0, 9⟩, "k", bareService false⟩ (outage.drop 4) :=
    follows_history newest 10 hfew hsorted
  have hmiss : Follows newest 10 (outage.take 4) ⟨⟨0, 19⟩, "k", bareService false⟩
      (outage.drop 5) :=
    follows_history newest 10 hfew hsorted
  obtain ⟨hanswer, -⟩ := hhit.reused ⟨"k", bareHandle "k", ⟨0, 1⟩⟩ rfl (by decide)
  have hasks := hmiss.asks_iff.2 (.inr ⟨⟨"k", bareHandle "k", ⟨0, 9⟩⟩, rfl, by decide⟩)
  have hfailure : ((afterCalls newest { idle := 10 } (outage.take 4)).serve newest
      ⟨⟨0, 19⟩, "k", bareService false⟩).1 =
        .error (.backendUnavailable "k" "invalid key material: offline") := rfl
  obtain ⟨-, hnext⟩ := hmiss.failed _ hfailure
  exact ⟨hfew, hsorted, hanswer, hasks, hfailure,
    hnext [⟨⟨0, 21⟩, "j", bareService false⟩] _ [] rfl rfl (by simp)⟩

/-- At nineteen the handle was last used ten nanoseconds ago, which is not more than the time to
live, and yet the service is asked. -/
theorem asks_at_time_to_live :
    lastUse? (replies newest { idle := 10 } (outage.take 4)) "k" =
      some ⟨"k", bareHandle "k", ⟨0, 9⟩⟩ ∧
    (afterCalls newest { idle := 10 } (outage.take 4)).Asks newest
      ⟨⟨0, 19⟩, "k", bareService false⟩ ∧
    ¬((afterCalls newest { idle := 10 } (outage.take 4)).Asks newest
        ⟨⟨0, 19⟩, "k", bareService false⟩ ↔
      lastUse? (replies newest { idle := 10 } (outage.take 4)) "k" = none ∨
        ∃ used, lastUse? (replies newest { idle := 10 } (outage.take 4)) "k" = some used ∧
          used.lastUse.ticks + 10 < Instant.ticks ⟨0, 19⟩) := by
  have hused : lastUse? (replies newest { idle := 10 } (outage.take 4)) "k" =
      some ⟨"k", bareHandle "k", ⟨0, 9⟩⟩ := rfl
  have hasks : (afterCalls newest { idle := 10 } (outage.take 4)).Asks newest
      ⟨⟨0, 19⟩, "k", bareService false⟩ := by
    unfold Asks
    decide
  refine ⟨hused, hasks, fun h => ?_⟩
  rcases h.1 hasks with hnone | ⟨used, hlast, holder⟩
  · rw [hused] at hnone
    cases hnone
  · obtain rfl := Option.some.inj (hused.symm.trans hlast)
    exact absurd holder (by decide)

end CipherCache
end SealingProxy
