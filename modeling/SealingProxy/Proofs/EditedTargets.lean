import SealingProxy.Proofs.QueryRoundTrip
import SealingProxy.Proofs.RequestTargets
/-! # Targets of edited requests

Whoever gets a request reads in its target the path and the parameters that it holds, in their order
and with their repetitions, however the parameters came about. A target whose parameters are again
those that were received is the one that was received, with whatever escapes it was written. -/

namespace SealingProxy

inductive Query.Use where
  | set (name value : String)
  | erase (name : String)
  | get (name : String)

/-- The parameters after a use. Looking up a name leaves them as they are. -/
def Query.after (q : Query) : Query.Use → Query
  | .set name value => q.set name value
  | .erase name => q.erase name
  | .get _ => q

namespace Request
open Text

def joinedTarget (path : String) (raw : Option String) : String :=
  path ++ raw.elim "" ("?" ++ ·)

def use (r : Request) (u : Query.Use) : Request :=
  { r with query := r.query.after u }

def useAll (r : Request) (uses : List Query.Use) : Request :=
  uses.foldl use r

theorem joinedTarget_none (path : String) : joinedTarget path none = path := by
  rw [joinedTarget, Option.elim_none, String.append_empty]

theorem joinedTarget_some (path raw : String) :
    joinedTarget path (some raw) = path ++ "?" ++ raw := by
  rw [joinedTarget, Option.elim_some, String.append_assoc]

section Reading

variable {path : String}

/-- A path without a question mark is a target without a query. -/
theorem ofTarget_path (hp : '?' ∉ path.toList) (method host : String) :
    ofTarget method host path = { method, host, path } := by
  unfold ofTarget
  split
  · rfl
  · next hcut => exact absurd ((cut_eq_some hcut).1 ▸ List.mem_append_cons_self) hp

theorem ofTarget_joinedTarget (hp : '?' ∉ path.toList) (raw : Option String)
    (method host : String) : ofTarget method host (joinedTarget path raw) =
      { method, host, path, query := raw.elim {} Query.parse, receivedQuery := raw } := by
  cases raw with
  | none => rw [joinedTarget_none, ofTarget_path hp, Option.elim_none]
  | some raw => rw [joinedTarget_some, ofTarget_eq hp, Option.elim_some]

/-- A path that was read ends before the first question mark. -/
theorem not_mem_path_ofTarget (method host target : String) :
    '?' ∉ (ofTarget method host target).path.toList := by
  unfold ofTarget
  split
  · next hcut =>
    intro hm
    obtain ⟨s, t, hst, hs⟩ := List.eq_append_cons_of_mem hm
    rw [hst, cut_append_cons hs] at hcut
    cases hcut
  · next path raw hcut =>
    dsimp only
    rw [String.toList_ofList]
    exact (cut_eq_some hcut).2

variable {r : Request}

theorem target_of_isReceived {raw : String} (hraw : r.receivedQuery = some raw)
    (hquery : Query.parse raw = r.query) : r.target = r.path ++ "?" ++ raw := by
  rw [Request.target, hraw]
  dsimp only
  rw [if_pos hquery]

/-- Parameters that are written anew read back. None at all leave the path alone. -/
theorem ofTarget_writtenTarget (hp : '?' ∉ r.path.toList) (method host : String) :
    (ofTarget method host r.writtenTarget).path = r.path ∧
      (ofTarget method host r.writtenTarget).query = r.query := by
  unfold writtenTarget
  split
  · next hempty =>
    have hnone : r.query = {} := congrArg Query.mk (List.isEmpty_iff.1 hempty)
    rw [ofTarget_path hp, hnone]
    exact ⟨rfl, rfl⟩
  · rw [ofTarget_eq hp, Query.parse_text]
    exact ⟨rfl, rfl⟩

/-- The target of a request reads back, whether it is the one received or written anew. -/
theorem ofTarget_target (hp : '?' ∉ r.path.toList) (method host : String) :
    (ofTarget method host r.target).path = r.path ∧
      (ofTarget method host r.target).query = r.query := by
  by_cases hreceived : ∃ raw, r.receivedQuery = some raw ∧ Query.parse raw = r.query
  · obtain ⟨raw, hraw, hquery⟩ := hreceived
    rw [target_of_isReceived hraw hquery, ofTarget_eq hp]
    exact ⟨rfl, hquery⟩
  · rw [target_of_parse_ne fun raw hraw hquery => hreceived ⟨raw, hraw, hquery⟩]
    exact ofTarget_writtenTarget hp method host

end Reading

/-- Nothing but the parameters changes in the course of uses. The induction is on the uses. -/
theorem useAll_eq (r : Request) (uses : List Query.Use) :
    r.useAll uses = { r with query := uses.foldl Query.after r.query } := by
  induction uses generalizing r with
  | nil => rfl
  | cons u uses ih => exact ih (r.use u)

/-- After any uses of its parameters, the target of a request reads back as its path and the
parameters that it holds by then. When these are those that were received, so is the target. -/
theorem ofTarget_target_useAll {method host path : String} {raw : Option String}
    {received r : Request} {uses : List Query.Use} (hp : '?' ∉ path.toList)
    (hreceived : received = ofTarget method host (joinedTarget path raw))
    (hr : r = received.useAll uses) :
    (ofTarget method host r.target).path = path ∧
      (ofTarget method host r.target).query = r.query ∧
      (r.query = received.query → r.target = joinedTarget path raw) := by
  rw [useAll_eq] at hr
  have hpath : r.path = path := by
    rw [hr, hreceived, ofTarget_joinedTarget hp]
  obtain ⟨hreadPath, hreadQuery⟩ := ofTarget_target (hpath ▸ hp) method host
  refine ⟨hreadPath.trans hpath, hreadQuery, fun hquery => ?_⟩
  -- With the parameters that it came with, the request is the one that was received.
  have hsame : r = received := hr.trans (congrArg (fun q => { received with query := q })
    ((congrArg (·.query) hr).symm.trans hquery))
  rw [hsame, hreceived, target_ofTarget]

/-- A listing with an escape that is not UTF-8, a name without a value and a repeated name. -/
def looseListing : Request :=
  ofTarget "GET" "storage.googleapis.com"
    (joinedTarget "/storage/v1/b/photos/o" (some "bad=%FF&flag&x=1&x=%32"))

theorem ofTarget_target_useAll_loose :
    (ofTarget "GET" "storage.googleapis.com"
        (looseListing.useAll [.set "x" "é &", .get "bad", .erase "flag"]).target).query =
      ⟨[("bad", "\uFFFD"), ("x", "é &")]⟩ ∧
    (looseListing.useAll [.set "y" "", .erase "y"]).target =
      "/storage/v1/b/photos/o?bad=%FF&flag&x=1&x=%32" := by
  have hp : '?' ∉ "/storage/v1/b/photos/o".toList := by decide
  have hreceived : looseListing = ofTarget "GET" "storage.googleapis.com"
    (joinedTarget "/storage/v1/b/photos/o" (some "bad=%FF&flag&x=1&x=%32")) := rfl
  constructor
  · rw [(ofTarget_target_useAll hp hreceived rfl).2.1]
    decide +kernel
  · rw [(ofTarget_target_useAll hp hreceived rfl).2.2 (by decide +kernel)]
    decide +kernel

end Request
end SealingProxy
