import SealingProxy.Message
import SealingProxy.Proofs.TextPieces
/-! # Targets of requests

As long as its parameters are those it was received with, a request has the target that was
received, character for character. With other parameters the target is written anew. -/

namespace SealingProxy

namespace Text

theorem toList_joined (path query : String) :
    (path ++ "?" ++ query).toList = path.toList ++ '?' :: query.toList := by
  have hmark : "?".toList = ['?'] := by decide
  rw [String.toList_append, String.toList_append, hmark, List.append_assoc]
  rfl

end Text

namespace Request
open Text

/-- The target ends the path at its first question mark. -/
theorem ofTarget_eq {path query : String} (hp : '?' ∉ path.toList) (method host : String) :
    ofTarget method host (path ++ "?" ++ query) =
      { method, host, path, query := Query.parse query, receivedQuery := some query } := by
  unfold ofTarget
  rw [toList_joined, cut_append_cons hp]
  dsimp only
  rw [String.ofList_toList, String.ofList_toList]

/-- The parameters are those in the query text that was received, if there is one. -/
def IsReceived (r : Request) : Prop :=
  ∀ raw, r.receivedQuery = some raw → Query.parse raw = r.query

theorem isReceived_ofTarget (method host target : String) :
    (ofTarget method host target).IsReceived := by
  intro raw hraw
  unfold ofTarget at hraw ⊢
  split at hraw
  · cases hraw
  · exact congrArg Query.parse (Option.some.inj hraw).symm

theorem target_ofTarget (method host target : String) :
    (ofTarget method host target).target = target := by
  unfold ofTarget
  split
  · rfl
  · next path raw hcut =>
    have hjoined : String.ofList path ++ "?" ++ String.ofList raw = target := by
      rw [← String.toList_inj, toList_joined, String.toList_ofList, String.toList_ofList,
        (cut_eq_some hcut).1]
    unfold Request.target
    dsimp only
    rw [if_pos rfl, hjoined]

theorem target_congr {r r' : Request} (hpath : r.path = r'.path) (hquery : r.query = r'.query)
    (hreceived : r.receivedQuery = r'.receivedQuery) : r.target = r'.target := by
  rw [Request.target, Request.target, writtenTarget, writtenTarget, hpath, hquery, hreceived]

theorem target_of_parse_ne {r : Request}
    (h : ∀ raw, r.receivedQuery = some raw → Query.parse raw ≠ r.query) :
    r.target = r.writtenTarget := by
  unfold Request.target
  split
  · next raw hraw => rw [if_neg (h raw hraw)]
  · rfl

end Request
end SealingProxy
