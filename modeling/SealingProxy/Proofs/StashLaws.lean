import SealingProxy.Proofs.UploadHooks
/-! # What the stash hides

Under four names, which are never forwarded, the request half of an exchange leaves facts for the
response half. Without what stands under these names an exchange is what the service and the client
see of it. Sealing an object changes that part by the sealed object and the sidecar alone: neither
the stash nor the body that was received passes into it. -/

namespace SealingProxy

variable {σ : Type}

def Request.withoutStash (r : Request) : Request :=
  { r with headers := r.forwardable }

/-- The exchange as it is seen from outside. -/
def Exchange.withoutStash (x : Exchange) : Exchange :=
  { x with request := x.request.withoutStash }

def Outcome.withoutStash (out : Outcome σ) : Outcome σ :=
  { out with exchange := out.exchange.withoutStash }

namespace Request

variable {n : HeaderName}

@[simp] theorem forwardable_withoutStash (r : Request) :
    r.withoutStash.forwardable = r.forwardable :=
  Headers.eraseAll_eraseAll_self r.headers HeaderName.stash

@[simp] theorem withoutStash_withoutStash (r : Request) :
    r.withoutStash.withoutStash = r.withoutStash :=
  congrArg (fun h => { r with headers := h }) (forwardable_withoutStash r)

theorem header?_withoutStash (hn : n ∉ HeaderName.stash) (r : Request) :
    r.withoutStash.header? n = r.header? n :=
  Headers.get?_eraseAll hn r.headers

theorem withoutStash_setBody (r : Request) (body : Bytes) :
    (r.setBody body).withoutStash = r.withoutStash.setBody body :=
  congrArg (fun h => { r with headers := h, body })
    (Headers.eraseAll_insert_of_not_mem (by decide) r.headers _)

end Request

@[simp] theorem Exchange.withoutStash_withoutStash (x : Exchange) :
    x.withoutStash.withoutStash = x.withoutStash :=
  congrArg (fun r => { x with request := r }) x.request.withoutStash_withoutStash

namespace Text.Base64

/-- A character of the alphabet, or the one that pads. -/
theorem mem_encode {s : Bytes} {c : Char} (h : c ∈ encode s) : c ∈ '=' :: alphabet := by
  have hdigit (v : UInt8) : digit v ∈ '=' :: alphabet := by
    have hall : ∀ n < 64, alphabet.getD n '=' ∈ '=' :: alphabet := by decide +kernel
    exact hall _ (Nat.mod_lt _ (by decide))
  have hpad : '=' ∈ '=' :: alphabet := List.mem_cons_self
  induction s using encode.induct with
  | case1 => exact absurd h List.not_mem_nil
  | case2 a =>
    simp only [encode, List.mem_cons, List.not_mem_nil, or_false] at h
    rcases h with rfl | rfl | rfl | rfl
    · exact hdigit _
    · exact hdigit _
    · exact hpad
    · exact hpad
  | case3 a b =>
    simp only [encode, List.mem_cons, List.not_mem_nil, or_false] at h
    rcases h with rfl | rfl | rfl | rfl
    · exact hdigit _
    · exact hdigit _
    · exact hdigit _
    · exact hpad
  | case4 a b c s ih =>
    simp only [encode, List.mem_cons] at h
    rcases h with rfl | rfl | rfl | rfl | h
    · exact hdigit _
    · exact hdigit _
    · exact hdigit _
    · exact hdigit _
    · exact ih h

end Text.Base64

theorem isVisible_contentMd5 (content : Bytes) : Headers.IsVisible (contentMd5 content) := by
  apply Headers.isVisible_of_forall_mem
  intro c hc
  rw [contentMd5, String.toList_ofList] at hc
  have hall : ('=' :: Text.Base64.alphabet).all fun c => 32 ≤ c.toNat && c.toNat < 127 := by
    decide +kernel
  simpa using List.all_eq_true.1 hall c (Text.Base64.mem_encode hc)

namespace Hooks

theorem withoutStash_stashFacts (r : Request) (bodyLength : Nat) (sidecar : Sidecar) :
    (stashFacts r bodyLength sidecar).withoutStash = r.withoutStash := by
  unfold stashFacts Request.withoutStash Request.forwardable
  dsimp only
  rw [Headers.eraseAll_set_of_mem (by decide), Headers.eraseAll_set_of_mem (by decide),
    Headers.eraseAll_set_of_mem (by decide)]

theorem header?_stashFacts (r : Request) (bodyLength : Nat) (content body : Bytes)
    (keyId version : String) :
    ((stashFacts r bodyLength (Sidecar.ofPlaintext content keyId version)).setBody body).header?
        .stashedSize = some (Decimal.text content.length) ∧
      ((stashFacts r bodyLength (Sidecar.ofPlaintext content keyId version)).setBody body).header?
        .stashedMd5 = some (contentMd5 content) := by
  unfold stashFacts Request.setBody Request.header? Sidecar.ofPlaintext
  dsimp only
  constructor
  · rw [Headers.get?_eq_some_iff, Headers.values_insert_of_ne (by decide),
      Headers.values_set_of_ne (by decide), Headers.values_set_self (isVisible_text _)]
    exact ⟨isVisible_text _, rfl⟩
  · rw [Headers.get?_eq_some_iff, Headers.values_insert_of_ne (by decide),
      Headers.values_set_self (isVisible_contentMd5 content)]
    exact ⟨isVisible_contentMd5 content, rfl⟩

theorem withoutStash_sealMultipart (r : Request) (received : Bytes) (body : MultipartBody)
    (sidecar : Sidecar) (ciphertext : Bytes) :
    (sealMultipart { r.withoutStash with body := received } body sidecar
      ciphertext).withoutStash = (sealMultipart r body sidecar ciphertext).withoutStash := by
  unfold sealMultipart
  rw [Request.withoutStash_setBody, Request.withoutStash_setBody, withoutStash_stashFacts,
    withoutStash_stashFacts]
  exact congrArg (fun q => Request.setBody { q with body := received } _)
    r.withoutStash_withoutStash

theorem objectContentType_withoutStash (r : Request) (received : Bytes) :
    objectContentType { r.withoutStash with body := received } = objectContentType r := by
  have h : Request.header? { r.withoutStash with body := received } .contentType =
      r.header? .contentType := r.header?_withoutStash (by decide)
  rw [objectContentType, h, objectContentType]

/-- Neither the stash nor the body that was received matters. -/
theorem withoutStash_composeUpload (r : Request) (received : Bytes)
    (boundary bucket name : String) (sidecar : Sidecar) (ciphertext : Bytes) :
    (composeUpload { r.withoutStash with body := received } boundary bucket name sidecar
      ciphertext).withoutStash =
        (composeUpload r boundary bucket name sidecar ciphertext).withoutStash := by
  have herase (h : Headers) : (((h.eraseAll bodyHeaders).set .contentType
      (Boundary.contentType boundary)).set .accept "application/json").eraseAll HeaderName.stash =
      (((h.eraseAll HeaderName.stash).eraseAll bodyHeaders).set .contentType
        (Boundary.contentType boundary)).set .accept "application/json" := by
    rw [Headers.eraseAll_set_of_not_mem (by decide), Headers.eraseAll_set_of_not_mem (by decide),
      Headers.eraseAll_comm]
  unfold composeUpload
  dsimp only
  rw [Request.withoutStash_setBody, Request.withoutStash_setBody, withoutStash_stashFacts,
    withoutStash_stashFacts, objectContentType_withoutStash]
  unfold Request.withoutStash Request.forwardable
  dsimp only
  rw [herase, herase, Headers.eraseAll_eraseAll_self]
  rfl

theorem withoutStash_addressTo (session : Session) (r : Request) :
    (addressTo session r).withoutStash = addressTo session r.withoutStash := by
  have herase (t : String) : (r.headers.set .contentType t).eraseAll HeaderName.stash =
      r.forwardable.set .contentType t :=
    Headers.eraseAll_set_of_not_mem (by decide) r.headers t
  unfold addressTo
  rw [r.header?_withoutStash (by decide)]
  unfold Request.withoutStash Request.forwardable
  dsimp only
  split
  · split
    · rw [herase]
      rfl
    · rfl
  · rfl

end Hooks
end SealingProxy
