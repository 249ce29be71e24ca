import SealingProxy.Proofs.MultipartRoundTrip
import SealingProxy.Proofs.SidecarLaws
import SealingProxy.Proofs.UploadHooks
/-! # What a forwarded upload stores

The service reads the body of an upload by the media type it comes with. It finds the sealed object
and a resource that names the key, if no delimiter line is in the sealed object. An upload that kept
the part headers of the client needs more: written anew, none of them may be a delimiter line. -/

namespace SealingProxy

namespace MultipartBody
open Delimiter

/-- The parts can be written again with another object: no header line comes out as a delimiter
line, and the numbers of the resource can be read. -/
structure IsRewritable (body : MultipartBody) : Prop where
  metadataLines : ∀ e ∈ body.metadataHeaders.entries,
    ¬IsLine (ofBoundary body.boundary) (PartHeaders.line e)
  payloadLines : ∀ e ∈ body.payloadHeaders.entries,
    ¬IsLine (ofBoundary body.boundary) (PartHeaders.line e)
  numbers : ∀ n ∈ (Json.object body.metadata).numbers, n.IsReadable

/-- What holds of every body that was read. -/
theorem of_parse_ok {bytes : Bytes} {contentType : String} {body : MultipartBody}
    (h : parse bytes contentType = .ok body) :
    Boundary.ofContentType contentType = .ok body.boundary ∧
      Json.Fits 0 (.object body.metadata) ∧
      (∀ e ∈ body.metadataHeaders.entries, PartHeaders.IsWritable e) ∧
      ∀ e ∈ body.payloadHeaders.entries, PartHeaders.IsWritable e := by
  unfold parse at h
  split at h
  · cases h
  · next boundary hboundary =>
    split at h
    · cases h
    · next first second _ =>
      split at h
      · cases h
      · next metadata hmetadata =>
        obtain rfl := Except.ok.inj h
        refine ⟨hboundary, ?_, Part.isWritable_of_mem_read first, Part.isWritable_of_mem_read second⟩
        unfold readMetadata at hmetadata
        split at hmetadata
        · cases hmetadata
        · next hread =>
          cases hmetadata
          exact Json.fits_of_read? hread
        · cases hmetadata
    · cases h

/-- A boundary in a visible media type has no line breaks. -/
theorem not_mem_ofBoundary_of_isVisible {contentType b : String}
    (hv : Headers.IsVisible contentType) (h : Boundary.ofContentType contentType = .ok b) :
    13 ∉ ofBoundary b ∧ 10 ∉ ofBoundary b := by
  have hnot (c : Char) (hc : c ∉ contentType.toList) (hq : c ≠ '"') : c ∉ b.toList :=
    fun hm => (Boundary.mem_of_ofContentType h hm).elim hc hq
  constructor
  · exact not_mem_ofBoundary (c := '\r') (by decide) (by decide)
      (hnot _ (hv.not_mem (by decide) (by decide)) (by decide))
  · exact not_mem_ofBoundary (c := '\n') (by decide) (by decide)
      (hnot _ (hv.not_mem (by decide) (by decide)) (by decide))

end MultipartBody

namespace Request

def boundary? (r : Request) : Option String :=
  (r.header? .contentType).bind fun t => (Boundary.ofContentType t).toOption

/-- Read by its media type, the body of the request holds the content and names the key. -/
def Stores (r : Request) (content : Bytes) (keyId : String) : Prop :=
  ∃ contentType stored, r.header? .contentType = some contentType ∧
    MultipartBody.parse r.body contentType = .ok stored ∧ stored.payload = content ∧
    Sidecar.recordedKey? stored.metadata = some keyId

end Request

namespace Hooks
open Delimiter

theorem boundary?_sealMultipart {r : Request} {contentType : String} {body : MultipartBody}
    (hct : r.header? .contentType = some contentType)
    (hparse : MultipartBody.parse r.body contentType = .ok body) (sidecar : Sidecar)
    (ciphertext : Bytes) :
    (sealMultipart r body sidecar ciphertext).boundary? = some body.boundary := by
  rw [Request.boundary?, header?_sealMultipart_contentType, hct, Option.bind_some,
    (MultipartBody.of_parse_ok hparse).1]
  rfl

theorem stores_sealMultipart {r : Request} {contentType : String} {body : MultipartBody}
    (hct : r.header? .contentType = some contentType)
    (hparse : MultipartBody.parse r.body contentType = .ok body) (hbody : body.IsRewritable)
    (sidecar : Sidecar) {ciphertext : Bytes}
    (hc : ¬HasLine (ofBoundary body.boundary) ciphertext) :
    (sealMultipart r body sidecar ciphertext).Stores ciphertext sidecar.keyId := by
  obtain ⟨hboundary, hfits, hmetadata, hpayload⟩ := MultipartBody.of_parse_ok hparse
  obtain ⟨h13, h10⟩ := MultipartBody.not_mem_ofBoundary_of_isVisible
    (Headers.isVisible_of_get? hct) hboundary
  have hnumbers : ∀ n ∈ (Json.object (sidecar.writeInto body.metadata)).numbers, n.IsReadable :=
    fun n hn => hbody.numbers n (Sidecar.mem_numbers_writeInto hn)
  have hread := MultipartBody.parse_write hboundary h13 h10 hnumbers
    (Sidecar.fits_writeInto sidecar hfits) ⟨hmetadata, hbody.metadataLines⟩
    ⟨hpayload, hbody.payloadLines⟩ hc
  exact ⟨contentType, _, (header?_sealMultipart_contentType ..).trans hct, hread, rfl,
    Sidecar.recordedKey?_writeInto ..⟩

theorem isVisible_objectContentType (r : Request) : Headers.IsVisible (objectContentType r) := by
  have hdefault : Headers.IsVisible defaultContentType := by decide
  unfold objectContentType
  split
  · next h =>
    split
    · exact hdefault
    · exact Headers.isVisible_of_get? h
  · exact hdefault

theorem boundary?_composeUpload (r : Request) (number : Nat) (bucket name : String)
    (sidecar : Sidecar) (ciphertext : Bytes) :
    (composeUpload r (Boundary.ofNumber number) bucket name sidecar ciphertext).boundary? =
      some (Boundary.ofNumber number) := by
  rw [Request.boundary?, header?_composeUpload_contentType, Option.bind_some,
    Boundary.ofContentType_contentType (Boundary.isPlain_ofNumber number)]
  rfl

/-- The headers of a composed part can be written, whatever its media type. -/
theorem isWritableAt_of_visible {b : String} {entries : List (String × String)}
    (hn : ∀ e ∈ entries, e.1 = "Content-Type" ∨ e.1 = "MIME-Version" ∨
      e.1 = "Content-Transfer-Encoding") (hv : ∀ e ∈ entries, Headers.IsVisible e.2) :
    PartHeaders.IsWritableAt (ofBoundary b) ⟨entries⟩ := by
  constructor
  · intro e he
    have hvalue : '\n' ∉ e.2.toList := (hv e he).not_mem (by decide) (by decide)
    rcases hn e he with h | h | h
    all_goals exact ⟨by rw [h]; decide, by rw [h]; decide, hvalue⟩
  · intro e he
    rcases hn e he with h | h | h
    · exact PartHeaders.not_isLine_of_ne_dash (c := 'C') (by rw [h]; rfl) (by decide)
    · exact PartHeaders.not_isLine_of_ne_dash (c := 'M') (by rw [h]; rfl) (by decide)
    · exact PartHeaders.not_isLine_of_ne_dash (c := 'C') (by rw [h]; rfl) (by decide)

theorem stores_composeUpload (r : Request) (number : Nat) (bucket name : String)
    (sidecar : Sidecar) {ciphertext : Bytes}
    (hc : ¬HasLine (ofBoundary (Boundary.ofNumber number)) ciphertext) :
    (composeUpload r (Boundary.ofNumber number) bucket name sidecar ciphertext).Stores ciphertext
      sidecar.keyId := by
  have hplain := Boundary.isPlain_ofNumber number
  obtain ⟨h13, h10⟩ := MultipartBody.not_mem_ofBoundary_of_isPlain hplain
  have hstrings : ∀ m ∈ [("bucket", Json.string bucket), ("contentType",
      .string (objectContentType r)), ("name", .string name)], ∃ s, m.2 = .string s := by
    simp
  have hfits := Sidecar.fits_writeInto sidecar (Json.fits_of_strings (by simp) hstrings)
  have hnumbers : ∀ n ∈ (Json.object (sidecar.writeInto [("bucket", Json.string bucket),
      ("contentType", .string (objectContentType r)), ("name", .string name)])).numbers,
      n.IsReadable :=
    fun n hn => absurd (Sidecar.mem_numbers_writeInto hn)
      (Json.not_mem_numbers_of_strings hstrings n)
  have hmetadata : PartHeaders.IsWritableAt (ofBoundary (Boundary.ofNumber number))
      ⟨[("Content-Type", "application/json"), ("MIME-Version", "1.0")]⟩ :=
    isWritableAt_of_visible (by simp) (by decide)
  have hpayload : PartHeaders.IsWritableAt (ofBoundary (Boundary.ofNumber number))
      ⟨[("Content-Type", objectContentType r), ("MIME-Version", "1.0"),
        ("Content-Transfer-Encoding", "binary")]⟩ := by
    refine isWritableAt_of_visible (by simp) fun e he => ?_
    rcases List.mem_cons.1 he with rfl | he
    · exact isVisible_objectContentType r
    · have hrest : ∀ e ∈ [("MIME-Version", "1.0"), ("Content-Transfer-Encoding", "binary")],
          Headers.IsVisible e.2 := by decide
      exact hrest e he
  have hread := MultipartBody.parse_write (Boundary.ofContentType_contentType hplain) h13 h10
    hnumbers hfits hmetadata hpayload hc
  exact ⟨_, _, header?_composeUpload_contentType .., hread, rfl, Sidecar.recordedKey?_writeInto ..⟩

end Hooks
end SealingProxy
