import SealingProxy.Proofs.ReencodedBodies
import SealingProxy.Proofs.UploadDownload
import SealingProxy.Proofs.UploadedObjects
/-! # Multipart uploads with their object sealed

Sealing a multipart upload changes no more than it has to: of the request, the body and its length;
of the body, the object, the lengths that its headers state, and the custom metadata, to which the
sidecar is added. The body that is forwarded reads back just so, unless one of the headers of its
parts is written as a delimiter line. -/

namespace SealingProxy

/-! ## The resource -/

namespace Sidecar

def names : List String :=
  [lengthName, md5Name, keyName, versionName]

/-- The sidecar was added to custom metadata: it is there, and all the rest is as it was. -/
structure IsAddedTo (s : Sidecar) (before after : Fields Json) : Prop where
  kept : after.filter (!names.contains ·.1) = before.filter (!names.contains ·.1)
  members : ∀ m ∈ s.members, Fields.get? after m.1 = some (.string m.2)
  nodup : (after.map (·.1)).Nodup

theorem isAddedTo_addTo (s : Sidecar) {c : Fields Json} (hc : (c.map (·.1)).Nodup) :
    s.IsAddedTo c (s.addTo c) where
  kept := by
    have hnames : ∀ m ∈ s.members, (!names.contains m.1) = false := by
      simp [members, names]
    exact Fields.filter_foldl_insert (p := fun name => !names.contains name) hnames c
  members m hm := get?_addTo hm c
  nodup := Fields.nodup_foldl_insert hc s.members

/-- The sidecar was written into a resource: it was added to the custom metadata or is all of it,
and the other fields are as they were. -/
structure IsWrittenInto (s : Sidecar) (before after : Resource) : Prop where
  kept : after.filter (·.1 != metadataName) = before.filter (·.1 != metadataName)
  order : after.map (·.1) = if metadataName ∈ before.map (·.1) then before.map (·.1)
    else before.map (·.1) ++ [metadataName]
  added : ∀ c, Fields.get? before metadataName = some (.object c) →
    ∃ c', Fields.get? after metadataName = some (.object c') ∧ s.IsAddedTo c c'
  alone : (∀ c, Fields.get? before metadataName ≠ some (.object c)) →
    Fields.get? after metadataName = some (.object (s.members.map fun m => (m.1, .string m.2)))

theorem custom_eq_nil {r : Resource} (h : ∀ c, Fields.get? r metadataName ≠ some (.object c)) :
    custom r = [] := by
  unfold custom
  split
  · next c hc => exact absurd hc (h c)
  · rfl

theorem isWrittenInto_writeInto (s : Sidecar) {r : Resource}
    (hr : (Json.object r).HasDistinctNames) : s.IsWrittenInto r (s.writeInto r) := by
  have hfound : Fields.get? (s.writeInto r) metadataName = some (.object (s.addTo (custom r))) :=
    Fields.get?_insert_self r metadataName _
  refine ⟨?_, Fields.map_fst_insert r metadataName _, fun c hc => ?_, fun hnone => ?_⟩
  · exact Fields.filter_insert (p := (· != metadataName)) (by simp) r _
  · have hcustom : custom r = c := by rw [custom, hc]
    have hnodup := nodup_custom hr
    rw [hcustom] at hfound hnodup
    exact ⟨_, hfound, s.isAddedTo_addTo hnodup⟩
  · rw [hfound, custom_eq_nil hnone]
    rfl

end Sidecar

/-! ## The body -/

namespace MultipartBody
open Delimiter

def withSealed (m : MultipartBody) (sidecar : Sidecar) (ciphertext : Bytes) : MultipartBody :=
  { m with payload := ciphertext, metadata := sidecar.writeInto m.metadata }

/-- One body is another one with the object sealed and the sidecar in the resource, and with true
lengths in the headers of its parts. -/
structure IsSealingOf (sent m : MultipartBody) (sidecar : Sidecar) (ciphertext : Bytes) :
    Prop where
  boundary : sent.boundary = m.boundary
  metadataHeaders : sent.metadataHeaders =
    m.metadataHeaders.restated (Json.object sent.metadata).write.length
  payloadHeaders : sent.payloadHeaders = m.payloadHeaders.restated ciphertext.length
  payload : sent.payload = ciphertext
  resource : sidecar.IsWrittenInto m.metadata sent.metadata

/-- The headers of a part that was read from flush lines. -/
theorem isPlain_of_parse {body : Bytes} {contentType : String} {m : MultipartBody}
    (h : parse body contentType = .ok m) (hflush : HasFlushHeaders m.boundary body) :
    (∀ e ∈ m.metadataHeaders.entries, PartHeaders.IsPlain e) ∧
      ∀ e ∈ m.payloadHeaders.entries, PartHeaders.IsPlain e := by
  obtain ⟨-, first, second, hparts, -, hfirst, hsecond⟩ := exists_parts_of_parse h
  rw [← hfirst, ← hsecond]
  exact ⟨(hflush _ hparts first (by simp)).isPlain, (hflush _ hparts second (by simp)).isPlain⟩

section Visible

variable {body : Bytes} {contentType : String} {m : MultipartBody}
variable (h : parse body contentType = .ok m) (hvisible : Headers.IsVisible contentType)
variable (hflush : HasFlushHeaders m.boundary body)
include h hvisible hflush

/-- Without a colon in the boundary, no header that was read is written as a delimiter line. -/
theorem keepsLines_of_parse (hcolon : ':' ∉ m.boundary.toList) : m.KeepsLines := by
  obtain ⟨hboundary, first, second, hparts, -, hfirst, hsecond⟩ := exists_parts_of_parse h
  obtain ⟨h13, h10⟩ := not_mem_ofBoundary_of_isVisible hvisible hboundary
  have hnone := not_hasLine_of_parts (ofBoundary_ne_nil _) h13 h10 hparts
  have hlarge : 0x80 ≤ '\uFFFD'.toNat := by decide +kernel
  have hreadable : '\uFFFD' ∉ m.boundary.toList := by
    intro hm
    rcases Boundary.mem_of_ofContentType hboundary hm with hm | hquote
    · exact hvisible.not_mem_of_le hlarge hm
    · exact absurd hquote (by decide)
  have hfirstFlush : Part.IsFlush first := hflush _ hparts first (by simp)
  have hsecondFlush : Part.IsFlush second := hflush _ hparts second (by simp)
  intro e he
  rcases List.mem_append.1 he with he | he
  · rw [← hfirst] at he
    exact hfirstFlush.not_isLine h13 h10 (hnone first (by simp)) hcolon hreadable e he
  · rw [← hsecond] at he
    exact hsecondFlush.not_isLine h13 h10 (hnone second (by simp)) hcolon hreadable e he

/-- The body reads back with its object sealed, exactly if no header is written as a delimiter
line. -/
theorem exists_isSealingOf_iff (hwhole : (Json.object m.metadata).HasWholeNumbers)
    (sidecar : Sidecar) {ciphertext : Bytes}
    (hclean : ¬HasLine (ofBoundary m.boundary) ciphertext) :
    (∃ sent, parse (m.withSealed sidecar ciphertext).write contentType = .ok sent ∧
      sent.IsSealingOf m sidecar ciphertext) ↔ m.KeepsLines := by
  obtain ⟨hboundary, hfits, hmh, hph⟩ := of_parse_ok h
  obtain ⟨h13, h10⟩ := not_mem_ofBoundary_of_isVisible hvisible hboundary
  constructor
  · rintro ⟨sent, hread, hsent⟩
    have hkeeps : (m.withSealed sidecar ciphertext).KeepsLines := keepsLines_of_headers hboundary
      h13 h10 hmh hph hread hsent.metadataHeaders hsent.payloadHeaders
    exact hkeeps
  · intro hkeeps
    obtain ⟨hmetadata, hpayload⟩ := isPlain_of_parse h hflush
    have hwhole' : (Json.object (sidecar.writeInto m.metadata)).HasWholeNumbers :=
      fun n hn => hwhole n (Sidecar.mem_numbers_writeInto hn)
    have hn : ∀ n ∈ (Json.object (sidecar.writeInto m.metadata)).numbers, n.IsReadable := by
      intro n hn
      obtain ⟨k, hk, rfl⟩ := hwhole' n hn
      exact JsonNumber.isReadable_whole k hk
    have hread := parse_write hboundary h13 h10 hn (Sidecar.fits_writeInto sidecar hfits)
      ⟨hmh, fun e he => hkeeps e (List.mem_append_left _ he)⟩
      ⟨hph, fun e he => hkeeps e (List.mem_append_right _ he)⟩ hclean
    rw [Json.rereadMembers_of_whole _ hwhole', PartHeaders.reread_eq_restated hmetadata,
      PartHeaders.reread_eq_restated hpayload] at hread
    exact ⟨_, hread, rfl, rfl, rfl, rfl, sidecar.isWrittenInto_writeInto hfits.1⟩

end Visible

end MultipartBody

/-! ## The request -/

/-- A request is another one with some body, whose length it states, and perhaps another stash. -/
structure Request.SameButBody (sent r : Request) : Prop where
  method : sent.method = r.method
  host : sent.host = r.host
  path : sent.path = r.path
  query : sent.query = r.query
  receivedQuery : sent.receivedQuery = r.receivedQuery
  headers : ∀ n ≠ .contentLength, n ∉ HeaderName.stash →
    sent.headers.values n = r.headers.values n
  contentLength : sent.headers.values .contentLength = [utf8 (Decimal.text sent.body.length)]

namespace Hooks
open MultipartBody Delimiter

variable {σ : Type} {c : Context} {o : Occasion} {s : State σ} {x : Exchange}

theorem sameButBody_sealMultipart (r : Request) (m : MultipartBody) (sidecar : Sidecar)
    (ciphertext : Bytes) : (sealMultipart r m sidecar ciphertext).SameButBody r where
  method := rfl
  host := rfl
  path := rfl
  query := rfl
  receivedQuery := rfl
  headers _ hlength hstash := values_sealMultipart hlength hstash r m sidecar ciphertext
  contentLength := Headers.values_insert_self _ _ _

/-- A multipart upload is forwarded with its object sealed and the sidecar in its resource, and else
as it is. It reads back so exactly if none of the headers of its parts is written as a delimiter
line, as is always so when the boundary holds no colon. -/
theorem multipartRequest_changes_only {contentType : String} {m : MultipartBody}
    (h : (multipartRequest c o s x).result = .ok ())
    (hct : x.request.header? .contentType = some contentType)
    (hm : parse x.request.body contentType = .ok m)
    (hflush : HasFlushHeaders m.boundary x.request.body)
    (hwhole : (Json.object m.metadata).HasWholeNumbers) :
    ∃ keyId ciphertext, readMultipart c x.request = .ok (m, keyId) ∧
      (s.encrypt c o keyId m.payload).1 = .ok ciphertext ∧
      (multipartRequest c o s x).exchange.request.SameButBody x.request ∧
      (multipartRequest c o s x).exchange.request.header? .contentType = some contentType ∧
      (¬HasLine (ofBoundary m.boundary) ciphertext →
        ((∃ sent, parse (multipartRequest c o s x).exchange.request.body contentType = .ok sent ∧
          sent.IsSealingOf m (Sidecar.ofPlaintext m.payload keyId c.version) ciphertext) ↔
            m.KeepsLines)) ∧
      (':' ∉ m.boundary.toList → m.KeepsLines) := by
  obtain ⟨body, keyId, ciphertext, hread, hsealed, hr⟩ := of_multipartRequest_ok h
  have hvisible := Headers.isVisible_of_get? hct
  obtain rfl : m = body := by
    obtain ⟨t, ht, hbody, -⟩ := readMultipart_eq_ok_iff.1 hread
    obtain rfl := Option.some.inj (hct.symm.trans ht)
    exact Except.ok.inj (hm.symm.trans hbody)
  rw [hr]
  exact ⟨keyId, ciphertext, hread, hsealed, sameButBody_sealMultipart x.request m _ ciphertext,
    (header?_sealMultipart_contentType ..).trans hct,
    exists_isSealingOf_iff hm hvisible hflush hwhole _, keepsLines_of_parse hm hvisible hflush⟩

/-! ## Two uploads

Their boundaries differ in the last character alone, and are longer than the envelope of four bytes.
Both have a header that is named like a delimiter without that character. -/

def boundaryStem : String :=
  String.ofList (List.replicate 96 'b')

def stemOctets : Bytes :=
  List.replicate 96 98

def stemPart : Bytes :=
  utf8 "--" ++ stemOctets ++ utf8 " : v\r\nContent-Length: 1\r\n\r\n" ++
    utf8 "\x7b\"name\":\"cat.jpg\",\"metadata\":\x7b\"color\":\"grey\"\x7d\x7d"

def stemBody (mark : String) : Bytes :=
  let delimiter := utf8 "--" ++ (stemOctets ++ utf8 mark)
  delimiter ++ utf8 "\r\n" ++ stemPart ++ utf8 "\r\n" ++ delimiter ++ utf8 "\r\n\r\nmeow\r\n" ++
    delimiter ++ utf8 "--\r\n"

def stemContentType (mark : String) : String :=
  "multipart/related; boundary=\"" ++ boundaryStem ++ mark ++ "\""

def stemRequest (mark : String) : Request :=
  { Request.ofTarget "POST" "storage.googleapis.com"
      "/upload/storage/v1/b/photos/o?uploadType=multipart" with
    headers := ({} : Headers).set .contentType (stemContentType mark)
    body := stemBody mark }

def stemUpload (mark : String) : MultipartBody where
  boundary := boundaryStem ++ mark
  metadata := [("name", .string "cat.jpg"), ("metadata", .object [("color", .string "grey")])]
  metadataHeaders := ⟨[("--" ++ boundaryStem, "v"), ("Content-Length", "1")]⟩
  payload := utf8 "meow"
  payloadHeaders := {}

theorem ofBoundary_stem (mark : String) :
    ofBoundary (boundaryStem ++ mark) = utf8 "--" ++ (stemOctets ++ utf8 mark) := by
  have hascii : ∀ c ∈ List.replicate 96 'b', c.toNat < 0x80 := by
    intro c hc
    rw [List.eq_of_mem_replicate hc]
    decide
  have hoctets : Text.Utf8.encode (List.replicate 96 'b') = stemOctets := by
    rw [Text.encode_eq_map hascii, List.map_replicate]
    rfl
  have hstem : utf8 boundaryStem = stemOctets := (utf8_ofList _).trans hoctets
  have happend : utf8 (boundaryStem ++ mark) = stemOctets ++ utf8 mark :=
    (utf8_append _ _).trans (congrArg (· ++ utf8 mark) hstem)
  exact (utf8_append _ _).trans (congrArg (utf8 "--" ++ ·) happend)

theorem isVisible_boundaryStem : Headers.IsVisible boundaryStem := by
  have hmem : ∀ c ∈ boundaryStem.toList, c = 'b' := by
    intro c hc
    unfold boundaryStem at hc
    rw [String.toList_ofList] at hc
    exact List.eq_of_mem_replicate hc
  refine Headers.isVisible_of_forall_mem fun c hc => ?_
  rw [hmem c hc]
  decide

variable {mark : String} (hmark : mark = ":" ∨ mark = "+")
include hmark

theorem parts_stemBody : parts (ofBoundary (boundaryStem ++ mark)) (stemBody mark) =
    .ok [stemPart, utf8 "\r\nmeow"] := by
  rw [ofBoundary_stem]
  rcases hmark with rfl | rfl <;> decide +kernel

theorem parse_stemBody : parse (stemBody mark) (stemContentType mark) = .ok (stemUpload mark) := by
  have hboundary : Boundary.ofContentType (stemContentType mark) = .ok (boundaryStem ++ mark) := by
    rcases hmark with rfl | rfl <;> decide +kernel
  have hfirst : Part.read stemPart = (⟨[("--" ++ boundaryStem, "v"), ("Content-Length", "1")]⟩,
      utf8 "\x7b\"name\":\"cat.jpg\",\"metadata\":\x7b\"color\":\"grey\"\x7d\x7d") := by
    decide +kernel
  have hsecond : Part.read (utf8 "\r\nmeow") = ({}, utf8 "meow") := by decide +kernel
  have hmetadata : readMetadata
      (utf8 "\x7b\"name\":\"cat.jpg\",\"metadata\":\x7b\"color\":\"grey\"\x7d\x7d") =
        .ok (stemUpload mark).metadata := by
    with_unfolding_all rfl
  rw [parse, hboundary]
  dsimp only
  rw [parts_stemBody hmark]
  dsimp only
  rw [hfirst, hsecond, hmetadata]
  rfl

theorem hasFlushHeaders_stemBody : HasFlushHeaders (boundaryStem ++ mark) (stemBody mark) := by
  refine hasFlushHeaders_of_parts (parts_stemBody hmark) ?_ ?_
  · unfold Part.IsFlush
    decide +kernel
  · unfold Part.IsFlush
    decide +kernel

omit hmark in
theorem hasWholeNumbers_stemUpload (mark : String) :
    (Json.object (stemUpload mark).metadata).HasWholeNumbers := by
  intro n hn
  simp [stemUpload, Json.numbers, Json.memberNumbers] at hn

theorem header?_stemRequest :
    (stemRequest mark).header? .contentType = some (stemContentType mark) := by
  have hvisibleMark : Headers.IsVisible mark := by
    rcases hmark with rfl | rfl <;> decide
  have hvisible : Headers.IsVisible (stemContentType mark) :=
    ((Headers.IsVisible.append (by decide) isVisible_boundaryStem).append hvisibleMark).append (by decide)
  unfold Request.header? stemRequest
  dsimp only
  rw [Headers.get?_set_self hvisible]

theorem readMultipart_stemRequest :
    readMultipart Gateway.photoGateway.engine.context (stemRequest mark) =
      .ok (stemUpload mark, "k") := by
  refine readMultipart_eq_ok_iff.2
    ⟨_, header?_stemRequest hmark, parse_stemBody hmark, ?_⟩
  rcases hmark with rfl | rfl <;> decide +kernel

/-- The object is sealed, and the envelope is too short for a delimiter line. -/
theorem exists_sealed_stem :
    ∃ ciphertext, (Gateway.freshState.encrypt Gateway.photoGateway.engine.context
        Engine.sealingOccasion "k" (utf8 "meow")).1 = .ok ciphertext ∧
      ¬HasLine (ofBoundary (boundaryStem ++ mark)) ciphertext := by
  obtain ⟨ciphertext, hsealed⟩ := Envelope.exists_encrypt_derived .zero "k"
    Engine.isSized_sealingOccasion (utf8 "meow")
  refine ⟨ciphertext, State.encrypt_eq_ok Engine.reaches_freshState.holds
    Engine.handle_photoGateway hsealed, fun hline => ?_⟩
  have hle := hline.length_le
  have hlong : 99 = (ofBoundary (boundaryStem ++ mark)).length := by
    rw [ofBoundary_stem]
    rcases hmark with rfl | rfl <;> rfl
  rw [← hlong, Envelope.length_encrypt_derived Engine.isSized_sealingOccasion hsealed] at hle
  exact absurd hle (by decide)

theorem multipartRequest_stemRequest :
    (multipartRequest Gateway.photoGateway.engine.context Engine.sealingOccasion Gateway.freshState
      { request := stemRequest mark }).result = .ok () := by
  obtain ⟨ciphertext, hsealed, -⟩ := exists_sealed_stem hmark
  exact multipartRequest_eq_ok (readMultipart_stemRequest hmark) hsealed

omit hmark

/-- Without a colon in the boundary, what is forwarded holds the sealed object. -/
theorem multipartRequest_changes_only_stem :
    ∃ ciphertext sent, (Gateway.freshState.encrypt Gateway.photoGateway.engine.context
        Engine.sealingOccasion "k" (utf8 "meow")).1 = .ok ciphertext ∧
      parse (multipartRequest Gateway.photoGateway.engine.context Engine.sealingOccasion
        Gateway.freshState { request := stemRequest "+" }).exchange.request.body
          (stemContentType "+") = .ok sent ∧
      sent.IsSealingOf (stemUpload "+") (Sidecar.ofPlaintext (utf8 "meow") "k" "1") ciphertext := by
  have hmark : "+" = ":" ∨ "+" = "+" := .inr rfl
  have hcolon : ':' ∉ (stemUpload "+").boundary.toList := by decide +kernel
  obtain ⟨keyId, ciphertext, hread, hsealed, -, -, hforwarded, hkeeps⟩ :=
    multipartRequest_changes_only (multipartRequest_stemRequest hmark) (header?_stemRequest hmark)
      (parse_stemBody hmark) (hasFlushHeaders_stemBody hmark) (hasWholeNumbers_stemUpload "+")
  obtain ⟨ciphertext', hsealed', hclean⟩ := exists_sealed_stem hmark
  obtain rfl : "k" = keyId := by
    simpa using (readMultipart_stemRequest hmark).symm.trans hread
  obtain rfl : ciphertext' = ciphertext := Except.ok.inj (hsealed'.symm.trans hsealed)
  obtain ⟨sent, hparse, hsent⟩ := (hforwarded hclean).2 (hkeeps hcolon)
  exact ⟨ciphertext', sent, hsealed, hparse, hsent⟩

/-- With one, a header of the upload is written as a delimiter line, and what is forwarded does not
read as the upload with its object sealed. -/
theorem multipartRequest_not_isSealingOf_stem :
    (multipartRequest Gateway.photoGateway.engine.context Engine.sealingOccasion Gateway.freshState
      { request := stemRequest ":" }).result = .ok () ∧
    (stemRequest ":").header? .contentType = some (stemContentType ":") ∧
    parse (stemRequest ":").body (stemContentType ":") = .ok (stemUpload ":") ∧
    HasFlushHeaders (stemUpload ":").boundary (stemRequest ":").body ∧
    (Json.object (stemUpload ":").metadata).HasWholeNumbers ∧
    ∃ ciphertext, (Gateway.freshState.encrypt Gateway.photoGateway.engine.context
        Engine.sealingOccasion "k" (utf8 "meow")).1 = .ok ciphertext ∧
      ¬HasLine (ofBoundary (stemUpload ":").boundary) ciphertext ∧
      ¬∃ sent, parse (multipartRequest Gateway.photoGateway.engine.context Engine.sealingOccasion
          Gateway.freshState { request := stemRequest ":" }).exchange.request.body
            (stemContentType ":") = .ok sent ∧
        sent.IsSealingOf (stemUpload ":") (Sidecar.ofPlaintext (utf8 "meow") "k" "1")
          ciphertext := by
  have hmark : ":" = ":" ∨ ":" = "+" := .inl rfl
  have hline : IsLine (ofBoundary (boundaryStem ++ ":"))
      (PartHeaders.line ("--" ++ boundaryStem, "v")) := by
    rw [← isAt_iff, ofBoundary_stem]
    decide +kernel
  have hlost : ¬(stemUpload ":").KeepsLines := fun hkeeps => hkeeps _ (by simp [stemUpload]) hline
  have hok := multipartRequest_stemRequest hmark
  obtain ⟨ciphertext, hsealed, hclean⟩ := exists_sealed_stem hmark
  obtain ⟨m, keyId, ciphertext', hread, hsealed', hr⟩ := of_multipartRequest_ok hok
  obtain ⟨rfl, rfl⟩ : stemUpload ":" = m ∧ "k" = keyId := by
    simpa using (readMultipart_stemRequest hmark).symm.trans hread
  obtain rfl : ciphertext' = ciphertext := Except.ok.inj (hsealed'.symm.trans hsealed)
  refine ⟨hok, header?_stemRequest hmark, parse_stemBody hmark, hasFlushHeaders_stemBody hmark,
    hasWholeNumbers_stemUpload ":", ciphertext', hsealed, hclean, fun hsent => hlost ?_⟩
  rw [hr] at hsent
  exact (exists_isSealingOf_iff (parse_stemBody hmark)
    (Headers.isVisible_of_get? (header?_stemRequest hmark)) (hasFlushHeaders_stemBody hmark)
    (hasWholeNumbers_stemUpload ":") _ hclean).1 hsent

end Hooks
end SealingProxy
