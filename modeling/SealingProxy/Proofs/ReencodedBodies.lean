import SealingProxy.Proofs.FlushHeaders
import SealingProxy.Proofs.LineGrammar
/-! # Bodies written anew

A body that was read is written in a form of its own: its lines end alike, and its headers are spaced
alike and state true lengths. Written once more it is the same. It reads back as it was, up to those
lengths, unless one of its headers is written as a delimiter line. That takes a boundary with a colon,
or one that was read with a replacement character. -/

namespace SealingProxy

namespace PartHeaders

@[simp] theorem stateLength_stateLength (length : Nat) (e : String × String) :
    stateLength length (stateLength length e) = stateLength length e := by
  unfold stateLength
  dsimp only
  split <;> rfl

theorem IsPlain.stateLength {e : String × String} (h : IsPlain e) (length : Nat) :
    IsPlain (stateLength length e) := by
  have hw := h.isWritable.stateLength length
  refine ⟨hw.trimmedName, ?_, hw.singleName, hw.singleValue, h.noColon⟩
  unfold PartHeaders.stateLength
  dsimp only
  split
  · rw [Decimal.toList_text]
    exact Decimal.trim_write length
  · exact h.trimmedValue

def restated (length : Nat) (h : PartHeaders) : PartHeaders :=
  ⟨h.entries.map (stateLength length)⟩

theorem block_restated (length : Nat) (h : PartHeaders) :
    (h.restated length).block length = h.block length := by
  rw [block, block, restated, List.map_map]
  simp [Function.comp_def]

theorem reread_eq_restated {h : PartHeaders} (hplain : ∀ e ∈ h.entries, IsPlain e)
    (length : Nat) : h.reread length = h.restated length := by
  refine read_lines fun e he => ?_
  obtain ⟨f, hf, rfl⟩ := List.mem_map.1 he
  exact (hplain f hf).stateLength length

end PartHeaders

namespace MultipartBody
open Bytes Delimiter

/-- The body with the true lengths in its headers. -/
def restated (r : MultipartBody) : MultipartBody where
  boundary := r.boundary
  metadata := r.metadata
  metadataHeaders := r.metadataHeaders.restated (Json.object r.metadata).write.length
  payload := r.payload
  payloadHeaders := r.payloadHeaders.restated r.payload.length

/-- True lengths change nothing in what is written. -/
theorem write_restated (r : MultipartBody) : r.restated.write = r.write := by
  have hpart (h : PartHeaders) (content : Bytes) :
      part (h.restated content.length) content = part h content := by
    rw [part, PartHeaders.block_restated, part]
  rw [write_eq, write_eq]
  simp only [restated, hpart]

/-- No header is written as a delimiter line. -/
def KeepsLines (r : MultipartBody) : Prop :=
  ∀ e ∈ r.metadataHeaders.entries ++ r.payloadHeaders.entries,
    ¬IsLine (ofBoundary r.boundary) (PartHeaders.line e)

def HasFlushHeaders (boundary : String) (body : Bytes) : Prop :=
  ∀ ps, parts (ofBoundary boundary) body = .ok ps → ∀ p ∈ ps, Part.IsFlush p

theorem exists_parts_of_parse {body : Bytes} {contentType : String} {r : MultipartBody}
    (h : parse body contentType = .ok r) :
    Boundary.ofContentType contentType = .ok r.boundary ∧ ∃ first second,
      parts (ofBoundary r.boundary) body = .ok [first, second] ∧
      readMetadata (Part.read first).2 = .ok r.metadata ∧
      (Part.read first).1 = r.metadataHeaders ∧ (Part.read second).1 = r.payloadHeaders := by
  unfold parse at h
  split at h
  · cases h
  · next boundary hboundary =>
    split at h
    · cases h
    · next first second hparts =>
      split at h
      · cases h
      · next metadata hmetadata =>
        obtain rfl := Except.ok.inj h
        exact ⟨hboundary, first, second, hparts, hmetadata, rfl, rfl⟩
    · cases h

theorem fits_of_readMetadata {content : Bytes} {m : Resource} (h : readMetadata content = .ok m) :
    Json.Fits 0 (.object m) := by
  unfold readMetadata at h
  split at h
  · cases h
  · next hread =>
    obtain rfl := Except.ok.inj h
    exact Json.fits_of_read? hread
  · cases h

/-! ## Where a header becomes a delimiter line -/

section Lines

variable {d : Bytes} (h13 : 13 ∉ d) (h10 : 10 ∉ d)
include h13 h10

/-- The search passes lines that are no delimiter lines. -/
theorem find?_flatMap {ls : List Bytes} (h : ∀ l ∈ ls, lineFeed ∉ l ∧ ¬IsLine d l) (t : Bytes) :
    find? d (ls.flatMap (· ++ [13, 10]) ++ t) = find? d t := by
  induction ls with
  | nil => rfl
  | cons l ls ih =>
    obtain ⟨⟨hl, hline⟩, hls⟩ := List.forall_mem_cons.1 h
    have hnone : ¬HasLine d l := by rwa [hasLine_iff_of_not_mem hl]
    rw [List.flatMap_cons, List.append_assoc, List.append_assoc,
      find?_append_of_not_hasLine h13 h10 isLineEnd_crlf hnone]
    exact ih hls

end Lines

/-- Header lines without the line break behind them are not ended by a blank line. -/
theorem content?_dropLineEnd {ls : List Bytes} (h : ∀ l ∈ ls, Part.IsFieldLine l) :
    Part.content? (dropLineEnd (ls.flatMap (· ++ [13, 10]))) = none := by
  rcases List.eq_nil_or_concat ls with rfl | ⟨init, l, rfl⟩
  · decide +kernel
  · rw [List.concat_eq_append] at h ⊢
    rw [List.flatMap_append, List.flatMap_cons, List.flatMap_nil, List.append_nil,
      ← List.append_assoc, dropLineEnd_append_crlf,
      Part.content?_flatMap fun k hk => h k (List.mem_append_left _ hk)]
    exact Part.content?_of_isFieldLine (h l (by simp))

/-- The first of the lines that is a delimiter line. -/
theorem exists_first_line {d : Bytes} {ls : List Bytes} (h : ∃ l ∈ ls, IsLine d l) :
    ∃ passed l after, ls = passed ++ l :: after ∧ (∀ k ∈ passed, ¬IsLine d k) ∧ IsLine d l := by
  obtain ⟨l, hl, hline⟩ := h
  have hsome : (ls.find? (isAt d)).isSome := List.find?_isSome.2 ⟨l, hl, isAt_iff.2 hline⟩
  obtain ⟨first, hfirst⟩ := Option.isSome_iff_exists.1 hsome
  obtain ⟨hat, passed, after, rfl, hpassed⟩ := List.find?_eq_some_iff_append.1 hfirst
  refine ⟨passed, first, after, rfl, fun k hk hkline => ?_, isAt_iff.1 hat⟩
  have hk := hpassed k hk
  rw [isAt_iff.2 hkline] at hk
  cases hk

/-- Lines of which one is a delimiter line are cut before the first such line. -/
theorem partsFrom_flatMap {d : Bytes} (h13 : 13 ∉ d) (h10 : 10 ∉ d) {ls : List Bytes}
    (hls : ∀ l ∈ ls, lineFeed ∉ l) (hbad : ∃ l ∈ ls, IsLine d l) (t : Bytes) :
    ∃ passed ⊆ ls, ∃ next, partsFrom d (d ++ ([13, 10] ++ (ls.flatMap (· ++ [13, 10]) ++ t))) =
      (partsFrom d next).map (dropLineEnd (passed.flatMap (· ++ [13, 10])) :: ·) := by
  obtain ⟨passed, l, after, rfl, hpassed, hline⟩ := exists_first_line hbad
  have hnext : (passed ++ l :: after).flatMap (· ++ [13, 10]) ++ t =
      passed.flatMap (· ++ [13, 10]) ++
        (l ++ ([13, 10] ++ (after.flatMap (· ++ [13, 10]) ++ t))) := by
    simp
  have hfind : find? d ((passed ++ l :: after).flatMap (· ++ [13, 10]) ++ t) =
      some (l ++ ([13, 10] ++ (after.flatMap (· ++ [13, 10]) ++ t))) := by
    rw [hnext, find?_flatMap h13 h10 fun k hk => ⟨hls k (by simp [hk]), hpassed k hk⟩]
    exact find?_of_isLine ((isLine_append_lineEnd_iff h13 h10 isLineEnd_crlf _ _).2 hline)
  have hafter (x : Bytes) : afterLine ((d ++ ([13, 10] ++ x)).drop d.length) = some x := by
    rw [List.drop_left]
    exact isLineEnd_crlf.afterLine_append List.not_mem_nil x
  refine ⟨passed, List.subset_append_left ..,
    l ++ ([13, 10] ++ (after.flatMap (· ++ [13, 10]) ++ t)), ?_⟩
  rw [partsFrom_of_find? (by simp [isClosing]) (hafter _) hfind, hnext, before_append]

/-- A part with a header that is written as a delimiter line is cut before it, and so loses its
headers. -/
theorem exists_headless_part {b : String} (h13 : 13 ∉ ofBoundary b) (h10 : 10 ∉ ofBoundary b)
    {h : PartHeaders} (hw : ∀ e ∈ h.entries, PartHeaders.IsWritable e)
    (hbad : ∃ e ∈ h.entries, IsLine (ofBoundary b) (PartHeaders.line e)) {content rest : Bytes}
    {ps : List Bytes}
    (hps : partsFrom (ofBoundary b) (ofBoundary b ++ ([13, 10] ++ (part h content ++ rest))) =
      .ok ps) : ∃ p qs, ps = p :: qs ∧ (Part.read p).1 = {} := by
  have hfield : ∀ l ∈ (h.entries.map (PartHeaders.stateLength content.length)).map PartHeaders.line,
      Part.IsFieldLine l := by
    intro l hl
    obtain ⟨e, he, rfl⟩ := List.mem_map.1 hl
    obtain ⟨f, hf, rfl⟩ := List.mem_map.1 he
    exact PartHeaders.isFieldLine_line ((hw f hf).stateLength _)
  have hline : ∃ l ∈ (h.entries.map (PartHeaders.stateLength content.length)).map PartHeaders.line,
      IsLine (ofBoundary b) l := by
    obtain ⟨e, he, hline⟩ := hbad
    have hstated : PartHeaders.stateLength content.length e = e := by
      have hname := mt PartHeaders.not_isLine_of_sameLetters (not_not_intro hline)
      simp [PartHeaders.stateLength, hname]
    exact ⟨_, List.mem_map_of_mem (hstated ▸ List.mem_map_of_mem he), hline⟩
  rw [part, PartHeaders.block, List.append_assoc] at hps
  obtain ⟨passed, hpassed, next, hcut⟩ := partsFrom_flatMap h13 h10 (fun l hl => (hfield l hl).1)
    hline ([13, 10] ++ content ++ rest)
  rw [hcut] at hps
  cases hnext : partsFrom (ofBoundary b) next with
  | error e =>
    rw [hnext] at hps
    cases hps
  | ok qs =>
    rw [hnext] at hps
    refine ⟨_, qs, (Except.ok.inj hps).symm, ?_⟩
    rw [Part.read, content?_dropLineEnd fun l hl => hfield l (hpassed hl)]

/-- A body that reads back with its headers has none that is written as a delimiter line. -/
theorem keepsLines_of_headers {r sent : MultipartBody} {contentType : String}
    (hboundary : Boundary.ofContentType contentType = .ok r.boundary)
    (h13 : 13 ∉ ofBoundary r.boundary) (h10 : 10 ∉ ofBoundary r.boundary)
    (hmh : ∀ e ∈ r.metadataHeaders.entries, PartHeaders.IsWritable e)
    (hph : ∀ e ∈ r.payloadHeaders.entries, PartHeaders.IsWritable e)
    (h : parse r.write contentType = .ok sent) {m n : Nat}
    (hsentMetadata : sent.metadataHeaders = r.metadataHeaders.restated m)
    (hsentPayload : sent.payloadHeaders = r.payloadHeaders.restated n) : r.KeepsLines := by
  obtain ⟨hsent, first, second, hparts, -, hfirst, hsecond⟩ := exists_parts_of_parse h
  rw [hsentMetadata] at hfirst
  rw [hsentPayload] at hsecond
  have hfind : find? (ofBoundary r.boundary) r.write = some r.write :=
    find?_of_isLine ⟨_, write_eq r, .inr (.inr ⟨13, by simp, by simp⟩)⟩
  obtain hsame : r.boundary = sent.boundary := Except.ok.inj (hboundary.symm.trans hsent)
  rw [← hsame, parts, hfind] at hparts
  dsimp only at hparts
  rw [write_eq] at hparts
  have hstated {length : Nat} {e : String × String} {headers : PartHeaders}
      (he : e ∈ headers.entries) : headers.restated length ≠ {} := by
    intro hnone
    have hentries := congrArg PartHeaders.entries hnone
    rw [PartHeaders.restated, List.map_eq_nil_iff] at hentries
    rw [hentries] at he
    cases he
  have hmetadata : ∀ e ∈ r.metadataHeaders.entries,
      ¬IsLine (ofBoundary r.boundary) (PartHeaders.line e) := by
    intro e he hline
    obtain ⟨p, qs, hps, hempty⟩ := exists_headless_part h13 h10 hmh ⟨e, he, hline⟩ hparts
    obtain ⟨rfl, -⟩ := List.cons.inj hps
    exact hstated he (hfirst.symm.trans hempty)
  intro e he hline
  rcases List.mem_append.1 he with he | he
  · exact hmetadata e he hline
  · have hpart := not_hasLine_part h13 h10 ⟨hmh, hmetadata⟩ (not_hasLine_write_object r.metadata)
    rw [partsFrom_part h13 h10 hpart (.inr (.inr ⟨13, by simp, by simp⟩))] at hparts
    cases hrest : partsFrom (ofBoundary r.boundary) (ofBoundary r.boundary ++ ([13, 10] ++
        (part r.payloadHeaders r.payload ++ ([13, 10] ++
          (ofBoundary r.boundary ++ 45 :: 45 :: [13, 10]))))) with
    | error error =>
      rw [hrest] at hparts
      cases hparts
    | ok ps =>
      rw [hrest] at hparts
      obtain ⟨p, qs, rfl, hempty⟩ := exists_headless_part h13 h10 hph ⟨e, he, hline⟩ hrest
      obtain ⟨rfl, -⟩ := List.cons.inj (List.cons.inj (Except.ok.inj hparts)).2
      exact hstated he (hsecond.symm.trans hempty)

theorem keepsLines_of_parse_write {r : MultipartBody} (hb : Boundary.IsPlain r.boundary)
    (hmh : ∀ e ∈ r.metadataHeaders.entries, PartHeaders.IsWritable e)
    (hph : ∀ e ∈ r.payloadHeaders.entries, PartHeaders.IsWritable e)
    (h : parse r.write (Boundary.contentType r.boundary) = .ok r.restated) : r.KeepsLines := by
  obtain ⟨h13, h10⟩ := not_mem_ofBoundary_of_isPlain hb
  exact keepsLines_of_headers (Boundary.ofContentType_contentType hb) h13 h10 hmh hph h rfl rfl

/-- What becomes of a body that is written and read again: it is the same up to the lengths that its
headers state exactly if none of its headers is written as a delimiter line. -/
theorem parse_write_restated_iff {body : Bytes} {contentType : String} {r : MultipartBody}
    (h : parse body contentType = .ok r) (hreturn : '\r' ∉ contentType.toList)
    (hfeed : '\n' ∉ contentType.toList) (hflush : HasFlushHeaders r.boundary body)
    (hwhole : (Json.object r.metadata).HasWholeNumbers) :
    (parse r.write (Boundary.contentType r.boundary) = .ok r.restated ↔ r.KeepsLines) ∧
    r.restated.write = r.write ∧
    (':' ∉ r.boundary.toList → '\uFFFD' ∉ r.boundary.toList → r.KeepsLines) := by
  obtain ⟨hboundary, first, second, hparts, hmetadata, hfirst, hsecond⟩ := exists_parts_of_parse h
  have hplain := Boundary.isPlain_of_ofContentType hboundary hreturn hfeed
  obtain ⟨h13, h10⟩ := not_mem_ofBoundary_of_isPlain hplain
  have hnone := not_hasLine_of_parts (ofBoundary_ne_nil _) h13 h10 hparts
  have hfirstFlush : Part.IsFlush first := hflush _ hparts first (by simp)
  have hsecondFlush : Part.IsFlush second := hflush _ hparts second (by simp)
  have hmetadataPlain := hfirstFlush.isPlain
  have hpayloadPlain := hsecondFlush.isPlain
  rw [hfirst] at hmetadataPlain
  rw [hsecond] at hpayloadPlain
  refine ⟨⟨fun hread => ?_, fun hkeeps => ?_⟩, write_restated r, fun hcolon hreadable e he => ?_⟩
  · exact keepsLines_of_parse_write hplain (fun e he => (hmetadataPlain e he).isWritable)
      (fun e he => (hpayloadPlain e he).isWritable) hread
  · have hn : ∀ n ∈ (Json.object r.metadata).numbers, n.IsReadable := by
      intro n hn
      obtain ⟨k, hk, rfl⟩ := hwhole n hn
      exact JsonNumber.isReadable_whole k hk
    have hmh : r.metadataHeaders.IsWritableAt (ofBoundary r.boundary) :=
      ⟨fun e he => (hmetadataPlain e he).isWritable,
        fun e he => hkeeps e (List.mem_append_left _ he)⟩
    have hph : r.payloadHeaders.IsWritableAt (ofBoundary r.boundary) :=
      ⟨fun e he => (hpayloadPlain e he).isWritable,
        fun e he => hkeeps e (List.mem_append_right _ he)⟩
    have hwritten := parse_write (Boundary.ofContentType_contentType hplain) h13 h10 hn
      (fits_of_readMetadata hmetadata) hmh hph (not_hasLine_of_parse h13 h10 h)
    rw [Json.rereadMembers_of_whole _ hwhole, PartHeaders.reread_eq_restated hmetadataPlain,
      PartHeaders.reread_eq_restated hpayloadPlain] at hwritten
    exact hwritten
  · rcases List.mem_append.1 he with he | he
    · rw [← hfirst] at he
      exact hfirstFlush.not_isLine h13 h10 (hnone first (by simp)) hcolon hreadable e he
    · rw [← hsecond] at he
      exact hsecondFlush.not_isLine h13 h10 (hnone second (by simp)) hcolon hreadable e he

def catWith (boundary : String) (headers : PartHeaders) : MultipartBody where
  boundary
  metadata := [("name", .string "cat.jpg")]
  metadataHeaders := headers
  payload := utf8 "meow"
  payloadHeaders := {}

theorem hasWholeNumbers_catWith (boundary : String) (headers : PartHeaders) :
    (Json.object (catWith boundary headers).metadata).HasWholeNumbers := by
  intro n hn
  simp [catWith, Json.numbers, Json.memberNumbers] at hn

theorem hasFlushHeaders_of_parts {boundary : String} {body first second : Bytes}
    (hparts : parts (ofBoundary boundary) body = .ok [first, second]) (hfirst : Part.IsFlush first)
    (hsecond : Part.IsFlush second) : HasFlushHeaders boundary body := by
  intro ps hps
  obtain rfl := Except.ok.inj (hparts.symm.trans hps)
  simp [hfirst, hsecond]

/-- Bare line feeds, text before the parts, a space before a colon, and a wrong length. -/
def looseCat : Bytes :=
  utf8 "hello\n--b\nContent-Length : 99\n\n\x7b\"name\":\"cat.jpg\"\x7d\n--b\r\n\r\nmeow\n--b--"

/-- It reads back, with the length that the resource has. -/
theorem parse_write_restated_loose :
    parse looseCat "multipart/related; boundary='b'" =
      .ok (catWith "b" ⟨[("Content-Length", "99")]⟩) ∧
    parse (catWith "b" ⟨[("Content-Length", "99")]⟩).write (Boundary.contentType "b") =
      .ok (catWith "b" ⟨[("Content-Length", "18")]⟩) := by
  have hparse : parse looseCat "multipart/related; boundary='b'" =
      .ok (catWith "b" ⟨[("Content-Length", "99")]⟩) := by with_unfolding_all rfl
  have hparts : parts (ofBoundary "b") looseCat =
      .ok [utf8 "Content-Length : 99\n\n\x7b\"name\":\"cat.jpg\"\x7d", utf8 "\r\nmeow"] := by
    with_unfolding_all rfl
  have hflush : HasFlushHeaders "b" looseCat :=
    hasFlushHeaders_of_parts hparts
      (Part.isFlush_of_headerBlock (s := "Content-Length : 99\n") (by with_unfolding_all rfl)
        (by decide))
      (Part.isFlush_of_headerBlock (s := "") (by with_unfolding_all rfl) (by decide))
  obtain ⟨hread, -, hkeeps⟩ := parse_write_restated_iff hparse (by decide) (by decide) hflush
    (hasWholeNumbers_catWith _ _)
  exact ⟨hparse, hread.2 (hkeeps (by decide) (by decide))⟩

/-- A space before the colon of a header keeps the header from being a delimiter line. -/
def spacedCat : Bytes :=
  utf8 "--b:\r\n--b : v\r\n\r\n\x7b\"name\":\"cat.jpg\"\x7d\r\n--b:\r\n\r\nmeow\r\n--b:--\r\n"

/-- It is written without that space, and then the body falls into three parts. -/
theorem parse_write_ne_of_spaced_colon :
    parse spacedCat "multipart/related; boundary=\"b:\"" = .ok (catWith "b:" ⟨[("--b", "v")]⟩) ∧
    HasFlushHeaders "b:" spacedCat ∧
    (Json.object (catWith "b:" ⟨[("--b", "v")]⟩).metadata).HasWholeNumbers ∧
    parse (catWith "b:" ⟨[("--b", "v")]⟩).write (Boundary.contentType "b:") =
      .error (.partCount 3) := by
  have hparts : parts (ofBoundary "b:") spacedCat =
      .ok [utf8 "--b : v\r\n\r\n\x7b\"name\":\"cat.jpg\"\x7d", utf8 "\r\nmeow"] := by
    with_unfolding_all rfl
  have hflush : HasFlushHeaders "b:" spacedCat :=
    hasFlushHeaders_of_parts hparts
      (Part.isFlush_of_headerBlock (s := "--b : v\r\n") (by with_unfolding_all rfl) (by decide))
      (Part.isFlush_of_headerBlock (s := "") (by with_unfolding_all rfl) (by decide))
  exact ⟨by with_unfolding_all rfl, hflush, hasWholeNumbers_catWith _ _,
    by with_unfolding_all rfl⟩

end MultipartBody
end SealingProxy
