import SealingProxy.Multipart.Delimiter
import SealingProxy.Proofs.Decimals
import SealingProxy.Proofs.TextPieces
import SealingProxy.Proofs.Utf8
/-! # Boundaries read back

A media type is written for a boundary by setting it in quotes, and read by cutting at semicolons
and dropping quotes. The boundaries that this leaves as they are, and no others, are read back; every
boundary that any media type names is one of them. Those without line breaks are plain: they make a
delimiter on a line of its own. Boundaries that calls compose are plain. -/

namespace SealingProxy.Boundary
open Text

/-- The boundary stands in a media type as it is, between quotes. -/
structure IsQuotable (boundary : String) : Prop where
  nonempty : boundary.toList ≠ []
  noSemicolon : ';' ∉ boundary.toList
  noSingleQuote : '\'' ∉ boundary.toList
  head : boundary.toList.head? ≠ some '"'
  last : boundary.toList.getLast? ≠ some '"'

/-- The boundary can be written into a media type and makes a delimiter on a line of its own. -/
structure IsPlain (boundary : String) : Prop extends isQuotable : IsQuotable boundary where
  noLineFeed : '\n' ∉ boundary.toList
  noCarriageReturn : '\r' ∉ boundary.toList

theorem unquote_quoted {b : List Char} (hb : b ≠ []) (hh : b.head? ≠ some '"')
    (hl : b.getLast? ≠ some '"') : unquote ('"' :: (b ++ ['"'])) = b := by
  obtain ⟨c, s, rfl⟩ := List.exists_cons_of_ne_nil hb
  have hc : (c == '"') = false := by simpa using hh
  have hlast : ∀ a ∈ (c :: s).getLast?, (a == '"') = false := by
    intro a ha
    rw [beq_eq_false_iff_ne]
    rintro rfl
    exact hl ha
  have hs : List.dropWhile (· == '"') ('"' :: (c :: s ++ ['"'])) = c :: s ++ ['"'] := by
    rw [List.dropWhile_cons_of_pos (by decide), List.cons_append,
      List.dropWhile_cons_of_neg (by simp [hc])]
  rw [unquote, hs, dropEndWhile_append (by simp), dropEndWhile_eq_self hlast]

def parameter (b : String) : List Char :=
  " boundary".toList ++ '=' :: '"' :: (b.toList ++ ['"'])

theorem toList_contentType (b : String) :
    (contentType b).toList = "multipart/related".toList ++ ';' :: parameter b := by
  have hl : "multipart/related; boundary=\"".toList =
      "multipart/related".toList ++ ';' :: (" boundary".toList ++ ['=', '"']) := by decide
  have hq : "\"".toList = ['"'] := by decide
  unfold contentType parameter
  rw [String.toList_append, String.toList_append, hl, hq]
  simp only [List.append_assoc, List.cons_append, List.nil_append]

theorem not_mem_parameter {b : String} {c : Char} (h : c ∉ b.toList)
    (hc : c ∉ " boundary=\"".toList) : c ∉ parameter b := by
  have hl : " boundary=\"".toList = " boundary".toList ++ ['=', '"'] := by decide
  rw [hl] at hc
  unfold parameter
  simp only [List.mem_append, List.mem_cons, List.not_mem_nil, or_false, not_or] at hc ⊢
  exact ⟨hc.1, hc.2.1, hc.2.2, h, hc.2.2⟩

theorem written?_parameter (b : String) :
    written? [parameter b] = some ('"' :: (b.toList ++ ['"'])) := by
  have hname : isBoundaryName " boundary".toList = true := by decide
  have hcut : cut '=' (parameter b) = some (" boundary".toList, '"' :: (b.toList ++ ['"'])) :=
    cut_append_cons (by decide) _
  simp only [written?, List.findSome?_cons, hcut, if_pos hname]

theorem IsQuotable.ofContentType_eq {b : String} (h : IsQuotable b) :
    ofContentType (contentType b) = .ok b := by
  have hquote : '\'' ∉ (contentType b).toList := by
    rw [toList_contentType, List.mem_append, List.mem_cons, not_or, not_or]
    exact ⟨by decide, by decide, not_mem_parameter h.noSingleQuote (by decide)⟩
  have hmap : (contentType b).toList.map (fun c => if c = '\'' then '"' else c) =
      (contentType b).toList := by
    have hc : ∀ c ∈ (contentType b).toList, (if c = '\'' then '"' else c) = id c := by
      intro c hc
      apply if_neg
      rintro rfl
      exact hquote hc
    exact (List.map_congr_left hc).trans (List.map_id _)
  have hparam : ';' ∉ parameter b := not_mem_parameter h.noSemicolon (by decide)
  have hpieces : pieces ';' ((contentType b).toList.map fun c => if c = '\'' then '"' else c) =
      ["multipart/related".toList, parameter b] := by
    rw [hmap, toList_contentType, pieces_append_cons (by decide), pieces_of_not_mem hparam]
  have htrim : trim ('"' :: (b.toList ++ ['"'])) = '"' :: (b.toList ++ ['"']) := by
    have hb : isBlank '"' = false := by decide
    rw [trim_eq_self_iff, ← List.cons_append, List.getLast?_concat]
    exact ⟨fun c hc => Option.some.inj hc ▸ hb, fun c hc => Option.some.inj hc ▸ hb⟩
  have hstart : "multipart/".toList.isPrefixOf ((trim "multipart/related".toList).map Char.toLower)
      = true := by decide
  have hempty : b.toList.isEmpty = false := by simpa using h.nonempty
  unfold ofContentType
  rw [hpieces]
  dsimp only
  rw [List.headD_cons, if_pos hstart, List.tail_cons, written?_parameter]
  dsimp only
  rw [htrim, unquote_quoted h.nonempty h.head h.last, hempty, String.ofList_toList]
  rfl

theorem ofContentType_contentType {b : String} (h : IsPlain b) :
    ofContentType (contentType b) = .ok b :=
  h.isQuotable.ofContentType_eq

theorem mem_of_mem_unquote {value : List Char} {c : Char} (h : c ∈ unquote value) : c ∈ value :=
  (List.dropWhile_suffix _).subset ((dropEndWhile_isPrefix _ _).subset h)

theorem mem_of_written? {params : List (List Char)} {value : List Char}
    (h : written? params = some value) {c : Char} (hc : c ∈ value) : ∃ p ∈ params, c ∈ p := by
  obtain ⟨p, hp, hvalue⟩ := List.exists_of_findSome?_eq_some h
  split at hvalue
  · next name written hcut =>
    split at hvalue
    · obtain rfl := Option.some.inj hvalue
      obtain ⟨rfl, -⟩ := cut_eq_some hcut
      exact ⟨_, hp, by simp [hc]⟩
    · cases hvalue
  · cases hvalue

/-- A boundary is what is left of a written value among the parameters. -/
theorem exists_written_of_ofContentType {contentType b : String}
    (h : ofContentType contentType = .ok b) : ∃ params value,
      params ⊆ pieces ';' (contentType.toList.map fun c => if c = '\'' then '"' else c) ∧
      written? params = some value ∧ b.toList = unquote (trim value) ∧ b.toList ≠ [] := by
  unfold ofContentType at h
  dsimp only at h
  split at h
  · split at h
    · cases h
    · next value hvalue =>
      split at h
      · cases h
      · next hne =>
        obtain rfl := Except.ok.inj h
        rw [String.toList_ofList]
        exact ⟨_, value, fun p hp => List.mem_of_mem_tail hp, hvalue, rfl, by simpa using hne⟩
  · cases h

/-- A character of a boundary stands in the media type, in one of its pieces. -/
theorem exists_piece_of_ofContentType {contentType b : String}
    (h : ofContentType contentType = .ok b) {c : Char} (hc : c ∈ b.toList) :
    ∃ p ∈ pieces ';' (contentType.toList.map fun c => if c = '\'' then '"' else c), c ∈ p := by
  obtain ⟨params, value, hparams, hvalue, hb, -⟩ := exists_written_of_ofContentType h
  rw [hb] at hc
  obtain ⟨p, hp, hm⟩ := mem_of_written? hvalue (mem_of_mem_trim (mem_of_mem_unquote hc))
  exact ⟨p, hparams hp, hm⟩

/-- The characters of a boundary are those of the media type, single quotes apart. -/
theorem mem_of_ofContentType {contentType b : String} (h : ofContentType contentType = .ok b)
    {c : Char} (hc : c ∈ b.toList) : c ∈ contentType.toList ∨ c = '"' := by
  obtain ⟨p, hp, hm⟩ := exists_piece_of_ofContentType h hc
  obtain ⟨a, ha, hac⟩ := List.mem_map.1 (mem_of_mem_pieces hp hm)
  split at hac
  · exact .inr hac.symm
  · exact .inl (hac ▸ ha)

theorem head?_unquote_ne (value : List Char) : (unquote value).head? ≠ some '"' := by
  intro h
  obtain ⟨t, ht⟩ := dropEndWhile_isPrefix (· == '"') (value.dropWhile (· == '"'))
  have hdrop := List.head?_dropWhile_not (· == '"') value
  rw [← ht, List.head?_append, show (dropEndWhile (· == '"') _).head? = some '"' from h] at hdrop
  simp at hdrop

theorem getLast?_unquote_ne (value : List Char) : (unquote value).getLast? ≠ some '"' := by
  intro h
  have hlast := getLast?_dropEndWhile (fun c : Char => c == '"') _ _ h
  simp at hlast

/-- Cutting takes the semicolons out of what is read, and dropping quotes the other marks. -/
theorem isQuotable_of_ofContentType {contentType b : String}
    (h : ofContentType contentType = .ok b) : IsQuotable b := by
  obtain ⟨-, value, -, -, hb, hne⟩ := exists_written_of_ofContentType h
  constructor
  case nonempty => exact hne
  case noSemicolon =>
    intro hm
    obtain ⟨p, hp, hmp⟩ := exists_piece_of_ofContentType h hm
    exact not_mem_of_mem_pieces hp hmp
  case noSingleQuote =>
    intro hm
    obtain ⟨p, hp, hmp⟩ := exists_piece_of_ofContentType h hm
    obtain ⟨a, -, ha⟩ := List.mem_map.1 (mem_of_mem_pieces hp hmp)
    split at ha
    · exact absurd ha (by decide)
    · next hne => exact hne ha
  case head => exact hb ▸ head?_unquote_ne _
  case last => exact hb ▸ getLast?_unquote_ne _

/-- A boundary that is read from a media type without line breaks is plain. -/
theorem isPlain_of_ofContentType {contentType b : String} (h : ofContentType contentType = .ok b)
    (hreturn : '\r' ∉ contentType.toList) (hfeed : '\n' ∉ contentType.toList) : IsPlain b :=
  { isQuotable_of_ofContentType h with
    noLineFeed := fun hm => (mem_of_ofContentType h hm).elim hfeed (by decide)
    noCarriageReturn := fun hm => (mem_of_ofContentType h hm).elim hreturn (by decide) }

/-- A boundary reads back from the media type written for it exactly if it is quotable, which it is
if any media type names it. -/
theorem ofContentType_contentType_eq_ok_iff (b : String) :
    (ofContentType (contentType b) = .ok b ↔ IsQuotable b) ∧
      ∀ named, ofContentType named = .ok b → ofContentType (contentType b) = .ok b := by
  refine ⟨⟨isQuotable_of_ofContentType, IsQuotable.ofContentType_eq⟩, fun named hnamed => ?_⟩
  have hquotable : IsQuotable b := isQuotable_of_ofContentType hnamed
  exact hquotable.ofContentType_eq

/-- A boundary with a quote, an equals sign and a blank at its end, in single quotes. -/
theorem ofContentType_contentType_mixed :
    ofContentType "Multipart/Mixed; a; BOUNDARY = 'a\"=b ' ;" = .ok "a\"=b " ∧
      IsQuotable "a\"=b " ∧ ofContentType (contentType "a\"=b ") = .ok "a\"=b " := by
  obtain ⟨hquotable, hread⟩ := ofContentType_contentType_eq_ok_iff "a\"=b "
  have hnamed : ofContentType "Multipart/Mixed; a; BOUNDARY = 'a\"=b ' ;" = .ok "a\"=b " :=
    rfl
  exact ⟨hnamed, hquotable.1 (hread _ hnamed), hread _ hnamed⟩

theorem toList_ofNumber (n : Nat) :
    (ofNumber n).toList = "===============".toList ++ Decimal.write n ++ ['=', '='] := by
  have hq : "==".toList = ['=', '='] := by decide
  unfold ofNumber
  rw [String.toList_append, String.toList_append, Decimal.toList_text, hq]

theorem isPlain_ofNumber (n : Nat) : IsPlain (ofNumber n) := by
  have hlist := toList_ofNumber n
  have hnot {c : Char} (hc : c ≠ '=' ∧ c.isDigit = false) : c ∉ (ofNumber n).toList := by
    have hd : c ∉ Decimal.write n := fun hm => by
      have := Decimal.isDigit_of_mem_write hm
      rw [hc.2] at this
      cases this
    simp [hlist, hd, hc.1]
  exact
    { nonempty := by simp [hlist]
      noLineFeed := hnot (by decide)
      noCarriageReturn := hnot (by decide)
      noSemicolon := hnot (by decide)
      noSingleQuote := hnot (by decide)
      head := by simp [hlist]
      last := by rw [hlist, List.getLast?_append]; simp }

end SealingProxy.Boundary

namespace SealingProxy.Delimiter

theorem ofBoundary_eq (b : String) :
    ofBoundary b = 45 :: 45 :: Text.Utf8.encode b.toList := by
  rw [ofBoundary, utf8_append]
  rfl

theorem ofBoundary_ne_nil (b : String) : ofBoundary b ≠ [] := by
  simp [ofBoundary_eq]

theorem length_le_ofBoundary (b : String) : b.toList.length ≤ (ofBoundary b).length := by
  have hchar (c : Char) : 1 ≤ (String.utf8EncodeChar c).length :=
    List.length_pos_iff.2 (by simp)
  have hencode (s : List Char) : s.length ≤ (Text.Utf8.encode s).length := by
    induction s with
    | nil => simp
    | cons c s ih =>
      have := hchar c
      rw [Text.Utf8.encode_cons, List.length_append, List.length_cons]
      omega
  have := hencode b.toList
  rw [ofBoundary_eq, List.length_cons, List.length_cons]
  omega

theorem not_mem_ofBoundary {b : String} {c : Char} (hc : c.toNat < 0x80) (hh : c ≠ '-')
    (h : c ∉ b.toList) : UInt8.ofNat c.toNat ∉ ofBoundary b := by
  rw [ofBoundary, utf8, Text.Utf8.mem_encode_iff hc]
  simp [h, hh]

end SealingProxy.Delimiter
