import SealingProxy.Json.Reader
import SealingProxy.Proofs.FieldLaws
import SealingProxy.Proofs.JsonValues
import SealingProxy.Proofs.Utf8
/-! # Written JSON read back

A value whose objects name each member once and which nests at most 127 containers is read back
from its octets, its numbers as they reread. Whatever is read has these two properties, so that it
can be written and read again. -/

namespace SealingProxy

namespace Json

open JsonToken

/-- The tokens `ts` are read from the characters of `us`, whatever follows them. -/
private def ReadFrom (ts us : List JsonToken) : Prop :=
  ∀ rest, EndsNumber rest →
    JsonToken.read? (us.flatMap JsonToken.text ++ rest) = (JsonToken.read? rest).map (ts ++ ·)

private theorem ReadFrom.append {ts us ts' us' : List JsonToken} (h : ReadFrom ts us)
    (h' : ReadFrom ts' us') (hends : ∀ rest, EndsNumber rest →
      EndsNumber (us'.flatMap JsonToken.text ++ rest)) : ReadFrom (ts ++ ts') (us ++ us') := by
  intro rest hrest
  rw [List.flatMap_append, List.append_assoc, h _ (hends rest hrest), h' rest hrest,
    Option.map_map]
  simp [Function.comp_def]

private theorem readFrom_token {t : JsonToken} (h : t.IsReadable) : ReadFrom [t.reread] [t] := by
  intro rest hrest
  have ht : t.EndsToken rest := by
    cases t <;> first | exact hrest | trivial
  rw [List.flatMap_singleton, read?_text h ht]
  rfl

/-- A token that is no number, before other tokens. -/
private theorem ReadFrom.cons (t : JsonToken) (ht : ∀ n, t ≠ .number n) {ts us : List JsonToken}
    (h : ReadFrom ts us) : ReadFrom (t :: ts) (t :: us) := by
  have hread : t.IsReadable ∧ t.reread = t ∧ ∀ rest, t.EndsToken rest := by
    cases t with
    | number n => exact absurd rfl (ht n)
    | _ => exact ⟨trivial, rfl, fun _ => trivial⟩
  intro rest hrest
  rw [List.flatMap_cons, List.append_assoc, read?_text hread.1 (hread.2.2 _), h rest hrest,
    hread.2.1, Option.map_map]
  rfl

private theorem ReadFrom.close {t : JsonToken} (ht : t = .closeArray ∨ t = .closeObject)
    {ts us : List JsonToken} (h : ReadFrom ts us) : ReadFrom (ts ++ [t]) (us ++ [t]) := by
  rcases ht with rfl | rfl
  · exact h.append (readFrom_token (t := .closeArray) trivial) fun rest _ => endsNumber_bracket rest
  · exact h.append (readFrom_token (t := .closeObject) trivial) fun rest _ => endsNumber_brace rest

private theorem ReadFrom.comma {ts us ts' us' : List JsonToken} (h : ReadFrom ts us)
    (h' : ReadFrom ts' us') : ReadFrom (ts ++ .comma :: ts') (us ++ .comma :: us') :=
  h.append (h'.cons .comma (by simp)) fun _ _ => endsNumber_comma _

mutual

/-- The tokens of a value are read from its characters. -/
private theorem readFrom_tokens : (v : Json) → (∀ n ∈ v.numbers, n.IsReadable) →
    ReadFrom v.reread.tokens v.tokens
  | null, _ => readFrom_token (t := .null) trivial
  | bool b, _ => readFrom_token (t := .bool b) trivial
  | string s, _ => readFrom_token (t := .string s) trivial
  | number n, h => readFrom_token (t := .number n) (h n (by simp [numbers]))
  | array items, h => by
    rw [Json.reread, tokens, tokens]
    exact ((readFrom_itemTokens items h).close (.inl rfl)).cons .openArray (by simp)
  | object members, h => by
    rw [Json.reread, tokens, tokens]
    exact ((readFrom_memberTokens members h).close (.inr rfl)).cons .openObject (by simp)

private theorem readFrom_itemTokens : (vs : List Json) → (∀ n ∈ itemNumbers vs, n.IsReadable) →
    ReadFrom (itemTokens (rereadItems vs)) (itemTokens vs)
  | [], _ => fun rest _ => by simp [itemTokens, rereadItems]
  | [v], h => readFrom_tokens v fun n hn => h n (by simp [itemNumbers, hn])
  | v :: w :: vs, h =>
    (readFrom_tokens v fun n hn => h n (List.mem_append_left _ hn)).comma
      (readFrom_itemTokens (w :: vs) fun n hn => h n (List.mem_append_right _ hn))

private theorem readFrom_memberTokens : (ms : List (String × Json)) →
    (∀ n ∈ memberNumbers ms, n.IsReadable) →
    ReadFrom (memberTokens (rereadMembers ms)) (memberTokens ms)
  | [], _ => fun rest _ => by simp [memberTokens, rereadMembers]
  | [(n, v)], h =>
    ((readFrom_tokens v fun n hn => h n (by simp [memberNumbers, hn])).cons .colon (by simp)).cons
      (.string n) (by simp)
  | (n, v) :: m :: ms, h =>
    (((readFrom_tokens v fun n hn => h n (List.mem_append_left _ hn)).comma
      (readFrom_memberTokens (m :: ms) fun n hn => h n (List.mem_append_right _ hn))).cons
        .colon (by simp)).cons (.string n) (by simp)

end

theorem read?_chars {v : Json} (h : ∀ n ∈ v.numbers, n.IsReadable) :
    JsonToken.read? v.chars = some v.reread.tokens := by
  have := readFrom_tokens v h [] endsNumber_nil
  simpa [chars, JsonToken.read?] using this

/-! ## The reader on the tokens of a value -/

theorem tokens_eq_cons (v : Json) : ∃ t ts, v.tokens = t :: ts ∧ t ≠ .closeArray := by
  cases v <;> exact ⟨_, _, rfl, by simp⟩

theorem itemTokens_eq_cons (v : Json) (vs : List Json) :
    ∃ t ts, itemTokens (v :: vs) = t :: ts ∧ t ≠ .closeArray := by
  obtain ⟨t, ts, hv, ht⟩ := tokens_eq_cons v
  cases vs with
  | nil => exact ⟨t, ts, hv, ht⟩
  | cons w vs => exact ⟨t, _, by rw [itemTokens, hv]; rfl, ht⟩

theorem memberTokens_eq_cons (m : String × Json) (ms : List (String × Json)) :
    ∃ ts, memberTokens (m :: ms) = .string m.1 :: ts := by
  obtain ⟨n, v⟩ := m
  cases ms with
  | nil => exact ⟨_, rfl⟩
  | cons m ms => exact ⟨_, rfl⟩

namespace Reader

theorem run_append {rules : Rules} {r : Reader} {ts us : List JsonToken} :
    run rules r (ts ++ us) = (run rules r ts).bind (run rules · us) := by
  induction ts generalizing r with
  | nil => rfl
  | cons t ts ih =>
    rw [List.cons_append, run, run, Option.bind_assoc]
    exact congrArg _ (funext fun _ => ih)

/-- The first item of an array is read like any other. -/
theorem run_firstItem {rules : Rules} {t : JsonToken} (ht : t ≠ .closeArray) (fs : List Frame)
    (ts : List JsonToken) :
    run rules (.firstItem fs) (t :: ts) = run rules (.value (.array [] :: fs)) (t :: ts) := by
  cases t <;> first | rfl | exact absurd rfl ht

/-- A member whose name is new goes behind the others, and containers nest as they do by default. -/
structure Rules.Appends (rules : Rules) : Prop where
  add : ∀ {ms : Fields Json} {n : String}, (∀ m ∈ ms, m.1 ≠ n) →
    ∀ v, rules.add ms n v = ms ++ [(n, v)]
  maxOpen : rules.maxOpen = 127

theorem Rules.appends_default : Rules.Appends {} :=
  ⟨Fields.insert_of_not_mem, rfl⟩

theorem Rules.appends_repeated :
    Rules.Appends { add := fun members n v => members ++ [(n, v)] } :=
  ⟨fun _ _ => rfl, rfl⟩

variable {rules : Rules}

private theorem deliver_fresh (hrules : rules.Appends) {acc ms : Fields Json} {n : String} {v : Json}
    (h : ((acc ++ (n, v) :: ms).map (·.1)).Nodup) (fs : List Frame) :
    deliver rules v (.object acc n :: fs) = .afterMember (acc ++ [(n, v)]) fs := by
  have hfresh : ∀ m ∈ acc, m.1 ≠ n := by
    intro m hm
    rw [List.map_append, List.nodup_append] at h
    exact h.2.2 _ (List.mem_map_of_mem hm) _ (by simp)
  exact congrArg (Reader.afterMember · fs) (hrules.add hfresh v)

mutual

/-- The tokens of a value deliver it. -/
private theorem run_tokens (hrules : rules.Appends) : (v : Json) → HasDistinctNames v → (fs : List Frame) →
    depth v + fs.length ≤ 127 → run rules (.value fs) v.tokens = some (deliver rules v fs)
  | null, _, _, _ | bool _, _, _, _ | number _, _, _, _ | string _, _, _, _ => rfl
  | array [], _, fs, hd => by
    have hfs : fs.length < 127 := by rw [depth] at hd; omega
    simp [tokens, itemTokens, run, step, start, hrules.maxOpen, hfs]
  | array (v :: vs), h, fs, hd => by
    rw [depth] at hd
    have hfs : fs.length < 127 := by omega
    have hitems := run_itemTokens hrules (v :: vs) (by simp) h [] fs (by omega)
    obtain ⟨t, ts, hts, ht⟩ := itemTokens_eq_cons v vs
    rw [hts] at hitems
    have hopen : step rules (.value fs) .openArray = some (.firstItem fs) := by
      simp [step, start, hrules.maxOpen, hfs]
    rw [tokens, run, hopen, Option.bind_some, run_append, hts, run_firstItem ht, hitems]
    simp [run, step]
  | object [], _, fs, hd => by
    have hfs : fs.length < 127 := by rw [depth] at hd; omega
    simp [tokens, memberTokens, run, step, start, hrules.maxOpen, hfs]
  | object (m :: ms), h, fs, hd => by
    rw [depth] at hd
    have hfs : fs.length < 127 := by omega
    have hmembers := run_memberTokens hrules (m :: ms) (by simp) h.2 [] h.1 fs (by omega)
    obtain ⟨ts, hts⟩ := memberTokens_eq_cons m ms
    rw [hts] at hmembers
    have hopen : step rules (.value fs) .openObject = some (.firstName fs) := by
      simp [step, start, hrules.maxOpen, hfs]
    have hfirst : run rules (.firstName fs) (.string m.1 :: ts) =
        run rules (.name [] fs) (.string m.1 :: ts) := rfl
    rw [tokens, run, hopen, Option.bind_some, run_append, hts, hfirst, hmembers]
    simp [run, step]

private theorem run_itemTokens (hrules : rules.Appends) : (vs : List Json) → vs ≠ [] → ItemsHaveDistinctNames vs →
    (xs : List Json) → (fs : List Frame) → itemDepth vs + (fs.length + 1) ≤ 127 →
    run rules (.value (.array xs :: fs)) (itemTokens vs) = some (.afterItem (vs.reverse ++ xs) fs)
  | [], h, _, _, _, _ => absurd rfl h
  | [v], _, h, xs, fs, hd => by
    rw [itemDepth] at hd
    exact run_tokens hrules v h.1 _ (by simp only [List.length_cons]; omega)
  | v :: w :: vs, _, h, xs, fs, hd => by
    rw [itemDepth] at hd
    have hv := run_tokens hrules v h.1 (.array xs :: fs) (by simp only [List.length_cons]; omega)
    have hvs := run_itemTokens hrules (w :: vs) (by simp) h.2 (v :: xs) fs (by omega)
    rw [itemTokens, run_append, hv, Option.bind_some, run]
    change run rules (.value (.array (v :: xs) :: fs)) (itemTokens (w :: vs)) = _
    rw [hvs]
    simp

private theorem run_memberTokens (hrules : rules.Appends) : (ms : List (String × Json)) → ms ≠ [] →
    MembersHaveDistinctNames ms → (acc : Fields Json) → ((acc ++ ms).map (·.1)).Nodup →
    (fs : List Frame) → memberDepth ms + (fs.length + 1) ≤ 127 →
    run rules (.name acc fs) (memberTokens ms) = some (.afterMember (acc ++ ms) fs)
  | [], h, _, _, _, _, _ => absurd rfl h
  | [(n, v)], _, h, acc, hn, fs, hd => by
    rw [memberDepth] at hd
    have hv := run_tokens hrules v h.1 (.object acc n :: fs) (by simp only [List.length_cons]; omega)
    rw [deliver_fresh hrules hn] at hv
    exact hv
  | (n, v) :: m :: ms, _, h, acc, hn, fs, hd => by
    rw [memberDepth] at hd
    have hv := run_tokens hrules v h.1 (.object acc n :: fs) (by simp only [List.length_cons]; omega)
    rw [deliver_fresh hrules hn] at hv
    have hms := run_memberTokens hrules (m :: ms) (by simp) h.2 (acc ++ [(n, v)]) (by simpa using hn) fs
      (by omega)
    change run rules (.value (.object acc n :: fs))
      (tokens v ++ .comma :: memberTokens (m :: ms)) = _
    rw [run_append, hv, Option.bind_some, run]
    change run rules (.name (acc ++ [(n, v)]) fs) (memberTokens (m :: ms)) = _
    rw [hms]
    simp

end

end Reader

/-- A written value is read back, its numbers as they reread. -/
theorem read?_write {v : Json} (hn : ∀ n ∈ v.numbers, n.IsReadable) (hv : v.HasDistinctNames)
    (hd : v.depth ≤ 127) : read? v.write = some v.reread := by
  have hrun := Reader.run_tokens Reader.Rules.appends_default v.reread (hasDistinctNames_reread v hv) []
    (by rw [depth_reread]; exact hd)
  rw [read?, write, Text.Utf8.decode?_encode, Option.bind_some, ofChars?, ofCharsWith?,
    read?_chars hn, Option.bind_some, hrun]
  rfl

/-- Keeping all members makes no difference where none is repeated. -/
theorem readRepeated?_write {v : Json} (hn : ∀ n ∈ v.numbers, n.IsReadable)
    (hv : v.HasDistinctNames) (hd : v.depth ≤ 127) : readRepeated? v.write = some v.reread := by
  have hrun := Reader.run_tokens Reader.Rules.appends_repeated v.reread (hasDistinctNames_reread v hv) []
    (by rw [depth_reread]; exact hd)
  rw [readRepeated?, write, Text.Utf8.decode?_encode, Option.bind_some, ofCharsWith?,
    read?_chars hn, Option.bind_some, hrun]
  rfl

/-! ## What is read -/

/-- The value names members once and may stand within `n` containers. -/
def Fits (n : Nat) (v : Json) : Prop :=
  v.HasDistinctNames ∧ v.depth + n ≤ 127

theorem fits_array {n : Nat} {vs : List Json} (hn : n < 127) (h : ∀ v ∈ vs, Fits (n + 1) v) :
    Fits n (.array vs) := by
  refine ⟨itemsHaveDistinctNames_iff.2 fun v hv => (h v hv).1, ?_⟩
  have hd : itemDepth vs ≤ 126 - n := itemDepth_le_iff.2 fun v hv => by have := (h v hv).2; omega
  rw [depth]
  omega

theorem fits_object {n : Nat} {ms : Fields Json} (hn : n < 127) (hs : (ms.map (·.1)).Nodup)
    (h : ∀ m ∈ ms, Fits (n + 1) m.2) : Fits n (.object ms) := by
  refine ⟨⟨hs, membersHaveDistinctNames_iff.2 fun m hm => (h m hm).1⟩, ?_⟩
  have hd : memberDepth ms ≤ 126 - n :=
    memberDepth_le_iff.2 fun m hm => by have := (h m hm).2; omega
  rw [depth]
  omega

theorem Fits.member {n : Nat} {ms : Fields Json} (h : Fits n (.object ms)) {m : String × Json}
    (hm : m ∈ ms) : Fits (n + 1) m.2 := by
  obtain ⟨⟨-, hs⟩, hd⟩ := h
  rw [depth] at hd
  have hmd := memberDepth_le_iff.1 (Nat.le_refl (memberDepth ms)) m hm
  exact ⟨membersHaveDistinctNames_iff.1 hs m hm, by omega⟩

namespace Reader

def FramesFit : List Frame → Prop
  | [] => True
  | .array xs :: fs => fs.length < 127 ∧ (∀ v ∈ xs, Fits (fs.length + 1) v) ∧ FramesFit fs
  | .object ms _ :: fs =>
    fs.length < 127 ∧ (ms.map (·.1)).Nodup ∧ (∀ m ∈ ms, Fits (fs.length + 1) m.2) ∧ FramesFit fs

/-- Everything read so far fits where it stands. This is the invariant of a run. -/
def IsFit : Reader → Prop
  | .value fs => FramesFit fs
  | .firstItem fs | .firstName fs => fs.length < 127 ∧ FramesFit fs
  | .name ms fs | .colon ms _ fs | .afterMember ms fs => FramesFit (.object ms "" :: fs)
  | .afterItem xs fs => FramesFit (.array xs :: fs)
  | .done v => Fits 0 v

theorem isFit_deliver {v : Json} {fs : List Frame} (hv : Fits fs.length v) (hf : FramesFit fs) :
    IsFit (deliver {} v fs) := by
  match fs, hv, hf with
  | [], hv, _ => exact hv
  | .array xs :: fs, hv, hf =>
    refine ⟨hf.1, ?_, hf.2.2⟩
    intro w hw
    rcases List.mem_cons.1 hw with rfl | hw
    · exact hv
    · exact hf.2.1 w hw
  | .object ms n :: fs, hv, hf =>
    refine ⟨hf.1, Fields.nodup_insert hf.2.1 n v, ?_, hf.2.2.2⟩
    intro m hm
    rcases Fields.mem_insert hm with rfl | hm
    · exact hv
    · exact hf.2.2.1 m hm

private theorem fits_leaf {v : Json} (hv : v.HasDistinctNames) (hd : v.depth = 0)
    {fs : List Frame} (hf : FramesFit fs) : Fits fs.length v := by
  refine ⟨hv, ?_⟩
  rw [hd]
  match fs, hf with
  | [], _ => simp
  | .array _ :: fs, hf => simp only [List.length_cons]; have := hf.1; omega
  | .object _ _ :: fs, hf => simp only [List.length_cons]; have := hf.1; omega

theorem isFit_start {fs : List Frame} {t : JsonToken} {r : Reader} (hf : FramesFit fs)
    (h : start {} fs t = some r) : IsFit r := by
  cases t <;> simp only [start, reduceCtorEq, Option.some.injEq] at h
  case null => exact h ▸ isFit_deliver (fits_leaf (v := .null) trivial rfl hf) hf
  case bool b => exact h ▸ isFit_deliver (fits_leaf (v := .bool b) trivial rfl hf) hf
  case number n => exact h ▸ isFit_deliver (fits_leaf (v := .number n) trivial rfl hf) hf
  case string s => exact h ▸ isFit_deliver (fits_leaf (v := .string s) trivial rfl hf) hf
  case openArray =>
    split at h
    · next hl => cases h; exact ⟨hl, hf⟩
    · cases h
  case openObject =>
    split at h
    · next hl => cases h; exact ⟨hl, hf⟩
    · cases h

/-- One token keeps the invariant. The cases are those of `step`. -/
theorem isFit_step {r r' : Reader} {t : JsonToken} (hr : IsFit r) (h : step {} r t = some r') :
    IsFit r' := by
  unfold step at h
  split at h
  · exact isFit_start hr h
  · cases h
    exact isFit_deliver (fits_array hr.1 (by simp)) hr.2
  · next fs _ =>
    have hf : FramesFit (.array [] :: fs) := ⟨hr.1, by simp, hr.2⟩
    exact isFit_start hf h
  · cases h
    exact isFit_deliver (fits_object hr.1 (by simp) (by simp)) hr.2
  · cases h
    exact ⟨hr.1, by simp, by simp, hr.2⟩
  · cases h
    exact hr
  · cases h
    exact hr
  · cases h
    exact hr
  · cases h
    have hitems := fits_array hr.1 fun v hv => hr.2.1 v (List.mem_reverse.1 hv)
    exact isFit_deliver hitems hr.2.2
  · cases h
    exact hr
  · cases h
    exact isFit_deliver (fits_object hr.1 hr.2.1 hr.2.2.1) hr.2.2.2
  · cases h

theorem isFit_run {r r' : Reader} {ts : List JsonToken} (hr : IsFit r)
    (h : run {} r ts = some r') : IsFit r' := by
  induction ts generalizing r with
  | nil => exact Option.some.inj h ▸ hr
  | cons t ts ih =>
    obtain ⟨q, hq, hrun⟩ := Option.bind_eq_some_iff.1 h
    exact ih (isFit_step hr hq) hrun

end Reader

/-- Whatever is read names members once and nests at most 127 containers. -/
theorem fits_of_read? {s : Bytes} {v : Json} (h : read? s = some v) : Fits 0 v := by
  obtain ⟨cs, -, hcs⟩ := Option.bind_eq_some_iff.1 h
  obtain ⟨r, hr, hres⟩ := Option.bind_eq_some_iff.1 hcs
  obtain ⟨ts, -, hrun⟩ := Option.bind_eq_some_iff.1 hr
  have hfit := Reader.isFit_run (r := .value []) trivial hrun
  cases r <;> simp only [Reader.result?, reduceCtorEq, Option.some.injEq] at hres
  exact hres ▸ hfit

end Json

/-! ## One line -/

namespace JsonNumber

private theorem lineFeed_not_mem_decimal (n : Nat) : '\n' ∉ Decimal.write n :=
  fun h => absurd (Decimal.isDigit_of_mem_write h) (by decide)

private theorem lineFeed_not_mem_layOut {digits : List Char} (h : '\n' ∉ digits) (top : Int) :
    '\n' ∉ layOut digits top := by
  have htake (n : Nat) : '\n' ∉ digits.take n := fun hm => h (List.mem_of_mem_take hm)
  have hdrop (n : Nat) : '\n' ∉ digits.drop n := fun hm => h (List.mem_of_mem_drop hm)
  unfold layOut
  split
  · dsimp only
    split <;> simp [htake, hdrop]
  split
  · simp [h]
  · have hsign : '\n' ≠ if top < 0 then '-' else '+' := by split <;> decide
    simp only [List.mem_append, List.mem_cons, not_or, lineFeed_not_mem_decimal]
    refine ⟨?_, by decide, hsign, not_false⟩
    split
    · simp
    · exact h
    · rw [List.mem_cons, not_or] at h
      simp [h]

theorem lineFeed_not_mem_text (n : JsonNumber) : '\n' ∉ n.text := by
  have hmag (x : Float) : '\n' ∉ magnitudeText x := by
    unfold magnitudeText
    split
    · decide
    · refine lineFeed_not_mem_layOut ?_ _
      intro hm
      rw [dropZeros, List.mem_reverse] at hm
      have := List.mem_reverse.1 ((List.dropWhile_suffix _).subset hm)
      exact lineFeed_not_mem_decimal _ this
  cases n with
  | whole n =>
    rw [text]
    split
    · simp [lineFeed_not_mem_decimal]
    · exact lineFeed_not_mem_decimal _
  | double x =>
    rw [text]
    split
    · simp [hmag]
    · exact hmag x

end JsonNumber

namespace JsonToken

theorem lineFeed_not_mem_writeChar (c : Char) : '\n' ∉ writeChar c := by
  have hdigit : ∀ n < 16, '\n' ≠ Nat.digitChar n := by decide
  unfold writeChar
  split
  · decide
  split
  · decide
  split
  · next h =>
    unfold controlEscape
    split <;> try decide
    simp [hdigit (c.toNat / 16) (by omega), hdigit (c.toNat % 16) (by omega)]
  · next h =>
    rw [List.mem_singleton]
    rintro rfl
    exact h (by decide)

theorem lineFeed_not_mem_text (t : JsonToken) : '\n' ∉ t.text := by
  cases t with
  | number n => exact n.lineFeed_not_mem_text
  | string s => simp [text, lineFeed_not_mem_writeChar]
  | bool b => cases b <;> decide
  | _ => decide

end JsonToken

namespace Json

/-- Written JSON is one line. -/
theorem lineFeed_not_mem_write (v : Json) : Bytes.lineFeed ∉ v.write := by
  refine mt (Text.Utf8.mem_encode_iff (d := '\n') (by decide) v.chars).1 ?_
  simp [chars, JsonToken.lineFeed_not_mem_text]

theorem write_object_eq_cons (ms : List (String × Json)) :
    ∃ t, (object ms).write = 0x7b :: t := by
  rw [write, chars, tokens, List.flatMap_cons, Text.Utf8.encode_append]
  exact ⟨_, rfl⟩

end Json
end SealingProxy
