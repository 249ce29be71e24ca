import Mathlib.Data.List.Forall2
import SealingProxy.KeyMapping
import SealingProxy.Proofs.FieldLaws
import SealingProxy.Proofs.TextPieces
/-! # What a written mapping means

A mapping is read entry by entry, and the entries are added one after the other. The keys of buckets
can be told from the entries alone: the last entry for every bucket decides, and without one the
last entry for the bucket. No key is empty, and the order of entries for different buckets does not
count. -/

namespace SealingProxy.KeyMapping
open Text

/-! ## One entry -/

/-- The text gives a bucket and a key, neither of them empty, before and after its first colon. -/
def Gives (text : List Char) (entry : Entry) : Prop :=
  ∃ bucket key, text = bucket ++ ':' :: key ∧ ':' ∉ bucket ∧ trim bucket ≠ [] ∧ trim key ≠ [] ∧
    entry = ⟨String.ofList (trim bucket), String.ofList (trim key)⟩

inductive Offends (text : List Char) : MappingError → Prop
  | missingSeparator (hcolon : ':' ∉ text) : Offends text (.missingSeparator (String.ofList text))
  | emptyField {bucket key : List Char} (htext : text = bucket ++ ':' :: key) (hcolon : ':' ∉ bucket)
      (hempty : trim bucket = [] ∨ trim key = []) :
      Offends text (.emptyField (String.ofList text))

variable {text : List Char} {entry : Entry} {e : MappingError}

theorem readEntry_eq_ok_iff : readEntry text = .ok entry ↔ Gives text entry := by
  constructor
  · intro h
    unfold readEntry at h
    split at h
    · cases h
    next bucket key hcut =>
    obtain ⟨htext, hcolon⟩ := cut_eq_some hcut
    split at h
    · cases h
    next hfields =>
    simp only [Bool.or_eq_true, List.isEmpty_iff, not_or] at hfields
    exact ⟨bucket, key, htext, hcolon, hfields.1, hfields.2, (Except.ok.inj h).symm⟩
  · rintro ⟨bucket, key, rfl, hcolon, hbucket, hkey, rfl⟩
    rw [readEntry, cut_append_cons hcolon]
    simp [hbucket, hkey]

theorem readEntry_eq_error_iff : readEntry text = .error e ↔ Offends text e := by
  constructor
  · intro h
    unfold readEntry at h
    split at h
    · next hcut =>
      obtain rfl := Except.error.inj h
      exact .missingSeparator (cut_eq_none_iff.1 hcut)
    next bucket key hcut =>
    obtain ⟨htext, hcolon⟩ := cut_eq_some hcut
    split at h
    · next hempty =>
      obtain rfl := Except.error.inj h
      simp only [Bool.or_eq_true, List.isEmpty_iff] at hempty
      exact .emptyField htext hcolon hempty
    · cases h
  · intro h
    cases h with
    | missingSeparator hcolon => rw [readEntry, cut_of_not_mem hcolon]
    | emptyField htext hcolon hempty =>
      rw [readEntry, cut_eq_some_iff.2 ⟨htext, hcolon⟩]
      rcases hempty with hempty | hempty <;> simp [hempty]

theorem Gives.key_ne (h : Gives text entry) : entry.key ≠ "" := by
  obtain ⟨bucket, key, -, -, -, hkey, rfl⟩ := h
  exact fun hempty => hkey (String.ofList_eq_empty_iff.1 hempty)

/-! ## All entries -/

/-- The induction takes the first entry off. -/
theorem mapM_readEntry_eq_ok_iff {texts : List (List Char)} {entries : List Entry} :
    texts.mapM readEntry = .ok entries ↔ List.Forall₂ Gives texts entries := by
  induction texts generalizing entries with
  | nil =>
    rw [List.mapM_nil, List.forall₂_nil_left_iff]
    exact ⟨fun h => (Except.ok.inj h).symm, fun h => h ▸ rfl⟩
  | cons text texts ih =>
    rw [List.mapM_cons, List.forall₂_cons_left_iff]
    constructor
    · intro h
      cases hentry : readEntry text with
      | error e => rw [hentry] at h; cases h
      | ok entry =>
        cases hrest : texts.mapM readEntry with
        | error e => rw [hentry, hrest] at h; cases h
        | ok rest =>
          rw [hentry, hrest] at h
          exact ⟨entry, rest, readEntry_eq_ok_iff.1 hentry, ih.1 hrest, (Except.ok.inj h).symm⟩
    · rintro ⟨entry, rest, hgives, hrest, rfl⟩
      rw [readEntry_eq_ok_iff.2 hgives, ih.2 hrest]
      rfl

theorem exists_entries_iff {texts : List (List Char)} :
    (∃ entries, List.Forall₂ Gives texts entries) ↔ ∀ text ∈ texts, ∃ entry, Gives text entry := by
  induction texts with
  | nil => simp
  | cons text texts ih =>
    rw [List.forall_mem_cons, ← ih]
    simp only [List.forall₂_cons_left_iff]
    constructor
    · rintro ⟨-, entry, entries, hgives, hrest, rfl⟩
      exact ⟨⟨entry, hgives⟩, entries, hrest⟩
    · rintro ⟨⟨entry, hgives⟩, entries, hrest⟩
      exact ⟨_, entry, entries, hgives, hrest, rfl⟩

theorem key_ne_of_forall₂ {texts : List (List Char)} {entries : List Entry}
    (h : List.Forall₂ Gives texts entries) : ∀ entry ∈ entries, entry.key ≠ "" := by
  induction h with
  | nil => exact fun _ hentry => absurd hentry List.not_mem_nil
  | cons hgives _ ih => exact List.forall_mem_cons.2 ⟨hgives.key_ne, ih⟩

/-- The reading ends at the first text that is no entry. -/
theorem mapM_readEntry_eq_error_iff {texts : List (List Char)} :
    texts.mapM readEntry = .error e ↔ ∃ front text back, texts = front ++ text :: back ∧
      (∀ t ∈ front, ∃ entry, Gives t entry) ∧ Offends text e := by
  induction texts with
  | nil => simp [pure, Except.pure]
  | cons first texts ih =>
    rw [List.mapM_cons]
    constructor
    · intro h
      cases hfirst : readEntry first with
      | error fault =>
        rw [hfirst] at h
        obtain rfl : fault = e := Except.error.inj h
        exact ⟨[], first, texts, rfl, by simp, readEntry_eq_error_iff.1 hfirst⟩
      | ok entry =>
        cases hrest : texts.mapM readEntry with
        | error fault =>
          rw [hfirst, hrest] at h
          obtain rfl : fault = e := Except.error.inj h
          obtain ⟨front, text, back, rfl, hfront, hoffends⟩ := ih.1 hrest
          exact ⟨first :: front, text, back, rfl,
            List.forall_mem_cons.2 ⟨⟨entry, readEntry_eq_ok_iff.1 hfirst⟩, hfront⟩, hoffends⟩
        | ok rest =>
          rw [hfirst, hrest] at h
          cases h
    · rintro ⟨front, text, back, hsplit, hfront, hoffends⟩
      cases front with
      | nil =>
        obtain ⟨rfl, rfl⟩ := List.cons.inj hsplit
        rw [readEntry_eq_error_iff.2 hoffends]
        rfl
      | cons t front =>
        obtain ⟨rfl, rfl⟩ := List.cons.inj hsplit
        obtain ⟨⟨entry, hgives⟩, hfront⟩ := List.forall_mem_cons.1 hfront
        rw [readEntry_eq_ok_iff.2 hgives, ih.2 ⟨front, text, back, rfl, hfront, hoffends⟩]
        rfl

def ofEntries (entries : List Entry) : KeyMapping :=
  entries.foldl add {}

theorem parse_eq_ok_iff {raw : String} {m : KeyMapping} : parse raw = .ok m ↔
    ∃ entries, List.Forall₂ Gives (entryTexts raw) entries ∧ ofEntries entries = m := by
  simp only [← mapM_readEntry_eq_ok_iff, ofEntries]
  unfold parse
  cases (entryTexts raw).mapM readEntry <;> simp

theorem parse_eq_error_iff {raw : String} : parse raw = .error e ↔
    ∃ front text back, entryTexts raw = front ++ text :: back ∧
      (∀ t ∈ front, ∃ entry, Gives t entry) ∧ Offends text e := by
  rw [← mapM_readEntry_eq_error_iff]
  unfold parse
  cases (entryTexts raw).mapM readEntry <;> simp

/-! ## Keys -/

def lastKey? (entries : List Entry) (name : String) : Option String :=
  (entries.reverse.find? (·.bucket == name)).map (·.key)

variable {entries : List Entry} {name : String}

theorem lastKey?_append (front back : List Entry) (name : String) :
    lastKey? (front ++ back) name = (lastKey? back name).or (lastKey? front name) := by
  rw [lastKey?, List.reverse_append, List.find?_append, Option.map_or, lastKey?, lastKey?]

theorem lastKey?_singleton (entry : Entry) (name : String) :
    lastKey? [entry] name = if entry.bucket = name then some entry.key else none := by
  by_cases h : entry.bucket = name <;> simp [lastKey?, h]

/-- An entry for every bucket decides, and any other one where none for every bucket came before. -/
theorem resolve_add (m : KeyMapping) (entry : Entry) (bucket : String) :
    (m.add entry).resolve bucket =
      if entry.bucket = wildcard then some entry.key
      else m.everyBucket.or (if entry.bucket = bucket then some entry.key else m.resolve bucket) := by
  unfold add
  split
  · rfl
  · unfold resolve
    cases m.everyBucket with
    | some every => rfl
    | none =>
      rw [Option.none_or]
      change Fields.get? _ bucket = if entry.bucket = bucket then _ else Fields.get? m.perBucket bucket
      rw [Fields.get?_cons, Fields.get?_filter_ne]
      by_cases hbucket : entry.bucket = bucket
      · rw [if_pos hbucket, if_pos hbucket]
      · rw [if_neg hbucket, if_neg hbucket, if_neg (Ne.symm hbucket)]

theorem everyBucket_add (m : KeyMapping) (entry : Entry) :
    (m.add entry).everyBucket = if entry.bucket = wildcard then some entry.key else m.everyBucket := by
  unfold add
  split <;> rfl

theorem isEmpty_add (m : KeyMapping) (entry : Entry) : (m.add entry).isEmpty = false := by
  unfold add
  split <;> simp [isEmpty]

theorem ofEntries_concat (entries : List Entry) (entry : Entry) :
    ofEntries (entries ++ [entry]) = (ofEntries entries).add entry := by
  rw [ofEntries, List.foldl_append]
  rfl

theorem everyBucket_ofEntries (entries : List Entry) :
    (ofEntries entries).everyBucket = lastKey? entries wildcard := by
  induction entries using List.reverseRecOn with
  | nil => rfl
  | append_singleton entries entry ih =>
    rw [ofEntries_concat, everyBucket_add, lastKey?_append, lastKey?_singleton, ih]
    split <;> rfl

/-- The induction is on the entries from the last one back. -/
theorem resolve_ofEntries (entries : List Entry) (bucket : String) :
    (ofEntries entries).resolve bucket =
      (lastKey? entries wildcard).or (lastKey? entries bucket) := by
  induction entries using List.reverseRecOn with
  | nil => rfl
  | append_singleton entries entry ih =>
    rw [ofEntries_concat, resolve_add, everyBucket_ofEntries, ih, lastKey?_append, lastKey?_append,
      lastKey?_singleton, lastKey?_singleton]
    split
    · rfl
    · rw [Option.none_or]
      split
      · rfl
      · cases lastKey? entries wildcard <;> rfl

theorem isEmpty_ofEntries (entries : List Entry) :
    (ofEntries entries).isEmpty = true ↔ entries = [] := by
  rcases List.eq_nil_or_concat entries with rfl | ⟨entries, entry, rfl⟩
  · exact iff_of_true rfl rfl
  · rw [List.concat_eq_append, ofEntries_concat, isEmpty_add]
    simp

/-! ## Keys have names -/

structure NamesKeys (m : KeyMapping) : Prop where
  everyBucket : ∀ key, m.everyBucket = some key → key ≠ ""
  perBucket : ∀ entry ∈ m.perBucket, entry.2 ≠ ""

theorem namesKeys_empty : NamesKeys {} :=
  ⟨fun _ h => (Option.some_ne_none _ h.symm).elim, fun _ h => absurd h List.not_mem_nil⟩

theorem NamesKeys.add {m : KeyMapping} (hm : m.NamesKeys) {entry : Entry} (he : entry.key ≠ "") :
    (m.add entry).NamesKeys := by
  unfold KeyMapping.add
  split
  · exact ⟨fun key hkey => Option.some.inj hkey ▸ he, hm.perBucket⟩
  · refine ⟨hm.everyBucket, fun other hother => ?_⟩
    rcases List.mem_cons.1 hother with rfl | hother
    · exact he
    · exact hm.perBucket other (List.mem_filter.1 hother).1

theorem namesKeys_ofEntries (h : ∀ entry ∈ entries, entry.key ≠ "") :
    (ofEntries entries).NamesKeys := by
  induction entries using List.reverseRecOn with
  | nil => exact namesKeys_empty
  | append_singleton entries entry ih =>
    obtain ⟨hentries, hentry⟩ := List.forall_mem_append.1 h
    rw [ofEntries_concat]
    exact (ih hentries).add (hentry entry (List.mem_singleton_self entry))

theorem namesKeys_of_parse {raw : String} {m : KeyMapping} (h : parse raw = .ok m) :
    m.NamesKeys := by
  obtain ⟨entries, hall, rfl⟩ := parse_eq_ok_iff.1 h
  exact namesKeys_ofEntries (key_ne_of_forall₂ hall)

/-- The key of a bucket has a name. -/
theorem NamesKeys.resolve_ne {m : KeyMapping} (hm : m.NamesKeys) {bucket key : String}
    (h : m.resolve bucket = some key) : key ≠ "" := by
  unfold resolve at h
  split at h
  · next every hevery =>
    obtain rfl := Option.some.inj h
    exact hm.everyBucket _ hevery
  · obtain ⟨entry, hentry, rfl⟩ := Option.map_eq_some_iff.1 h
    exact hm.perBucket entry (List.mem_of_find?_eq_some hentry)

/-! ## Swapping entries -/

/-- Of two entries for different buckets either may come first. -/
theorem lastKey?_swap {first second : Entry} (hne : first.bucket ≠ second.bucket)
    (front back : List Entry) (name : String) :
    lastKey? (front ++ first :: second :: back) name =
      lastKey? (front ++ second :: first :: back) name := by
  have hpair (a b : Entry) : lastKey? (front ++ a :: b :: back) name =
      (lastKey? back name).or (((if b.bucket = name then some b.key else none).or
        (if a.bucket = name then some a.key else none)).or (lastKey? front name)) := by
    rw [lastKey?_append, ← List.singleton_append, lastKey?_append, ← List.singleton_append,
      lastKey?_append, lastKey?_singleton, lastKey?_singleton, Option.or_assoc, Option.or_assoc,
      Option.or_assoc]
  rw [hpair, hpair]
  by_cases hfirst : first.bucket = name
  · have hsecond : second.bucket ≠ name := fun h => hne (hfirst.trans h.symm)
    rw [if_neg hsecond, Option.none_or, Option.or_none]
  · rw [if_neg hfirst, Option.none_or, Option.or_none]

theorem resolve_swap {first second : Entry} (hne : first.bucket ≠ second.bucket)
    (front back : List Entry) (bucket : String) :
    (ofEntries (front ++ second :: first :: back)).resolve bucket =
      (ofEntries (front ++ first :: second :: back)).resolve bucket := by
  rw [resolve_ofEntries, resolve_ofEntries, lastKey?_swap hne, lastKey?_swap hne]

/-- Whatever the texts around them, two neighbouring entries can be swapped. -/
theorem exists_parse_swapped {raw swapped : String} {m : KeyMapping} (hparse : parse raw = .ok m)
    {front back : List (List Char)} {text text' : List Char} {entry entry' : Entry}
    (hraw : entryTexts raw = front ++ text :: text' :: back)
    (hswapped : entryTexts swapped = front ++ text' :: text :: back)
    (hentry : Gives text entry) (hentry' : Gives text' entry') (hne : entry.bucket ≠ entry'.bucket) :
    ∃ m', parse swapped = .ok m' ∧ ∀ bucket, m'.resolve bucket = m.resolve bucket := by
  obtain ⟨entries, hall, -⟩ := parse_eq_ok_iff.1 hparse
  have hgives : ∀ t ∈ entryTexts raw, ∃ entry, Gives t entry := exists_entries_iff.1 ⟨_, hall⟩
  rw [hraw] at hgives
  obtain ⟨before, hbefore⟩ := exists_entries_iff.2 fun t ht =>
    hgives t (List.mem_append_left _ ht)
  obtain ⟨after, hafter⟩ := exists_entries_iff.2 fun t ht =>
    hgives t (List.mem_append_right _ (List.mem_cons_of_mem _ (List.mem_cons_of_mem _ ht)))
  have hread : parse raw = .ok (ofEntries (before ++ entry :: entry' :: after)) :=
    parse_eq_ok_iff.2 ⟨_, hraw ▸ List.rel_append hbefore (.cons hentry (.cons hentry' hafter)), rfl⟩
  obtain rfl := Except.ok.inj (hparse.symm.trans hread)
  exact ⟨_, parse_eq_ok_iff.2
    ⟨_, hswapped ▸ List.rel_append hbefore (.cons hentry' (.cons hentry hafter)), rfl⟩,
    resolve_swap hne before after⟩

/-- A text is a mapping if each of its parts is an entry, and else the first part that is none tells
why. The last entry for every bucket decides for all buckets, and without one the last entry for a
bucket decides for it; no key is empty. A mapping is empty if its text has no parts, and two
neighbouring entries for different buckets may be swapped. -/
theorem parse_means_entries (raw : String) :
    ((∃ m, parse raw = .ok m) ↔ ∀ text ∈ entryTexts raw, ∃ entry, Gives text entry) ∧
    (∀ e, parse raw = .error e ↔ ∃ front text back, entryTexts raw = front ++ text :: back ∧
      (∀ t ∈ front, ∃ entry, Gives t entry) ∧ Offends text e) ∧
    ∀ m, parse raw = .ok m →
      (∃ entries, List.Forall₂ Gives (entryTexts raw) entries ∧
        ∀ bucket, m.resolve bucket = (lastKey? entries wildcard).or (lastKey? entries bucket)) ∧
      (∀ bucket, m.resolve bucket ≠ some "") ∧
      (m.isEmpty = true ↔ entryTexts raw = []) ∧
      ∀ (swapped : String) (front back : List (List Char)) (text text' : List Char)
          (entry entry' : Entry),
        entryTexts raw = front ++ text :: text' :: back →
        entryTexts swapped = front ++ text' :: text :: back →
        Gives text entry → Gives text' entry' → entry.bucket ≠ entry'.bucket →
        ∃ m', parse swapped = .ok m' ∧ ∀ bucket, m'.resolve bucket = m.resolve bucket := by
  refine ⟨?_, fun e => parse_eq_error_iff, fun m hparse => ?_⟩
  · rw [← exists_entries_iff]
    constructor
    · rintro ⟨m, hparse⟩
      obtain ⟨entries, hall, -⟩ := parse_eq_ok_iff.1 hparse
      exact ⟨entries, hall⟩
    · rintro ⟨entries, hall⟩
      exact ⟨_, parse_eq_ok_iff.2 ⟨entries, hall, rfl⟩⟩
  · obtain ⟨entries, hall, rfl⟩ := parse_eq_ok_iff.1 hparse
    refine ⟨⟨entries, hall, resolve_ofEntries entries⟩, fun bucket hbucket => ?_, ?_, ?_⟩
    · exact (namesKeys_of_parse hparse).resolve_ne hbucket rfl
    · rw [isEmpty_ofEntries]
      constructor
      · rintro rfl
        exact List.forall₂_nil_right_iff.1 hall
      · intro htexts
        rw [htexts] at hall
        exact List.forall₂_nil_left_iff.1 hall
    · intro swapped front back text text' entry entry' hraw hswapped hentry hentry' hne
      exact exists_parse_swapped hparse hraw hswapped hentry hentry' hne

/-- An entry for every bucket between two for one bucket, the same with the first two swapped, and a
text whose second and third part are no entries. -/
theorem parse_means_entries_shuffled :
    (∃ m, parse "photos: a , *:g,,photos:b" = .ok m ∧ m.resolve "photos" = some "g" ∧
      m.isEmpty = false ∧
      ∃ m', parse "*:g,photos: a,photos:b" = .ok m' ∧ m'.resolve "photos" = some "g") ∧
    parse "photos:k, albums ,:x" = .error (.missingSeparator "albums") := by
  have hgives {text : String} {entry : Entry} (h : readEntry text.toList = .ok entry) :
      Gives text.toList entry := readEntry_eq_ok_iff.1 h
  constructor
  · have hparse : parse "photos: a , *:g,,photos:b" =
        .ok { everyBucket := some "g", perBucket := [("photos", "b")] } := by decide
    obtain ⟨-, -, hempty, hswap⟩ := (parse_means_entries _).2.2 _ hparse
    obtain ⟨m', hswapped, hresolve⟩ := hswap "*:g,photos: a,photos:b" [] ["photos:b".toList]
      "photos: a".toList "*:g".toList ⟨"photos", "a"⟩ ⟨wildcard, "g"⟩ (by decide) (by decide)
      (hgives (by decide)) (hgives (by decide)) (by decide)
    refine ⟨_, hparse, rfl, ?_, m', hswapped, hresolve "photos"⟩
    exact Bool.eq_false_iff.2 fun h => absurd (hempty.1 h) (by decide)
  · refine ((parse_means_entries _).2.1 _).2
      ⟨["photos:k".toList], "albums".toList, [":x".toList], by decide, fun t ht => ?_, ?_⟩
    · obtain rfl := List.mem_singleton.1 ht
      have hphotos : Gives "photos:k".toList ⟨"photos", "k"⟩ := hgives (by decide)
      exact ⟨_, hphotos⟩
    · exact readEntry_eq_error_iff.1 (by decide)

end SealingProxy.KeyMapping
