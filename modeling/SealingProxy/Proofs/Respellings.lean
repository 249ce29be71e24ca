import Mathlib.Logic.Relation
import SealingProxy.Operation
import SealingProxy.Proofs.ObjectPaths
import SealingProxy.Proofs.QueryLaws
/-! # Spellings of a request

The same host, bucket and parameters can be spelled in several ways. A change of spelling leaves
alone what the rules look at: the host without its port and the case of its letters, three
parameters, how the path starts, and the names in it. So the operation stays the same. -/

namespace SealingProxy
open Text ObjectPath

/-! ## Hosts -/

namespace Text

/-- A capital letter has a small one, and every other character is its own. -/
theorem toLower_cases (c : Char) :
    c.toLower = c ∨ 65 ≤ c.toNat ∧ c.toNat ≤ 90 ∧ c.toLower.toNat = c.toNat + 32 := by
  unfold Char.toLower
  split
  · next h =>
    obtain ⟨hlow, hhigh⟩ := h
    have hlow : 65 ≤ c.toNat := UInt32.le_iff_toNat_le.1 hlow
    have hhigh : c.toNat ≤ 90 := UInt32.le_iff_toNat_le.1 hhigh
    refine .inr ⟨hlow, hhigh, ?_⟩
    have hadd : (c.val + ('a'.val - 'A'.val)).toNat = c.val.toNat + 32 := by
      rw [UInt32.toNat_add]
      exact Nat.mod_eq_of_lt (by change c.val.toNat ≤ 90 at hhigh; change _ + 32 < 4294967296; omega)
    exact hadd
  · exact .inl rfl

theorem toLower_eq_colon_iff {c : Char} : c.toLower = ':' ↔ c = ':' := by
  rcases toLower_cases c with h | ⟨hlow, hhigh, h⟩
  · rw [h]
  · refine iff_of_false (fun hc => ?_) ?_
    · rw [hc] at h
      change 58 = _ at h
      omega
    · rintro rfl
      exact absurd hlow (by decide)

theorem isDigit_toLower (c : Char) : c.toLower.isDigit = c.isDigit := by
  rcases toLower_cases c with h | ⟨hlow, hhigh, h⟩
  · rw [h]
  · have hnone {d : Char} (hd : 65 ≤ d.toNat) : d.isDigit = false := by
      rw [Bool.eq_false_iff, ne_eq, Char.isDigit_iff_toNat]
      change ¬(48 ≤ d.toNat ∧ d.toNat ≤ 57)
      omega
    rw [hnone hlow, hnone (by omega)]

theorem cutLast_map_toLower (s : List Char) :
    cutLast ':' (s.map Char.toLower) =
      (cutLast ':' s).map fun p => (p.1.map Char.toLower, p.2.map Char.toLower) := by
  have hcolon {t : List Char} : ':' ∉ t.map Char.toLower ↔ ':' ∉ t := by
    simp [toLower_eq_colon_iff]
  cases hcut : cutLast ':' s with
  | none => exact cutLast_eq_none_iff.2 (hcolon.2 (cutLast_eq_none_iff.1 hcut))
  | some parts =>
    obtain ⟨name, port⟩ := parts
    obtain ⟨rfl, hport⟩ := cutLast_eq_some_iff.1 hcut
    exact cutLast_eq_some_iff.2 ⟨by simp [toLower_eq_colon_iff.2], hcolon.2 hport⟩

end Text

namespace ObjectPath

variable {path path' root start segment segment' rest : String}

/-- Two segments of paths that stand for the same name. -/
structure SameSegment (segment segment' : String) : Prop where
  bare : '/' ∉ segment.toList
  bare' : '/' ∉ segment'.toList
  name : Percent.decodeSegment segment' = Percent.decodeSegment segment

def tellingRoots : List String :=
  [uploadRoot, resumableRoot, resourceRoot, downloadRoot]

/-- The rules cannot tell the paths apart. -/
structure SamePlace (path path' : String) : Prop where
  starts : ∀ start ∈ tellingRoots, startsWith path' start = startsWith path start
  interface : isInterface path' = isInterface path
  bucket : bucket? path' = bucket? path
  object : object? path' = object? path

theorem SamePlace.refl (path : String) : SamePlace path path where
  starts _ _ := rfl
  interface := rfl
  bucket := rfl
  object := rfl

theorem SamePlace.trans {path'' : String} (h : SamePlace path path') (h' : SamePlace path' path'') :
    SamePlace path path'' where
  starts start hstart := (h'.starts start hstart).trans (h.starts start hstart)
  interface := h'.interface.trans h.interface
  bucket := h'.bucket.trans h.bucket
  object := h'.object.trans h.object

theorem SameSegment.eq_empty_iff (h : SameSegment segment segment') :
    segment' = "" ↔ segment = "" := by
  rw [← Percent.decodeSegment_eq_empty_iff, h.name, Percent.decodeSegment_eq_empty_iff]

/-- The bucket and the object are read from the segments one by one. -/
theorem SameSegment.names_eq (h : SameSegment segment segment') {object : Option (List Char)}
    (hpath : segments? path = some ⟨segment.toList, object⟩)
    (hpath' : segments? path' = some ⟨segment'.toList, object⟩) :
    bucket? path' = bucket? path ∧ object? path' = object? path := by
  have hempty : segment'.toList.isEmpty = segment.toList.isEmpty := by
    rw [Bool.eq_iff_iff, List.isEmpty_iff, List.isEmpty_iff, String.toList_eq_nil_iff,
      String.toList_eq_nil_iff, h.eq_empty_iff]
  constructor
  · rw [bucket?, bucket?, hpath, hpath']
    dsimp only
    rw [hempty, String.ofList_toList, String.ofList_toList, h.name]
  · rw [object?, object?, hpath, hpath']
    cases object with
    | none => rfl
    | some object =>
      dsimp only
      rw [hempty]

/-- What follows the start of a path does not make it start differently. -/
theorem isPrefixOf_append {start root : List Char} (h : start <+: root ∨ ¬root <+: start)
    (rest : List Char) : start.isPrefixOf (root ++ rest) = start.isPrefixOf root := by
  rw [Bool.eq_iff_iff, List.isPrefixOf_iff_prefix, List.isPrefixOf_iff_prefix]
  refine ⟨fun hstart => ?_, fun hstart => hstart.trans (List.prefix_append root rest)⟩
  rcases h with h | h
  · exact h
  · exact (List.prefix_or_prefix_of_prefix hstart (List.prefix_append root rest)).resolve_right h

theorem startsWith_of_root (hroot : root ∈ bucketRoots) (hstart : start ∈ tellingRoots)
    {rest : List Char} (hpath : path.toList = root.toList ++ rest) :
    startsWith path start = startsWith root start := by
  have hroots : ∀ root ∈ bucketRoots, ∀ start ∈ tellingRoots,
      start.toList <+: root.toList ∨ ¬root.toList <+: start.toList := by
    decide
  rw [startsWith, hpath, isPrefixOf_append (hroots root hroot start hstart), startsWith]

theorem startsWith_of_short (h : isInterface path = false) (hstart : start ∈ tellingRoots) :
    startsWith path start = false := by
  have hroots : ∀ start ∈ tellingRoots, ∃ root ∈ interfaceRoots, root.toList <+: start.toList := by
    decide
  obtain ⟨root, hroot, hbegins⟩ := hroots start hstart
  rw [isInterface, List.any_eq_false] at h
  refine Bool.eq_false_iff.2 fun hstarts => h root hroot ?_
  exact List.isPrefixOf_iff_prefix.2 (hbegins.trans (List.isPrefixOf_iff_prefix.1 hstarts))

theorem segments?_of_root_segment (hroot : root ∈ bucketRoots) (hbare : '/' ∉ segment.toList)
    (hrest : EndsSegment rest.toList) : segments? (root ++ segment ++ rest) =
      some ⟨segment.toList, dropStart? ['/', 'o', '/'] rest.toList⟩ := by
  have hpath : (root ++ segment ++ rest).toList =
      root.toList ++ (segment.toList ++ rest.toList) := by
    simp
  rw [segments?_of_root hroot hpath, interfaceSegments_append hbare hrest]

/-- Without its first slash the path has the same segments, as its bucket is not empty. -/
theorem segments?_of_short_segment (hstart : start ∈ ["/", ""]) (hbare : '/' ∉ segment.toList)
    (hne : segment ≠ "") (hrest : EndsSegment rest.toList)
    (hshort : isInterface (start ++ segment ++ rest) = false) :
    segments? (start ++ segment ++ rest) =
      some ⟨segment.toList, dropStart? ['/'] rest.toList⟩ := by
  have hpath : shortSegments (start ++ segment ++ rest).toList =
      shortSegments ('/' :: (segment.toList ++ rest.toList)) := by
    simp only [List.mem_cons, List.not_mem_nil, or_false] at hstart
    rcases hstart with rfl | rfl
    · simp
    · have hhead : ∀ d ∈ (segment.toList ++ rest.toList).head?, d ≠ '/' := by
        obtain ⟨c, cs, hcs⟩ := List.exists_cons_of_ne_nil (mt String.toList_eq_nil_iff.1 hne)
        rintro d hd rfl
        rw [hcs, List.cons_append, List.head?_cons, Option.mem_some] at hd
        exact hbare (by simp [hcs, hd])
      rw [shortSegments_cons hhead]
      simp
  rw [segments?_of_short hshort, hpath, shortSegments_cons_append hbare hrest]

theorem samePlace_of_root (hroot : root ∈ bucketRoots) (hsame : SameSegment segment segment')
    (hrest : EndsSegment rest.toList) :
    SamePlace (root ++ segment ++ rest) (root ++ segment' ++ rest) := by
  have hpath (segment : String) :
      (root ++ segment ++ rest).toList = root.toList ++ (segment.toList ++ rest.toList) := by
    simp
  obtain ⟨hbucket, hobject⟩ := hsame.names_eq
    (segments?_of_root_segment hroot hsame.bare hrest)
    (segments?_of_root_segment hroot hsame.bare' hrest)
  exact {
    starts := fun start hstart => by
      rw [startsWith_of_root hroot hstart (hpath segment'),
        startsWith_of_root hroot hstart (hpath segment)]
    interface := by
      rw [isInterface_of_root hroot (hpath segment'), isInterface_of_root hroot (hpath segment)]
    bucket := hbucket
    object := hobject }

theorem samePlace_of_short (hstart : start ∈ ["/", ""]) (hsame : SameSegment segment segment')
    (hrest : EndsSegment rest.toList) (hshort : isInterface (start ++ segment ++ rest) = false)
    (hshort' : isInterface (start ++ segment' ++ rest) = false) :
    SamePlace (start ++ segment ++ rest) (start ++ segment' ++ rest) := by
  by_cases hempty : segment = ""
  · -- Without a bucket nothing was spelled anew.
    have hempty' : segment' = "" := hsame.eq_empty_iff.2 hempty
    rw [hempty, hempty']
    exact .refl _
  have hempty' : segment' ≠ "" := mt hsame.eq_empty_iff.1 hempty
  obtain ⟨hbucket, hobject⟩ := hsame.names_eq
    (segments?_of_short_segment hstart hsame.bare hempty hrest hshort)
    (segments?_of_short_segment hstart hsame.bare' hempty' hrest hshort')
  exact {
    starts := fun root hroot => by
      rw [startsWith_of_short hshort' hroot, startsWith_of_short hshort hroot]
    interface := hshort'.trans hshort.symm
    bucket := hbucket
    object := hobject }

end ObjectPath

/-! ## Spellings -/

/-- What of a request can be spelled in several ways. -/
structure Spelling where
  host : String
  path : String
  query : Query

def Request.spelling (r : Request) : Spelling :=
  ⟨r.host, r.path, r.query⟩

namespace Classifier

/-- The port does not depend on the case of letters. -/
theorem stripPort_lower (host : String) : stripPort (lower host) = lower (stripPort host) := by
  have hcut : cutLast ':' (lower host).toList =
      (cutLast ':' host.toList).map fun p => (p.1.map Char.toLower, p.2.map Char.toLower) := by
    rw [lower, String.toList_ofList, cutLast_map_toLower]
  rw [stripPort, stripPort, hcut]
  cases cutLast ':' host.toList with
  | none => rfl
  | some parts =>
    obtain ⟨name, port⟩ := parts
    have hdigits : (port.map Char.toLower).all Char.isDigit = port.all Char.isDigit := by
      rw [List.all_map]
      simp only [Function.comp_def, isDigit_toLower]
    rw [Option.map_some]
    dsimp only
    rw [hdigits]
    split
    · rw [lower, String.toList_ofList]
    · rfl

theorem stripPort_append {digits : String} (h : ∀ c ∈ digits.toList, c.isDigit = true)
    (host : String) : stripPort (host ++ ":" ++ digits) = host := by
  have hcolon : ':' ∉ digits.toList := fun hc => absurd (h ':' hc) (by decide)
  have hcut : cutLast ':' (host ++ ":" ++ digits).toList = some (host.toList, digits.toList) :=
    cutLast_eq_some_iff.2 ⟨by simp, hcolon⟩
  rw [stripPort, hcut]
  dsimp only
  rw [if_pos (List.all_eq_true.2 h), String.ofList_toList]

def tellingNames : List String :=
  ["uploadType", "alt", "fields"]

def telling (params : List (String × String)) : List (String × String) :=
  params.filter fun p => tellingNames.contains p.1

theorem get?_telling {name : String} (h : name ∈ tellingNames) (params : List (String × String)) :
    Query.get? ⟨telling params⟩ name = Query.get? ⟨params⟩ name := by
  have hkeep (value : String) : tellingNames.contains (name, value).1 = true :=
    List.contains_iff_mem.2 h
  exact Query.get?_filter hkeep params

/-- One change of a spelling: of the letters of the host, of its port, of parameters that tell no
operations apart, and of the bucket in a path of either form. -/
inductive Respelling : Spelling → Spelling → Prop
  | letters {host host' path : String} {query : Query}
      (hletters : sameLetters host' host = true) :
      Respelling ⟨host, path, query⟩ ⟨host', path, query⟩
  | port {host digits path : String} {query : Query} (hnone : stripPort host = host)
      (hdigits : ∀ c ∈ digits.toList, c.isDigit = true) :
      Respelling ⟨host, path, query⟩ ⟨host ++ ":" ++ digits, path, query⟩
  | parameters {host path : String} {params params' : List (String × String)}
      (htelling : telling params' = telling params) :
      Respelling ⟨host, path, ⟨params⟩⟩ ⟨host, path, ⟨params'⟩⟩
  | interfaceBucket {host root segment segment' rest : String} {query : Query}
      (hroot : root ∈ bucketRoots) (hsame : SameSegment segment segment')
      (hrest : EndsSegment rest.toList) :
      Respelling ⟨host, root ++ segment ++ rest, query⟩ ⟨host, root ++ segment' ++ rest, query⟩
  | shortBucket {host start segment segment' rest : String} {query : Query}
      (hstart : start ∈ ["/", ""]) (hsame : SameSegment segment segment')
      (hrest : EndsSegment rest.toList) (hshort : isInterface (start ++ segment ++ rest) = false)
      (hshort' : isInterface (start ++ segment' ++ rest) = false) :
      Respelling ⟨host, start ++ segment ++ rest, query⟩ ⟨host, start ++ segment' ++ rest, query⟩

/-- The rules cannot tell the spellings apart. -/
structure Alike (s s' : Spelling) : Prop where
  host : lower (stripPort s'.host) = lower (stripPort s.host)
  parameters : ∀ name ∈ tellingNames, s'.query.get? name = s.query.get? name
  place : SamePlace s.path s'.path

variable {s s' s'' : Spelling}

theorem Alike.refl (s : Spelling) : Alike s s where
  host := rfl
  parameters _ _ := rfl
  place := .refl s.path

theorem Alike.trans (h : Alike s s') (h' : Alike s' s'') : Alike s s'' where
  host := h'.host.trans h.host
  parameters name hname := (h'.parameters name hname).trans (h.parameters name hname)
  place := h.place.trans h'.place

/-- A change leaves the rest of the spelling as it is. -/
theorem Respelling.alike (h : Respelling s s') : Alike s s' := by
  cases h with
  | letters hletters =>
    have hhost := beq_iff_eq.1 hletters
    exact { Alike.refl _ with
      host := by rw [← stripPort_lower, ← stripPort_lower, hhost] }
  | port hnone hdigits =>
    exact { Alike.refl _ with
      host := by rw [stripPort_append hdigits, hnone] }
  | parameters htelling =>
    exact { Alike.refl _ with
      parameters := fun name hname => by
        rw [← get?_telling hname, htelling, get?_telling hname] }
  | interfaceBucket hroot hsame hrest =>
    exact { Alike.refl _ with
      place := samePlace_of_root hroot hsame hrest }
  | shortBucket hstart hsame hrest hshort hshort' =>
    exact { Alike.refl _ with
      place := samePlace_of_short hstart hsame hrest hshort hshort' }

theorem alike_of_respellings (h : Relation.ReflTransGen Respelling s s') : Alike s s' := by
  induction h with
  | refl => exact .refl s
  | tail _ hstep ih => exact ih.trans hstep.alike

/-! ## Operations -/

variable {r r' : Request}

theorem Alike.interceptsHost_eq (h : Alike s s') (c : Classifier) :
    c.interceptsHost s'.host = c.interceptsHost s.host := by
  rw [interceptsHost, interceptsHost, h.host]

theorem Alike.hasKey_eq (h : Alike r.spelling r'.spelling) (c : Classifier) :
    c.hasKey r' = c.hasKey r := by
  have hbucket : bucket? r'.path = bucket? r.path := h.place.bucket
  rw [hasKey, hasKey, hbucket]

/-- Each rule reads the method and what alike spellings share. -/
theorem Alike.operation_eq (h : Alike r.spelling r'.spelling) (hmethod : r'.method = r.method) :
    operation r' = operation r := by
  have hget {name : String} (hname : name ∈ tellingNames) :
      r'.query.get? name = r.query.get? name := h.parameters name hname
  have hcontains {name : String} (hname : name ∈ tellingNames) :
      r'.query.contains name = r.query.contains name := by
    rw [← Query.isSome_get?, hget hname, Query.isSome_get?]
  have hstarts {start : String} (hstart : start ∈ tellingRoots) :
      startsWith r'.path start = startsWith r.path start := h.place.starts start hstart
  have hinterface : isInterface r'.path = isInterface r.path := h.place.interface
  have hobject : object? r'.path = object? r.path := h.place.object
  have hupload : uploadOperation? r' = uploadOperation? r := by
    rw [uploadOperation?, uploadOperation?, hmethod, hstarts (by decide : uploadRoot ∈ _),
      hget (by decide : "uploadType" ∈ _)]
  have hsession : sessionOperation? r' = sessionOperation? r := by
    rw [sessionOperation?, sessionOperation?, hmethod, hstarts (by decide : uploadRoot ∈ _),
      hstarts (by decide : resumableRoot ∈ _), hget (by decide : "uploadType" ∈ _)]
  have hresource : resourceOperation? r' = resourceOperation? r := by
    rw [resourceOperation?, resourceOperation?, hmethod, hstarts (by decide : resourceRoot ∈ _),
      hobject, hget (by decide : "alt" ∈ _)]
  have hdownload : downloadOperation? r' = downloadOperation? r := by
    rw [downloadOperation?, downloadOperation?, hmethod, hstarts (by decide : downloadRoot ∈ _),
      hinterface, hobject, hcontains (by decide : "alt" ∈ _), hcontains (by decide : "fields" ∈ _)]
  rw [operation, operation, hupload, hsession, hresource, hdownload]

/-- The operation of a request does not depend on how the request is spelled. -/
theorem classify_respelled (c : Classifier) (hmethod : r'.method = r.method)
    (h : Relation.ReflTransGen Respelling r.spelling r'.spelling) : c.classify r' = c.classify r := by
  have halike : Alike r.spelling r'.spelling := alike_of_respellings h
  have hhost : c.interceptsHost r'.host = c.interceptsHost r.host := halike.interceptsHost_eq c
  rw [classify, classify, hhost, halike.hasKey_eq c, halike.operation_eq hmethod]

/-- A host in other letters with a port, a parameter more, and a bucket with an escape. -/
theorem classify_respelled_download :
    (Classifier.mk ["gcs"] fun bucket => if bucket = "b1" then some "k" else none).classify
      { method := "GET", host := "GCS:443", path := "/storage/v1/b/%621/o/cat",
        query := ⟨[("prefix", "x"), ("alt", "media")]⟩ } = .download := by
  have hsame : SameSegment "b1" "%621" := ⟨by decide, by decide, by decide +kernel⟩
  have hletters : Respelling ⟨"gcs", "/storage/v1/b/b1/o/cat", ⟨[("alt", "media")]⟩⟩
      ⟨"GCS", "/storage/v1/b/b1/o/cat", ⟨[("alt", "media")]⟩⟩ := .letters (by decide)
  have hport : Respelling ⟨"GCS", "/storage/v1/b/b1/o/cat", ⟨[("alt", "media")]⟩⟩
      ⟨"GCS:443", "/storage/v1/b/b1/o/cat", ⟨[("alt", "media")]⟩⟩ :=
    @Respelling.port "GCS" "443" _ _ (by decide) (List.all_eq_true.1 (by decide))
  have hparameters : Respelling ⟨"GCS:443", "/storage/v1/b/b1/o/cat", ⟨[("alt", "media")]⟩⟩
      ⟨"GCS:443", "/storage/v1/b/b1/o/cat", ⟨[("prefix", "x"), ("alt", "media")]⟩⟩ :=
    .parameters (by decide)
  have hbucket : Respelling
      ⟨"GCS:443", "/storage/v1/b/b1/o/cat", ⟨[("prefix", "x"), ("alt", "media")]⟩⟩
      ⟨"GCS:443", "/storage/v1/b/%621/o/cat", ⟨[("prefix", "x"), ("alt", "media")]⟩⟩ :=
    @Respelling.interfaceBucket _ "/storage/v1/b/" "b1" "%621" "/o/cat" _ (by decide) hsame
      (by decide)
  have hchanges := (((Relation.ReflTransGen.single hletters).tail hport).tail hparameters).tail hbucket
  have hplain : (Classifier.mk ["gcs"] fun bucket => if bucket = "b1" then some "k" else none).classify
      { method := "GET", host := "gcs", path := "/storage/v1/b/b1/o/cat",
        query := ⟨[("alt", "media")]⟩ } = .download := by
    decide +kernel
  refine Eq.trans (classify_respelled _ (by rfl) ?_) hplain
  exact hchanges

end Classifier
end SealingProxy
