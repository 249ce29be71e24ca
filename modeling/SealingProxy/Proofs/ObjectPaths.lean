import SealingProxy.Hooks.Resumable
import SealingProxy.Proofs.PercentEscapes
import SealingProxy.Proofs.TextPieces
/-! # Reading the paths that are built

A path is built from a start and the segments of names. The start is recognised, and a name reads
back from its segment, since no slash occurs in it. In the short form the bucket is the start, so
that no bucket may be called like the first segment of an interface path. -/

namespace SealingProxy.ObjectPath
open Text

structure Names (path bucket : String) (object : Option String) : Prop where
  bucket : bucket? path = some bucket
  object : object? path = object

variable {path bucket object root : String}

/-! ## From segments to names -/

theorem slash_not_mem_encodeSegment (name : String) :
    '/' ∉ (Percent.encodeSegment name).toList :=
  Percent.not_mem_encodeSegment (by decide) (by decide) (by decide) name

theorem isEmpty_encodeSegment {name : String} (h : name ≠ "") :
    (Percent.encodeSegment name).toList.isEmpty = false := by
  rw [List.isEmpty_eq_false_iff, ne_eq, String.toList_eq_nil_iff]
  exact Percent.encodeSegment_ne h

theorem decodeSegment_ofList_encodeSegment (name : String) :
    Percent.decodeSegment (String.ofList (Percent.encodeSegment name).toList) = name := by
  rw [String.ofList_toList, Percent.decodeSegment_encodeSegment]

theorem bucket?_of_segments? (hb : bucket ≠ "") {rest : Option (List Char)}
    (h : segments? path = some ⟨(Percent.encodeSegment bucket).toList, rest⟩) :
    bucket? path = some bucket := by
  rw [bucket?, h]
  dsimp only
  rw [isEmpty_encodeSegment hb, decodeSegment_ofList_encodeSegment]
  rfl

theorem names_of_segments? (hb : bucket ≠ "") (ho : object ≠ "")
    (h : segments? path = some ⟨(Percent.encodeSegment bucket).toList,
      some (Percent.encodeSegment object).toList⟩) : Names path bucket (some object) where
  bucket := bucket?_of_segments? hb h
  object := by
    rw [object?, h]
    dsimp only
    rw [isEmpty_encodeSegment hb, isEmpty_encodeSegment ho, decodeSegment_ofList_encodeSegment]
    rfl

/-- An object without characters is none. -/
theorem names_of_segments?_bare (hb : bucket ≠ "") {rest : Option (List Char)}
    (hrest : rest.getD [] = [])
    (h : segments? path = some ⟨(Percent.encodeSegment bucket).toList, rest⟩) :
    Names path bucket none where
  bucket := bucket?_of_segments? hb h
  object := by
    rw [object?, h]
    cases rest with
    | none => rfl
    | some rest =>
      rw [Option.getD_some] at hrest
      subst hrest
      dsimp only
      rw [List.isEmpty_nil, Bool.or_true]
      rfl

/-! ## Interface paths -/

/-- Each start is found, as none of the others begins like it. -/
theorem segments?_of_root (h : root ∈ bucketRoots) {rest : List Char}
    (hpath : path.toList = root.toList ++ rest) : segments? path = some (interfaceSegments rest) := by
  have hfound : (bucketRoots.findSome? fun start => dropStart? start.toList path.toList) =
      some rest := by
    rw [hpath]
    simp only [bucketRoots, List.mem_cons, List.not_mem_nil, or_false] at h
    rcases h with rfl | rfl | rfl | rfl <;>
      simp [bucketRoots, dropStart?]
  rw [segments?, hfound]

/-- A segment ends at a slash or with the path. -/
def EndsSegment (rest : List Char) : Prop :=
  rest = [] ∨ rest.head? = some '/'

instance (rest : List Char) : Decidable (EndsSegment rest) :=
  inferInstanceAs (Decidable (rest = [] ∨ rest.head? = some '/'))

theorem endsSegment_cons (tail : List Char) : EndsSegment ('/' :: tail) :=
  .inr rfl

/-- The object follows the bucket and the mark of objects. -/
theorem interfaceSegments_append {segment rest : List Char} (h : '/' ∉ segment)
    (hrest : EndsSegment rest) :
    interfaceSegments (segment ++ rest) = ⟨segment, dropStart? ['/', 'o', '/'] rest⟩ := by
  rcases hrest with rfl | hslash
  · rw [List.append_nil, interfaceSegments, cut_of_not_mem h]
    rfl
  · obtain ⟨tail, rfl⟩ := List.head?_eq_some_iff.1 hslash
    rw [interfaceSegments, cut_append_cons h]
    rfl

theorem names_of_root (hroot : root ∈ bucketRoots) (hb : bucket ≠ "") (ho : object ≠ "") :
    Names (root ++ Percent.encodeSegment bucket ++ "/o/" ++ Percent.encodeSegment object)
      bucket (some object) := by
  have hpath : (root ++ Percent.encodeSegment bucket ++ "/o/" ++
      Percent.encodeSegment object).toList = root.toList ++
        ((Percent.encodeSegment bucket).toList ++
          '/' :: 'o' :: '/' :: (Percent.encodeSegment object).toList) := by
    simp
  refine names_of_segments? hb ho ?_
  rw [segments?_of_root hroot hpath,
    interfaceSegments_append (slash_not_mem_encodeSegment bucket) (endsSegment_cons _)]
  rfl

theorem names_of_root_bare (hroot : root ∈ bucketRoots) (hb : bucket ≠ "") {tail : String}
    (htail : tail ∈ ["", "/o", "/o/"]) :
    Names (root ++ Percent.encodeSegment bucket ++ tail) bucket none := by
  have hpath : (root ++ Percent.encodeSegment bucket ++ tail).toList =
      root.toList ++ ((Percent.encodeSegment bucket).toList ++ tail.toList) := by
    simp
  have htails : ∀ tail ∈ ["", "/o", "/o/"], EndsSegment tail.toList ∧
      (dropStart? ['/', 'o', '/'] tail.toList).getD [] = [] := by
    decide
  obtain ⟨hends, hobject⟩ := htails tail htail
  refine names_of_segments?_bare hb hobject ?_
  rw [segments?_of_root hroot hpath,
    interfaceSegments_append (slash_not_mem_encodeSegment bucket) hends]

/-! ## The short form -/

def interfaceNames : List String :=
  ["upload", "resumable", "storage", "download"]

theorem exists_interfaceName : ∀ root ∈ interfaceRoots, ∃ name ∈ interfaceNames,
    root.toList = '/' :: (name.toList ++ ['/']) ∧ '/' ∉ name.toList ∧
      Percent.decodeSegment name = name := by
  decide +kernel

/-- A bucket that starts an interface path is called like it. -/
theorem isInterface_eq_false (h : bucket ∉ interfaceNames) {tail : List Char}
    (hpath : path.toList = '/' :: ((Percent.encodeSegment bucket).toList ++ '/' :: tail)) :
    isInterface path = false := by
  rw [isInterface, List.any_eq_false]
  intro root hroot hstarts
  obtain ⟨name, hname, hlist, hslash, hplain⟩ := exists_interfaceName root hroot
  obtain ⟨rest, hrest⟩ := List.isPrefixOf_iff_prefix.1 hstarts
  rw [hlist, hpath, List.cons_append, List.append_assoc, List.singleton_append] at hrest
  have hcut := congrArg (cut '/') (List.cons.inj hrest).2
  rw [cut_append_cons hslash, cut_append_cons (slash_not_mem_encodeSegment bucket)] at hcut
  obtain ⟨hsegment, -⟩ := Prod.mk.inj (Option.some.inj hcut)
  have hbucket : name = bucket := by
    rw [← Percent.decodeSegment_encodeSegment bucket, ← String.toList_inj.1 hsegment, hplain]
  exact h (hbucket ▸ hname)

/-- A path with a bucket after its start lies under an interface root. -/
theorem isInterface_of_root (h : root ∈ bucketRoots) {rest : List Char}
    (hpath : path.toList = root.toList ++ rest) : isInterface path = true := by
  have hstarts : ∀ root ∈ bucketRoots, ∃ start ∈ interfaceRoots, start.toList <+: root.toList := by
    decide
  obtain ⟨start, hstart, hbegins⟩ := hstarts root h
  rw [isInterface, List.any_eq_true]
  refine ⟨start, hstart, List.isPrefixOf_iff_prefix.2 (hbegins.trans ?_)⟩
  rw [hpath]
  exact List.prefix_append root.toList rest

theorem segments?_of_short (h : isInterface path = false) :
    segments? path = some (shortSegments path.toList) := by
  have hnone : (bucketRoots.findSome? fun root => dropStart? root.toList path.toList) = none := by
    rw [List.findSome?_eq_none_iff]
    intro root hroot
    cases hdrop : dropStart? root.toList path.toList with
    | none => rfl
    | some rest =>
      rw [isInterface_of_root hroot (dropStart?_eq_some_iff.1 hdrop)] at h
      cases h
  rw [segments?, hnone, h]
  rfl

theorem shortSegments_cons_append {segment rest : List Char} (h : '/' ∉ segment)
    (hrest : EndsSegment rest) :
    shortSegments ('/' :: (segment ++ rest)) = ⟨segment, dropStart? ['/'] rest⟩ := by
  rw [shortSegments, dropStart?, if_pos rfl, dropStart?, Option.getD_some]
  rcases hrest with rfl | hslash
  · rw [List.append_nil, cut_of_not_mem h]
    rfl
  · obtain ⟨tail, rfl⟩ := List.head?_eq_some_iff.1 hslash
    rw [cut_append_cons h]
    rfl

/-- The slash that a path of the short form starts with may be missing. -/
theorem shortSegments_cons {s : List Char} (h : ∀ c ∈ s.head?, c ≠ '/') :
    shortSegments ('/' :: s) = shortSegments s := by
  cases s with
  | nil => rfl
  | cons c s =>
    have hc : '/' ≠ c := (h c rfl).symm
    rw [shortSegments, shortSegments, dropStart?, if_pos rfl, dropStart?, Option.getD_some,
      dropStart?, if_neg hc, Option.getD_none]

theorem names_of_short (hshort : bucket ∉ interfaceNames) (hb : bucket ≠ "") (ho : object ≠ "") :
    Names ("/" ++ Percent.encodeSegment bucket ++ "/" ++ Percent.encodeSegment object) bucket
      (some object) := by
  have hpath : ("/" ++ Percent.encodeSegment bucket ++ "/" ++
      Percent.encodeSegment object).toList = '/' :: ((Percent.encodeSegment bucket).toList ++
        '/' :: (Percent.encodeSegment object).toList) := by
    simp
  refine names_of_segments? hb ho ?_
  rw [segments?_of_short (isInterface_eq_false hshort hpath), hpath,
    shortSegments_cons_append (slash_not_mem_encodeSegment bucket) (endsSegment_cons _)]
  rfl

/-! ## The path of an upload -/

/-- The path that uploads into a bucket, as its start, the bucket and the mark of objects. -/
theorem toList_uploadPath (bucket : String) : (uploadPath bucket).toList =
    "/upload/storage/v1/b/".toList ++ ((Percent.encodeSegment bucket).toList ++ ['/', 'o']) := by
  unfold uploadPath
  generalize Percent.encodeSegment bucket = segment
  rw [String.toList_append, String.toList_append, List.append_assoc]
  rfl

theorem names_uploadPath (hb : bucket ≠ "") : Names (uploadPath bucket) bucket none := by
  have hroot : "/upload/storage/v1/b/" ∈ bucketRoots := by decide
  have htail : "/o" ∈ ["", "/o", "/o/"] := by decide
  exact names_of_root_bare hroot hb htail

/-- The path that uploads into a bucket names this bucket. Without a name it names none. -/
theorem bucket?_uploadPath (bucket : String) :
    (bucket? (uploadPath bucket)).getD "" = bucket := by
  by_cases h : bucket = ""
  · subst h
    decide +kernel
  · rw [(names_uploadPath h).bucket, Option.getD_some]

theorem startsWith_uploadPath (bucket : String) :
    startsWith (uploadPath bucket) uploadRoot = true := by
  have hroot : "/upload/storage/v1/b/".toList = uploadRoot.toList ++ ['b', '/'] := by decide
  rw [startsWith, List.isPrefixOf_iff_prefix, toList_uploadPath, hroot, List.append_assoc]
  exact List.prefix_append _ _

theorem not_mem_uploadPath (bucket : String) : '?' ∉ (uploadPath bucket).toList := by
  have hsegment : '?' ∉ (Percent.encodeSegment bucket).toList :=
    Percent.not_mem_encodeSegment (by decide) (by decide) (by decide) bucket
  rw [toList_uploadPath, List.mem_append, List.mem_append]
  rintro (h | h | h)
  · exact absurd h (by decide)
  · exact hsegment h
  · exact absurd h (by decide)

/-! ## All forms -/

/-- A path that is built from names names them: after each of the four starts, in the short form,
and where a completion is addressed to. -/
theorem names_of_built_path (hb : bucket ≠ "") (ho : object ≠ "") :
    (∀ root ∈ ["/storage/v1/b/", "/upload/storage/v1/b/", "/resumable/upload/storage/v1/b/",
        "/download/storage/v1/b/"],
      Names (root ++ Percent.encodeSegment bucket ++ "/o/" ++ Percent.encodeSegment object)
          bucket (some object) ∧
        ∀ tail ∈ ["", "/o", "/o/"],
          Names (root ++ Percent.encodeSegment bucket ++ tail) bucket none) ∧
      (bucket ∉ ["upload", "resumable", "storage", "download"] →
        Names ("/" ++ Percent.encodeSegment bucket ++ "/" ++ Percent.encodeSegment object) bucket
          (some object)) ∧
      ∀ (session : Session) (r : Request), session.bucket = bucket →
        Names (Hooks.addressTo session r).path bucket none := by
  refine ⟨fun root hroot => ⟨names_of_root hroot hb ho, fun tail htail =>
    names_of_root_bare hroot hb htail⟩, fun hshort => names_of_short hshort hb ho, ?_⟩
  rintro session r rfl
  exact names_uploadPath hb

/-- Names that hold every mark of a path, and a bucket that is called like the mark of objects. -/
theorem names_of_built_path_marks :
    Names "/download/storage/v1/b/o/o/b%2Fo%2F50%25%2B%C3%A9" "o" (some "b/o/50%+é") ∧
      Names "/storage/v1/b/o/o/" "o" none ∧
      Names "/o/b%2Fo%2F50%25%2B%C3%A9" "o" (some "b/o/50%+é") := by
  have hsegment : Percent.encodeSegment "b/o/50%+é" = "b%2Fo%2F50%25%2B%C3%A9" := by
    decide +kernel
  have hbucket : Percent.encodeSegment "o" = "o" := by decide +kernel
  obtain ⟨hroots, hshort, -⟩ :=
    @names_of_built_path "o" "b/o/50%+é" (by decide) (by decide)
  rw [hsegment, hbucket] at hroots hshort
  refine ⟨(hroots "/download/storage/v1/b/" (by decide)).1,
    (hroots "/storage/v1/b/" (by decide)).2 "/o/" (by decide), hshort (by decide)⟩

end SealingProxy.ObjectPath
