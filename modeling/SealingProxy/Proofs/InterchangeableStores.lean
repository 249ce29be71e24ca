import Mathlib.Data.List.Nodup
import Mathlib.Data.Set.Function
import SealingProxy.Proofs.FieldLaws
import SealingProxy.Proofs.DirectoryLaws
import SealingProxy.Proofs.SessionRecords
/-! # Interchangeable stores

Calls that come one after another leave nothing in the directory of a store but records, one for
each session that a store in memory would keep. So the two answer alike, however long they run. -/

namespace SealingProxy

/-! ## A directory of records -/

structure StoredSession where
  id : String
  session : Session
  modified : Instant

namespace StoredSession
open DirectoryStore

def name (r : StoredSession) : String :=
  recordName r.id

def node (r : StoredSession) : Node :=
  .file r.session.write r.modified

def entry (r : StoredSession) : String × Session :=
  (r.id, r.session)

end StoredSession

namespace Directory
open DirectoryStore

/-- The directory that holds these records and nothing else. -/
def ofStored (records : List StoredSession) : Directory :=
  ⟨some (records.map fun r => (r.name, r.node))⟩

variable {d : Directory} {records : List StoredSession} {r : StoredSession} {name : String}

theorem find?_ofStored (records : List StoredSession) (name : String) :
    (ofStored records).find? name = (records.find? (·.name == name)).map (·.node) := by
  simp [find?, ofStored, List.find?_map, Function.comp_def]

theorem find?_ofStored_ne_folder (records : List StoredSession) (name : String)
    (modified : Instant) : (ofStored records).find? name ≠ some (.folder modified) := by
  rw [find?_ofStored]
  cases records.find? (·.name == name) <;> nofun

theorem find?_ofStored_of_mem (hnames : (records.map (·.name)).Nodup) (hr : r ∈ records) :
    (ofStored records).find? r.name = some r.node := by
  have hkeys : ((records.map fun r => (r.name, r.node)).map (·.1)).Nodup := by
    rwa [List.map_map]
  exact (Fields.get?_eq_some_iff hkeys).2 (List.mem_map_of_mem hr)

theorem vacate_ofStored (records : List StoredSession) (name : String) :
    (ofStored records).vacate name = ofStored (records.filter (·.name != name)) := by
  simp [ofStored, vacate, List.filter_map, Function.comp_def]

theorem vacate_ofStored_of_absent (h : ∀ id, recordName id ≠ name) (records : List StoredSession) :
    (ofStored records).vacate name = ofStored records := by
  rw [vacate_ofStored, List.filter_eq_self.2 fun r _ => bne_iff_ne.2 (h r.id)]

theorem vacate_place_self (d : Directory) (name : String) (node : Node) :
    (d.place name node).vacate name = d.vacate name := by
  obtain ⟨_ | nodes⟩ := d
  · rfl
  · simp [place, vacate]

theorem place_ofStored (records : List StoredSession) (id : String) (session : Session)
    (now : Instant) : (ofStored records).place (recordName id) (.file session.write now) =
      ofStored (records.filter (·.name != recordName id) ++ [⟨id, session, now⟩]) := by
  simp [ofStored, place, List.filter_map, Function.comp_def, StoredSession.name, StoredSession.node]

end Directory

namespace DirectoryStore
open Directory

variable {ttl : Nat} {t : Moment} {id : String} {session : Session}
variable {records kept todo : List StoredSession} {r : StoredSession}

/-- Putting a session replaces the record of its id. The temporary file leaves no trace. -/
theorem put_ofStored (t : Moment) (id : String) (session : Session)
    (records : List StoredSession) : put t id session (ofStored records) =
      (.ok (), ofStored (records.filter (·.name != recordName id) ++ [⟨id, session, t.now⟩])) := by
  have hfile : ((ofStored records).place (temporaryName t.token) (.file session.write t.now)).find?
      (temporaryName t.token) = some (.file session.write t.now) := by
    rw [find?_place, if_pos rfl]
    rfl
  have htarget (modified : Instant) : ((ofStored records).place (temporaryName t.token)
      (.file session.write t.now)).find? (recordName id) ≠ some (.folder modified) := by
    rw [find?_place, if_neg (temporaryName_ne_recordName _ _).symm]
    exact find?_ofStored_ne_folder _ _ _
  have hstage : stage (ofStored records) t.now t.token session =
      .ok ((ofStored records).place (temporaryName t.token) (.file session.write t.now)) := rfl
  have hrename := rename_eq_ok hfile htarget
  rw [vacate_place_self, vacate_ofStored_of_absent fun _ => (temporaryName_ne_recordName _ _).symm,
    place_ofStored] at hrename
  rw [put, hstage]
  dsimp only
  rw [publish_eq_ok_iff.2 hrename]

/-- Taking a session removes the record of its id. The claim leaves no trace. -/
theorem take_ofStored (hread : Session.read? r.session.write = some r.session)
    (hfind : records.find? (·.name == recordName id) = some r) :
    take ttl t id (ofStored records) =
      (if r.session.isExpired ttl t.now then .error (.notFound id) else .ok r.session,
        ofStored (records.filter (·.name != recordName id))) := by
  have hrecord : (ofStored records).find? (recordName id) =
      some (.file r.session.write r.modified) := by
    rw [find?_ofStored, hfind]
    rfl
  have hrename := rename_eq_ok hrecord (find?_ofStored_ne_folder records (claimName id t.token))
  rw [vacate_ofStored] at hrename
  have hfile : ((ofStored (records.filter (·.name != recordName id))).place (claimName id t.token)
      (.file r.session.write r.modified)).find? (claimName id t.token) =
        some (.file r.session.write r.modified) := by
    rw [find?_place, if_pos rfl]
    rfl
  rw [take, claim_eq_ok_iff.2 hrename]
  dsimp only
  rw [read_eq_ok_iff.2 ⟨_, hfile⟩, judge, hread, discard, remove, hfile]
  dsimp only
  rw [vacate_place_self, vacate_ofStored_of_absent fun _ => recordName_ne_claimName _ _ _]

theorem filter_name_ne (hnames : ((kept ++ r :: todo).map (·.name)).Nodup) :
    (kept ++ r :: todo).filter (·.name != r.name) = kept ++ todo := by
  have hperm : ((kept ++ r :: todo).map (·.name)).Perm (r.name :: (kept ++ todo).map (·.name)) := by
    rw [List.map_append, List.map_cons, List.map_append]
    exact List.perm_middle
  have habsent := (List.nodup_cons.1 (hperm.nodup hnames)).1
  have hself : (kept ++ todo).filter (·.name != r.name) = kept ++ todo := by
    refine List.filter_eq_self.2 fun other hother => bne_iff_ne.2 fun heq => habsent ?_
    exact heq ▸ List.mem_map_of_mem hother
  rw [List.filter_append] at hself ⊢
  rwa [List.filter_cons_of_neg (by simp)]

theorem removeDead_ofStored (count : Nat) (hnames : ((kept ++ r :: todo).map (·.name)).Nodup) :
    removeDead r.name (ofStored (kept ++ r :: todo)) count =
      (ofStored (kept ++ todo), count + 1) := by
  have hfile : (ofStored (kept ++ r :: todo)).find? r.name =
      some (.file r.session.write r.modified) := find?_ofStored_of_mem hnames (by simp)
  rw [removeDead, remove, hfile]
  dsimp only
  rw [vacate_ofStored, filter_name_ne hnames]

/-- Visiting all records removes and counts those that are expired. -/
theorem visit_ofStored {now : Instant} (kept : List StoredSession) (count : Nat)
    (hnames : ((kept ++ todo).map (·.name)).Nodup)
    (hread : ∀ r ∈ todo, Session.read? r.session.write = some r.session) :
    visit ttl now (ofStored (kept ++ todo)) count (todo.map (·.name)) =
      (.ok (count + todo.countP (·.session.isExpired ttl now)),
        ofStored (kept ++ todo.filter (!·.session.isExpired ttl now))) := by
  induction todo generalizing kept count with
  | nil => simp [visit]
  | cons r todo ih =>
    rw [List.forall_mem_cons] at hread
    have hdead : isDead ttl now r.name (ofStored (kept ++ r :: todo)) =
        .ok (r.session.isExpired ttl now) :=
      isDead_recordName (find?_ofStored_of_mem hnames (by simp)) hread.1
    rw [List.map_cons, visit, hdead]
    cases hexpired : r.session.isExpired ttl now with
    | false =>
      rw [List.append_cons] at hnames ⊢
      dsimp only
      rw [ih _ count hnames hread.2, List.countP_cons_of_neg (by simp [hexpired]),
        List.filter_cons_of_pos (by simp [hexpired]), ← List.append_cons]
    | true =>
      have hrest : ((kept ++ todo).map (·.name)).Nodup :=
        hnames.sublist (((List.sublist_cons_self r todo).append_left kept).map _)
      dsimp only
      rw [removeDead_ofStored count hnames, ih _ (count + 1) hrest hread.2,
        List.countP_cons_of_pos (by simp [hexpired]), List.filter_cons_of_neg (by simp [hexpired]),
        Nat.add_assoc, Nat.add_comm 1]

theorem cleanUp_ofStored {now : Instant} (hnames : (records.map (·.name)).Nodup)
    (hread : ∀ r ∈ records, Session.read? r.session.write = some r.session) :
    cleanUp ttl now (ofStored records) =
      (.ok (records.countP (·.session.isExpired ttl now)),
        ofStored (records.filter (!·.session.isExpired ttl now))) := by
  have hlist : (ofStored records).list = .ok (records.map (·.name)) := by
    simp [Directory.list, ofStored, Function.comp_def]
  rw [cleanUp, hlist]
  dsimp only
  rw [← Nat.zero_add (records.countP _)]
  exact visit_ofStored [] 0 hnames hread

end DirectoryStore

/-! ## The two stores -/

inductive StoreRequest where
  | put (id : String) (session : Session)
  | take (id : String)
  | removeExpired

inductive StoreAnswer where
  | put (result : Except SessionError Unit)
  | taken (result : Except SessionError Session)
  | removed (result : Except SessionError Nat)
  deriving DecidableEq

def StoreAnswer.error? : StoreAnswer → Option SessionError
  | put (.error e) | taken (.error e) | removed (.error e) => some e
  | _ => none

namespace StoreRequest

def id? : StoreRequest → Option String
  | put id _ | take id => some id
  | removeExpired => none

/-- A session is put only if it was created at an instant that can be written. -/
def IsValid : StoreRequest → Prop
  | put _ session => session.createdAt.IsValid
  | _ => True

def serve {σ : Type} [SessionStore σ] (t : Moment) (store : σ) : StoreRequest → StoreAnswer × σ
  | put id session =>
    let r := SessionStore.put t id session store
    (.put r.1, r.2)
  | take id =>
    let r := SessionStore.take t id store
    (.taken r.1, r.2)
  | removeExpired =>
    let r := SessionStore.removeExpired t store
    (.removed r.1, r.2)

end StoreRequest

def answers {σ : Type} [SessionStore σ] (store : σ) : List (Moment × StoreRequest) → List StoreAnswer
  | [] => []
  | (t, r) :: requests => (r.serve t store).1 :: answers (r.serve t store).2 requests

namespace InterchangeableStores
open Directory DirectoryStore

/-- The directory of a store holds the sessions of a store in memory, all under ids of a set. -/
structure Mirrors (ids : Set String) (records : List StoredSession) (m : MemoryStore)
    (f : DirectoryStore) : Prop where
  eq_ofStored : f = ⟨m.ttl, ofStored records⟩
  perm : (records.map (·.entry)).Perm m.sessions
  names_nodup : (records.map (·.name)).Nodup
  mem_ids : ∀ r ∈ records, r.id ∈ ids
  read?_write : ∀ r ∈ records, Session.read? r.session.write = some r.session

variable {ids : Set String} {records : List StoredSession} {m : MemoryStore} {f : DirectoryStore}
variable {t : Moment} {id : String} {session : Session}

theorem Mirrors.sublist {kept : List StoredSession} {m' : MemoryStore} (h : Mirrors ids records m f)
    (hkept : kept.Sublist records) (httl : m'.ttl = m.ttl)
    (hperm : (kept.map (·.entry)).Perm m'.sessions) :
    Mirrors ids kept m' ⟨f.ttl, ofStored kept⟩ where
  eq_ofStored := by rw [h.eq_ofStored, httl]
  perm := hperm
  names_nodup := h.names_nodup.sublist (hkept.map _)
  mem_ids r hr := h.mem_ids r (hkept.subset hr)
  read?_write r hr := h.read?_write r (hkept.subset hr)

theorem Mirrors.name_eq_iff (h : Mirrors ids records m f) (hdigest : Set.InjOn digest ids)
    (hid : id ∈ ids) {r : StoredSession} (hr : r ∈ records) :
    r.name = recordName id ↔ r.id = id :=
  ⟨fun hname => hdigest (h.mem_ids r hr) hid (digest_eq_of_recordName hname), congrArg recordName⟩

/-- Both stores forget the session of an id. -/
theorem Mirrors.erase (h : Mirrors ids records m f) (hdigest : Set.InjOn digest ids)
    (hid : id ∈ ids) :
    Mirrors ids (records.filter (·.name != recordName id)) (m.erase id)
      ⟨f.ttl, ofStored (records.filter (·.name != recordName id))⟩ := by
  refine h.sublist List.filter_sublist rfl ?_
  have hfilter : records.filter (·.name != recordName id) = records.filter (·.entry.1 != id) := by
    refine List.filter_congr fun r hr => ?_
    rw [Bool.eq_iff_iff, bne_iff_ne, bne_iff_ne]
    exact not_congr (h.name_eq_iff hdigest hid hr)
  rw [hfilter]
  have hperm := h.perm.filter (·.1 != id)
  rwa [List.filter_map] at hperm

theorem Mirrors.put (h : Mirrors ids records m f) (hdigest : Set.InjOn digest ids) (hid : id ∈ ids)
    (hvalid : session.createdAt.IsValid) (now : Instant) :
    Mirrors ids (records.filter (·.name != recordName id) ++ [⟨id, session, now⟩])
      (m.insert id session)
      ⟨f.ttl, ofStored (records.filter (·.name != recordName id) ++ [⟨id, session, now⟩])⟩ := by
  have herase := h.erase hdigest hid
  exact {
    eq_ofStored := by rw [h.eq_ofStored]; rfl
    perm := by
      rw [List.map_append]
      exact (List.perm_append_singleton _ _).trans (herase.perm.cons _)
    names_nodup := by
      rw [List.map_append, List.nodup_append]
      refine ⟨herase.names_nodup, List.nodup_singleton _, fun name hname other hother => ?_⟩
      obtain ⟨r, hr, rfl⟩ := List.mem_map.1 hname
      obtain rfl := List.mem_singleton.1 hother
      exact bne_iff_ne.1 (List.mem_filter.1 hr).2
    mem_ids := fun r hr => by
      rcases List.mem_append.1 hr with hr | hr
      · exact herase.mem_ids r hr
      · obtain rfl := List.mem_singleton.1 hr
        exact hid
    read?_write := fun r hr => by
      rcases List.mem_append.1 hr with hr | hr
      · exact herase.read?_write r hr
      · obtain rfl := List.mem_singleton.1 hr
        exact Session.read?_write_of_isValid hvalid }

theorem Mirrors.ids_nodup (h : Mirrors ids records m f) : (m.sessions.map (·.1)).Nodup := by
  have hperm := h.perm.map (·.1)
  rw [List.map_map] at hperm
  have hnames := h.names_nodup
  rw [show (fun r : StoredSession => r.name) = recordName ∘ (·.id) from rfl, ← List.map_map]
    at hnames
  exact hperm.nodup_iff.1 (List.Nodup.of_map _ hnames)

/-- Both stores find the same session under an id. -/
theorem Mirrors.find?_eq (h : Mirrors ids records m f) (hdigest : Set.InjOn digest ids)
    (hid : id ∈ ids) :
    m.find? id = (records.find? (·.name == recordName id)).map (·.session) := by
  cases hfind : records.find? (·.name == recordName id) with
  | none =>
    rw [Option.map_none, Option.eq_none_iff_forall_ne_some]
    intro session hsession
    obtain ⟨r, hr, hentry⟩ := List.mem_map.1 (h.perm.mem_iff.2 (Fields.mem_of_get? hsession))
    have hid : r.id = id := congrArg Prod.fst hentry
    exact List.find?_eq_none.1 hfind r hr (beq_iff_eq.2 (congrArg recordName hid))
  | some r =>
    have hr := List.mem_of_find?_eq_some hfind
    have hname : r.name = recordName id := by simpa using List.find?_some hfind
    have hmem : r.entry ∈ m.sessions := h.perm.subset (List.mem_map_of_mem hr)
    rw [StoredSession.entry, (h.name_eq_iff hdigest hid hr).1 hname] at hmem
    exact (Fields.get?_eq_some_iff h.ids_nodup).2 hmem

theorem Mirrors.withoutExpired (h : Mirrors ids records m f) (now : Instant) :
    Mirrors ids (records.filter (!·.session.isExpired m.ttl now)) (m.withoutExpired now)
      ⟨f.ttl, ofStored (records.filter (!·.session.isExpired m.ttl now))⟩ := by
  refine h.sublist List.filter_sublist rfl ?_
  have hperm := h.perm.filter fun e => !e.2.isExpired m.ttl now
  rwa [List.filter_map] at hperm

theorem Mirrors.countP_eq (h : Mirrors ids records m f) (now : Instant) :
    records.countP (·.session.isExpired m.ttl now) =
      m.sessions.length - (m.withoutExpired now).sessions.length := by
  have hcount := h.perm.countP_eq fun e => e.2.isExpired m.ttl now
  rw [List.countP_map] at hcount
  have hlength := List.length_eq_countP_add_countP (l := m.sessions) fun e => e.2.isExpired m.ttl now
  have hkept : (m.withoutExpired now).sessions.length =
      m.sessions.countP fun e => decide ¬e.2.isExpired m.ttl now = true := by
    rw [MemoryStore.withoutExpired, List.countP_eq_length_filter]
    simp
  rw [hkept, hlength, Nat.add_sub_cancel]
  exact hcount

/-- A request is answered alike by both stores, and they stay alike. -/
theorem Mirrors.serve (h : Mirrors ids records m f) (hdigest : Set.InjOn digest ids)
    {request : StoreRequest} (hids : ∀ id, request.id? = some id → id ∈ ids)
    (hvalid : request.IsValid) :
    (request.serve t f).1 = (request.serve t m).1 ∧
      ∃ records', Mirrors ids records' (request.serve t m).2 (request.serve t f).2 := by
  obtain rfl := h.eq_ofStored
  cases request with
  | put id session =>
    simp only [StoreRequest.serve, SessionStore.put, put_ofStored]
    exact ⟨trivial, _, h.put hdigest (hids id rfl) hvalid t.now⟩
  | take id =>
    have hfound := h.find?_eq hdigest (hids id rfl)
    simp only [StoreRequest.serve, SessionStore.take, MemoryStore.take, hfound]
    cases hfind : records.find? (·.name == recordName id) with
    | none =>
      have habsent : (ofStored records).find? (recordName id) = none := by
        rw [find?_ofStored, hfind]
        rfl
      rw [take_of_absent habsent]
      exact ⟨rfl, records, h⟩
    | some r =>
      rw [take_ofStored (h.read?_write r (List.mem_of_find?_eq_some hfind)) hfind]
      exact ⟨rfl, _, h.erase hdigest (hids id rfl)⟩
  | removeExpired =>
    simp only [StoreRequest.serve, SessionStore.removeExpired,
      cleanUp_ofStored h.names_nodup h.read?_write, h.countP_eq]
    exact ⟨trivial, _, h.withoutExpired t.now⟩

theorem Mirrors.answers_eq {requests : List (Moment × StoreRequest)}
    (h : Mirrors ids records m f) (hdigest : Set.InjOn digest ids)
    (hids : ∀ request ∈ requests, ∀ id, request.2.id? = some id → id ∈ ids)
    (hvalid : ∀ request ∈ requests, request.2.IsValid) :
    answers f requests = answers m requests := by
  induction requests generalizing records m f with
  | nil => rfl
  | cons request requests ih =>
    rw [List.forall_mem_cons] at hids hvalid
    obtain ⟨heq, records', hrest⟩ := h.serve (t := request.1) hdigest hids.1 hvalid.1
    rw [answers, answers, heq, ih hrest hids.2 hvalid.2]

/-- A store in memory fails only when it is asked for a session that it does not have. -/
theorem notFound_of_answers (m : MemoryStore) {requests : List (Moment × StoreRequest)}
    {answer : StoreAnswer} (hanswer : answer ∈ answers m requests) {e : SessionError}
    (he : answer.error? = some e) : ∃ id, e = .notFound id := by
  induction requests generalizing m with
  | nil => cases hanswer
  | cons request requests ih =>
    rw [answers, List.mem_cons] at hanswer
    rcases hanswer with rfl | hanswer
    · obtain ⟨t, request⟩ := request
      cases request with
      | put id session => cases he
      | take id =>
        refine ⟨id, ?_⟩
        simp only [StoreRequest.serve, SessionStore.take, MemoryStore.take] at he
        split at he
        · exact (Option.some.inj he).symm
        · split at he
          · exact (Option.some.inj he).symm
          · cases he
      | removeExpired => cases he
    · exact ih _ hanswer

/-- An empty directory and an empty memory answer alike to any requests, whatever the clock. No
request fails but for a session that is not there. -/
theorem answers_directory_eq_memory (ttl : Nat) (requests : List (Moment × StoreRequest))
    (hdigest : Set.InjOn digest {id | ∃ request ∈ requests, request.2.id? = some id})
    (hvalid : ∀ request ∈ requests, request.2.IsValid) :
    answers ({ ttl } : DirectoryStore) requests = answers ({ ttl } : MemoryStore) requests ∧
      ∀ answer ∈ answers ({ ttl } : DirectoryStore) requests, ∀ e, answer.error? = some e →
        ∃ id, e = .notFound id := by
  have hempty : Mirrors {id | ∃ request ∈ requests, request.2.id? = some id} []
      ({ ttl } : MemoryStore) ({ ttl } : DirectoryStore) :=
    ⟨rfl, .refl _, List.nodup_nil, nofun, nofun⟩
  have heq := hempty.answers_eq hdigest (fun request hr id hid => ⟨request, hr, hid⟩) hvalid
  refine ⟨heq, fun answer hanswer e he => ?_⟩
  rw [heq] at hanswer
  exact notFound_of_answers _ hanswer he

def firstUpload : Session :=
  ⟨"photos", "cat.jpg", some "image/jpeg", ⟨0, 0⟩⟩

def secondUpload : Session :=
  ⟨"photos", "dog.jpg", none, ⟨604800, 500000000⟩⟩

/-- The first upload is taken when it is expired, and put once more before a cleanup. -/
def uploadRequests : List (Moment × StoreRequest) :=
  [(⟨⟨0, 0⟩, "T1", rfl⟩, .put "U1" firstUpload),
    (⟨⟨604800, 500000000⟩, "T2", rfl⟩, .put "U2" secondUpload),
    (⟨⟨604801, 0⟩, "T3", rfl⟩, .take "U1"), (⟨⟨604801, 0⟩, "T4", rfl⟩, .put "U1" firstUpload),
    (⟨⟨604802, 0⟩, "T5", rfl⟩, .removeExpired), (⟨⟨604803, 0⟩, "T6", rfl⟩, .take "U2"),
    (⟨⟨604803, 0⟩, "T7", rfl⟩, .take "U2")]

theorem answers_uploadRequests :
    let answered := answers ({ ttl := 604800000000000 } : DirectoryStore) uploadRequests
    answered = [.put (.ok ()), .put (.ok ()), .taken (.error (.notFound "U1")), .put (.ok ()),
      .removed (.ok 1), .taken (.ok secondUpload), .taken (.error (.notFound "U2"))] ∧
    answered = answers ({ ttl := 604800000000000 } : MemoryStore) uploadRequests ∧
      ∀ answer ∈ answered, ∀ e, answer.error? = some e → ∃ id, e = .notFound id := by
  have hids : ∀ request ∈ uploadRequests, ∀ id ∈ request.2.id?, id ∈ ["U1", "U2"] := by
    decide
  have hnodup : (["U1", "U2"].map digest).Nodup := by decide +kernel
  have hdigest : Set.InjOn digest {id | ∃ request ∈ uploadRequests, request.2.id? = some id} := by
    rintro id ⟨request, hrequest, hid⟩ id' ⟨request', hrequest', hid'⟩ hsame
    exact List.inj_on_of_nodup_map hnodup (hids request hrequest id hid)
      (hids request' hrequest' id' hid') hsame
  have hvalid : ∀ request ∈ uploadRequests, request.2.IsValid := by
    simp only [uploadRequests, List.forall_mem_cons]
    exact ⟨⟨by decide, by decide⟩, ⟨by decide, by decide⟩, trivial, ⟨by decide, by decide⟩, trivial,
      trivial, trivial, nofun⟩
  exact ⟨by decide +kernel, answers_directory_eq_memory _ _ hdigest hvalid⟩

end InterchangeableStores
end SealingProxy
