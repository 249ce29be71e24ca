import SealingProxy.Proofs.InterchangeableStores
import SealingProxy.Proofs.SessionRuns
/-! # Cleanups that no one observes

A cleanup takes nothing from a store but sessions that no later request would be given. So requests
are answered alike with cleanups among them and without. For this it is enough to know of a store
which sessions are present and under which keys: the ids in memory, the names of the records in a
directory. -/

namespace SealingProxy

/-! ## Requests in a row -/

def serveAll {σ : Type} [SessionStore σ] (store : σ) : List (Moment × StoreRequest) → σ
  | [] => store
  | (t, r) :: requests => serveAll (r.serve t store).2 requests

theorem length_answers {σ : Type} [SessionStore σ] (store : σ)
    (requests : List (Moment × StoreRequest)) :
    (answers store requests).length = requests.length := by
  induction requests generalizing store with
  | nil => rfl
  | cons request requests ih => rw [answers, List.length_cons, ih, List.length_cons]

theorem answers_append {σ : Type} [SessionStore σ] (store : σ)
    (before after : List (Moment × StoreRequest)) :
    answers store (before ++ after) =
      answers store before ++ answers (serveAll store before) after := by
  induction before generalizing store with
  | nil => rfl
  | cons request before ih =>
    rw [List.cons_append, answers, ih, answers, serveAll, List.cons_append]

/-- No session is put that was opened in a second number sixty. -/
def StoreRequest.IsRegular : StoreRequest → Prop
  | put _ session => session.createdAt.isLeapSecond = false
  | _ => True

def StoreRequest.isCleanUp : StoreRequest → Bool
  | removeExpired => true
  | _ => false

def StoreAnswer.isOfCleanUp : StoreAnswer → Bool
  | removed _ => true
  | _ => false

/-! ## Stores as others see them -/

/-- What requests that come one after another can tell of the stores of a type. -/
structure Keeping (σ : Type) [SessionStore σ] where
  ttl : Nat
  /-- What an id is kept under. -/
  key : String → String
  present : σ → Fields Session
  /-- What holds of a store between two requests. -/
  IsSound : σ → Prop
  exists_put {store : σ} {session : Session} (hstore : IsSound store)
    (hvalid : session.createdAt.IsValid) (t : Moment) (id : String) :
    ∃ store', SessionStore.put t id session store = (.ok (), store') ∧ IsSound store' ∧
      ∀ name, (present store').get? name =
        if name = key id then some session else (present store).get? name
  exists_take {store : σ} (hstore : IsSound store) (t : Moment) (id : String) :
    ∃ store', SessionStore.take t id store =
        ((((present store).get? (key id)).filter (!·.isExpired ttl t.now)).elim
          (.error (.notFound id)) .ok, store') ∧ IsSound store' ∧
      ∀ name, (present store').get? name =
        if name = key id then none else (present store).get? name
  exists_removeExpired {store : σ} (hstore : IsSound store) (t : Moment) :
    ∃ store', SessionStore.removeExpired t store =
        (.ok ((present store).countP (·.2.isExpired ttl t.now)), store') ∧ IsSound store' ∧
      ∀ name, (present store').get? name =
        ((present store).get? name).filter (!·.isExpired ttl t.now)

namespace Keeping

variable {σ : Type} [SessionStore σ]

def alive? (k : Keeping σ) (now : Instant) (store : σ) (name : String) : Option Session :=
  ((k.present store).get? name).filter (!·.isExpired k.ttl now)

/-- Two stores have the same sessions, but for those that are expired. -/
def Agree (k : Keeping σ) (now : Instant) (store other : σ) : Prop :=
  ∀ name, k.alive? now store name = k.alive? now other name

/-- No session that is present was opened in a second number sixty. -/
def IsRegular (k : Keeping σ) (store : σ) : Prop :=
  ∀ name session, (k.present store).get? name = some session →
    session.createdAt.isLeapSecond = false

variable {k : Keeping σ} {now : Instant} {store store' other other' : σ} {t : Moment}
variable {request : StoreRequest} {requests : List (Moment × StoreRequest)}

theorem alive?_of_le {later : Instant} (hstore : k.IsRegular store)
    (hnow : now.isLeapSecond = false) (hlater : later.isLeapSecond = false)
    (hle : now.ticks ≤ later.ticks) (name : String) :
    k.alive? later store name =
      (k.alive? now store name).filter (!·.isExpired k.ttl later) := by
  rw [alive?, alive?, Option.filter_filter]
  cases hfound : (k.present store).get? name with
  | none => rfl
  | some session =>
    rw [Option.filter_some, Option.filter_some]
    cases hexpired : session.isExpired k.ttl later with
    | true => rw [Bool.not_true, Bool.and_false]
    | false =>
      rw [Session.isExpired_eq_false_of_le (hstore name session hfound) hnow hlater hle hexpired]
      rfl

/-- What is expired stays so: stores that agree will agree at any later time. -/
theorem Agree.of_le {later : Instant} (h : k.Agree now store other) (hstore : k.IsRegular store)
    (hother : k.IsRegular other) (hnow : now.isLeapSecond = false)
    (hlater : later.isLeapSecond = false) (hle : now.ticks ≤ later.ticks) :
    k.Agree later store other := by
  intro name
  rw [alive?_of_le hstore hnow hlater hle, alive?_of_le hother hnow hlater hle, h name]

/-- Stores that agree still do when both change in the same way under one name. -/
theorem Agree.update (h : k.Agree now store other) (id : String) (found : Option Session)
    (hstore : ∀ name, (k.present store').get? name =
      if name = k.key id then found else (k.present store).get? name)
    (hother : ∀ name, (k.present other').get? name =
      if name = k.key id then found else (k.present other).get? name) :
    k.Agree now store' other' := by
  intro name
  rw [alive?, alive?, hstore, hother]
  split
  · rfl
  · exact h name

/-- A session that is present after a request was so before, unless the request puts it. -/
theorem serve_spec (hstore : k.IsSound store) (hvalid : request.IsValid) (t : Moment) :
    k.IsSound (request.serve t store).2 ∧ ∀ name session,
      (k.present (request.serve t store).2).get? name = some session →
        (k.present store).get? name = some session ∨ ∃ id, request = .put id session := by
  cases request with
  | put id opened =>
    obtain ⟨store', hput, hsound, hget⟩ := k.exists_put hstore hvalid t id
    rw [StoreRequest.serve, hput]
    refine ⟨hsound, fun name session hfound => ?_⟩
    rw [hget] at hfound
    split at hfound
    · exact .inr ⟨id, congrArg _ (Option.some.inj hfound)⟩
    · exact .inl hfound
  | take id =>
    obtain ⟨store', htake, hsound, hget⟩ := k.exists_take hstore t id
    rw [StoreRequest.serve, htake]
    refine ⟨hsound, fun name session hfound => ?_⟩
    rw [hget] at hfound
    split at hfound
    · cases hfound
    · exact .inl hfound
  | removeExpired =>
    obtain ⟨store', hremove, hsound, hget⟩ := k.exists_removeExpired hstore t
    rw [StoreRequest.serve, hremove]
    refine ⟨hsound, fun name session hfound => ?_⟩
    rw [hget] at hfound
    exact .inl (Option.filter_eq_some_iff.1 hfound).1

theorem IsRegular.serve (h : k.IsRegular store) (hstore : k.IsSound store)
    (hvalid : request.IsValid) (hrequest : request.IsRegular) :
    k.IsRegular (request.serve t store).2 := by
  intro name session hfound
  obtain hbefore | ⟨id, rfl⟩ := (serve_spec hstore hvalid t).2 name session hfound
  · exact h name session hbefore
  · exact hrequest

theorem isSound_serveAll (hstore : k.IsSound store)
    (hvalid : ∀ request ∈ requests, request.2.IsValid) : k.IsSound (serveAll store requests) := by
  induction requests generalizing store with
  | nil => exact hstore
  | cons request requests ih =>
    rw [List.forall_mem_cons] at hvalid
    exact ih (serve_spec hstore hvalid.1 _).1 hvalid.2

/-- A request that is no cleanup is answered alike by stores that agree, and they still do. -/
theorem Agree.serve (h : k.Agree t.now store other) (hstore : k.IsSound store)
    (hother : k.IsSound other) (hvalid : request.IsValid) (hrequest : request.isCleanUp = false) :
    (request.serve t store).1 = (request.serve t other).1 ∧
      (request.serve t store).1.isOfCleanUp = false ∧
      k.Agree t.now (request.serve t store).2 (request.serve t other).2 := by
  cases request with
  | put id session =>
    obtain ⟨store', hput, -, hfound⟩ := k.exists_put hstore hvalid t id
    obtain ⟨other', hput', -, hfound'⟩ := k.exists_put hother hvalid t id
    rw [StoreRequest.serve, StoreRequest.serve, hput, hput']
    exact ⟨rfl, rfl, h.update id (some session) hfound hfound'⟩
  | take id =>
    obtain ⟨store', htake, -, hfound⟩ := k.exists_take hstore t id
    obtain ⟨other', htake', -, hfound'⟩ := k.exists_take hother t id
    have halive := h (k.key id)
    rw [alive?, alive?] at halive
    rw [StoreRequest.serve, StoreRequest.serve, htake, htake', halive]
    exact ⟨rfl, rfl, h.update id none hfound hfound'⟩
  | removeExpired => cases hrequest

/-- A cleanup leaves a store that agrees with what it was. -/
theorem Agree.cleanUp (h : k.Agree t.now store other) (hstore : k.IsSound store) :
    (StoreRequest.removeExpired.serve t store).1 =
        .removed (.ok ((k.present store).countP (·.2.isExpired k.ttl t.now))) ∧
      k.Agree t.now (StoreRequest.removeExpired.serve t store).2 other := by
  obtain ⟨store', hremove, -, hfound⟩ := k.exists_removeExpired hstore t
  rw [StoreRequest.serve, hremove]
  refine ⟨rfl, fun name => ?_⟩
  rw [← h name, alive?, alive?, hfound, Option.filter_filter]
  simp only [Bool.and_self]

/-- Stores that agree answer alike, the one with cleanups among the requests, the other without. -/
theorem Agree.answers_filter (h : k.Agree now store other) (hnow : now.isLeapSecond = false)
    (hstore : k.IsSound store ∧ k.IsRegular store) (hother : k.IsSound other ∧ k.IsRegular other)
    (hvalid : ∀ request ∈ requests, request.2.IsValid)
    (hregular : ∀ request ∈ requests, request.2.IsRegular)
    (hlater : ∀ request ∈ requests, now.ticks ≤ request.1.now.ticks)
    (hclock : requests.Pairwise fun earlier later => earlier.1.now.ticks ≤ later.1.now.ticks) :
    (answers store requests).filter (!·.isOfCleanUp) =
      answers other (requests.filter (!·.2.isCleanUp)) := by
  induction requests generalizing now store other with
  | nil => rfl
  | cons request requests ih =>
    obtain ⟨t, request⟩ := request
    rw [List.forall_mem_cons] at hvalid hregular hlater
    rw [List.pairwise_cons] at hclock
    have hagree : k.Agree t.now store other :=
      h.of_le hstore.2 hother.2 hnow t.regular hlater.1
    have hkept {store : σ} (h : k.IsSound store ∧ k.IsRegular store) :
        k.IsSound (request.serve t store).2 ∧ k.IsRegular (request.serve t store).2 :=
      ⟨(serve_spec h.1 hvalid.1 t).1, h.2.serve h.1 hvalid.1 hregular.1⟩
    rw [answers]
    cases hrequest : request.isCleanUp with
    | false =>
      obtain ⟨heq, hkind, hrest⟩ := hagree.serve hstore.1 hother.1 hvalid.1 hrequest
      rw [List.filter_cons_of_pos (by simp [hkind]), List.filter_cons_of_pos (by simp [hrequest]),
        answers, heq, ih hrest t.regular (hkept hstore) (hkept hother) hvalid.2 hregular.2 hclock.1
          hclock.2]
    | true =>
      cases request with
      | put => cases hrequest
      | take => cases hrequest
      | removeExpired =>
        obtain ⟨heq, hrest⟩ := hagree.cleanUp hstore.1
        rw [heq, List.filter_cons_of_neg (by simp [StoreAnswer.isOfCleanUp]),
          List.filter_cons_of_neg (by simp [StoreRequest.isCleanUp]),
          ih hrest t.regular (hkept hstore) hother hvalid.2 hregular.2 hclock.1 hclock.2]

/-- A cleanup tells how many sessions are present and expired when its turn comes. -/
theorem getElem?_answers_cleanUp {before after : List (Moment × StoreRequest)}
    (hstore : k.IsSound store) (hvalid : ∀ request ∈ before, request.2.IsValid) :
    (answers store (before ++ (t, .removeExpired) :: after))[before.length]? =
      some (.removed (.ok
        ((k.present (serveAll store before)).countP (·.2.isExpired k.ttl t.now)))) := by
  have hagree : k.Agree t.now (serveAll store before) (serveAll store before) := fun _ => rfl
  rw [answers_append, ← length_answers store before, List.getElem?_append_right le_rfl,
    Nat.sub_self, answers, (hagree.cleanUp (isSound_serveAll hstore hvalid)).1]
  rfl

end Keeping

/-! ## The two stores -/

theorem Session.ite_isExpired_eq_elim_filter (session : Session) (ttl : Nat) (now : Instant)
    (e : SessionError) :
    (if session.isExpired ttl now then Except.error e else Except.ok session) =
      ((some session).filter (!·.isExpired ttl now)).elim (Except.error e) Except.ok := by
  rw [Option.filter_some]
  cases session.isExpired ttl now <;> rfl

namespace MemoryStore

/-- A store in memory as it comes about: with each id once. -/
structure IsSound (ttl : Nat) (m : MemoryStore) : Prop where
  ttl_eq : m.ttl = ttl
  nodup : (m.sessions.map (·.1)).Nodup

variable {ttl : Nat} {m : MemoryStore}

theorem IsSound.filter (h : m.IsSound ttl) (p : String × Session → Bool) :
    IsSound ttl { m with sessions := m.sessions.filter p } :=
  ⟨h.ttl_eq, h.nodup.sublist (List.filter_sublist.map _)⟩

theorem IsSound.insert (h : m.IsSound ttl) (id : String) (session : Session) :
    (m.insert id session).IsSound ttl := by
  refine ⟨h.ttl_eq, ?_⟩
  rw [MemoryStore.insert, List.map_cons, List.nodup_cons]
  refine ⟨fun hmem => ?_, (h.filter (·.1 != id)).nodup⟩
  obtain ⟨entry, hentry, hid⟩ := List.mem_map.1 hmem
  exact bne_iff_ne.1 (List.mem_filter.1 hentry).2 hid

theorem get?_insert (m : MemoryStore) (id : String) (session : Session) (name : String) :
    Fields.get? (m.insert id session).sessions name =
      if name = id then some session else Fields.get? m.sessions name := by
  rw [insert, Fields.get?_cons, erase, Fields.get?_filter_ne]
  rcases eq_or_ne name id with rfl | hname
  · rw [if_pos rfl, if_pos rfl]
  · rw [if_neg hname, if_neg hname, if_neg hname.symm]

theorem take_eq (m : MemoryStore) (now : Instant) (id : String) : m.take now id =
    (((Fields.get? m.sessions id).filter (!·.isExpired m.ttl now)).elim (.error (.notFound id)) .ok,
      m.erase id) := by
  refine Prod.ext ?_ (m.take_snd now id)
  rw [take, find?, Fields.get?]
  cases (m.sessions.find? (·.1 == id)).map (·.2) with
  | none => rfl
  | some session => exact session.ite_isExpired_eq_elim_filter m.ttl now _

theorem length_sub_length_withoutExpired (m : MemoryStore) (now : Instant) :
    m.sessions.length - (m.withoutExpired now).sessions.length =
      m.sessions.countP (·.2.isExpired m.ttl now) := by
  have hlength := List.length_eq_countP_add_countP (l := m.sessions)
    fun e => e.2.isExpired m.ttl now
  have hkept : (m.withoutExpired now).sessions.length =
      m.sessions.countP fun e => decide ¬e.2.isExpired m.ttl now = true := by
    rw [withoutExpired, List.countP_eq_length_filter]
    simp
  rw [hkept, hlength, Nat.add_sub_cancel]

def keeping (ttl : Nat) : Keeping MemoryStore where
  ttl := ttl
  key := id
  present := sessions
  IsSound := IsSound ttl
  exists_put {m session} hm _ _ id :=
    ⟨m.insert id session, rfl, hm.insert id session, m.get?_insert id session⟩
  exists_take {m} hm t id := by
    obtain rfl := hm.ttl_eq
    exact ⟨m.erase id, m.take_eq t.now id, hm.filter (·.1 != id),
      Fields.get?_filter_ne m.sessions id⟩
  exists_removeExpired {m} hm t := by
    obtain rfl := hm.ttl_eq
    have hcount := m.length_sub_length_withoutExpired t.now
    exact ⟨m.withoutExpired t.now, Prod.ext (congrArg Except.ok hcount) rfl,
      hm.filter (!·.2.isExpired m.ttl t.now),
      Fields.get?_filter hm.nodup fun s => !s.isExpired m.ttl t.now⟩

end MemoryStore

namespace DirectoryStore
open Directory

/-- The session of a record that stands in a directory, under the name of the record. -/
def present? : String × Node → Option (String × Session)
  | (name, .file content _) =>
    if isRecordName name && !isPassing name then (Session.read? content).map (name, ·) else none
  | (_, .folder _) => none

def present (f : DirectoryStore) : Fields Session :=
  (f.directory.nodes.getD []).filterMap present?

/-- Records under different names, each of which reads as the session that it was written for. -/
structure AreRecords (records : List StoredSession) : Prop where
  names_nodup : (records.map (·.name)).Nodup
  read?_write : ∀ r ∈ records, Session.read? r.session.write = some r.session

variable {ttl : Nat} {records kept : List StoredSession} {session : Session} {r : StoredSession}

namespace AreRecords

theorem sublist (h : AreRecords records) (hkept : kept.Sublist records) : AreRecords kept :=
  ⟨h.names_nodup.sublist (hkept.map _), fun r hr => h.read?_write r (hkept.subset hr)⟩

theorem without (h : AreRecords records) (name : String) :
    AreRecords (records.filter (·.name != name)) :=
  h.sublist List.filter_sublist

theorem replace (h : AreRecords records) (id : String)
    (hread : Session.read? session.write = some session) (now : Instant) :
    AreRecords (records.filter (·.name != recordName id) ++ [⟨id, session, now⟩]) where
  names_nodup := by
    rw [List.map_append, List.nodup_append]
    refine ⟨(h.without _).names_nodup, List.nodup_singleton _, fun name hname other hother => ?_⟩
    obtain ⟨kept, hkept, rfl⟩ := List.mem_map.1 hname
    obtain rfl := List.mem_singleton.1 hother
    exact bne_iff_ne.1 (List.mem_filter.1 hkept).2
  read?_write := by
    rw [List.forall_mem_append, List.forall_mem_singleton]
    exact ⟨(h.without _).read?_write, hread⟩

end AreRecords

theorem present?_entry (hread : Session.read? r.session.write = some r.session) :
    present? (r.name, r.node) = some (r.name, r.session) := by
  rw [StoredSession.node, present?, StoredSession.name, isRecordName_recordName,
    isPassing_recordName, hread, Bool.not_false, Bool.and_self, if_pos rfl, Option.map_some]

theorem present_ofStored (h : AreRecords records) :
    present ⟨ttl, ofStored records⟩ = records.map fun r => (r.name, r.session) := by
  rw [present, ofStored, Option.getD_some, List.filterMap_map, ← List.filterMap_eq_map]
  refine List.filterMap_congr fun r hr => ?_
  rw [Function.comp_apply, present?_entry (h.read?_write r hr), Function.comp_apply]

theorem present_filter (h : AreRecords records) (p : String × Session → Bool) :
    present ⟨ttl, ofStored (records.filter fun r => p (r.name, r.session))⟩ =
      (present ⟨ttl, ofStored records⟩).filter p := by
  rw [present_ofStored (h.sublist List.filter_sublist), present_ofStored h, List.filter_map]
  rfl

theorem get?_present_without (h : AreRecords records) (name other : String) :
    (present ⟨ttl, ofStored (records.filter (·.name != name))⟩).get? other =
      if other = name then none else (present ⟨ttl, ofStored records⟩).get? other := by
  rw [← Fields.get?_filter_ne, ← present_filter h]

theorem get?_present_replace (h : AreRecords records) (id : String)
    (hread : Session.read? session.write = some session) (now : Instant) (name : String) :
    (present ⟨ttl, ofStored (records.filter (·.name != recordName id) ++
        [⟨id, session, now⟩])⟩).get? name =
      if name = recordName id then some session
      else (present ⟨ttl, ofStored records⟩).get? name := by
  have hkept : (present ⟨ttl, ofStored (records.filter (·.name != recordName id))⟩).get? name =
      if name = recordName id then none else (present ⟨ttl, ofStored records⟩).get? name :=
    get?_present_without h (recordName id) name
  rw [present_ofStored (h.without _)] at hkept
  rw [present_ofStored (h.replace id hread now), List.map_append, Fields.get?_append, hkept,
    List.map_singleton, Fields.get?_cons, StoredSession.name]
  rcases eq_or_ne name (recordName id) with rfl | hname
  · rw [if_pos rfl, if_pos rfl, if_pos rfl, Option.none_or]
  · rw [if_neg hname, if_neg hname, if_neg hname.symm]
    exact Option.or_none

/-- A directory in which there is nothing but records, as calls that come one after another leave
it. -/
def IsSound (ttl : Nat) (f : DirectoryStore) : Prop :=
  ∃ records, f = ⟨ttl, ofStored records⟩ ∧ AreRecords records

theorem get?_present_eq_find? (h : AreRecords records) (name : String) :
    (present ⟨ttl, ofStored records⟩).get? name =
      (records.find? (·.name == name)).map (·.session) := by
  rw [present_ofStored h, Fields.get?, List.find?_map, Option.map_map]
  rfl

theorem take_ofStored_eq (h : AreRecords records) (t : Moment) (id : String) :
    take ttl t id (ofStored records) =
      ((((present ⟨ttl, ofStored records⟩).get? (recordName id)).filter
          (!·.isExpired ttl t.now)).elim (.error (.notFound id)) .ok,
        ofStored (records.filter (·.name != recordName id))) := by
  rw [get?_present_eq_find? h]
  cases hfind : records.find? (·.name == recordName id) with
  | none =>
    have habsent : (ofStored records).find? (recordName id) = none := by
      rw [find?_ofStored, hfind, Option.map_none]
    have hkept : records.filter (·.name != recordName id) = records := by
      refine List.filter_eq_self.2 fun r hr => bne_iff_ne.2 fun hname => ?_
      exact List.find?_eq_none.1 hfind r hr (beq_iff_eq.2 hname)
    rw [take_of_absent habsent, hkept, Option.map_none, Option.filter_none, Option.elim_none]
  | some r =>
    have hread := h.read?_write r (List.mem_of_find?_eq_some hfind)
    rw [take_ofStored hread hfind, Option.map_some, Session.ite_isExpired_eq_elim_filter]

theorem cleanUp_ofStored_eq (h : AreRecords records) (now : Instant) :
    cleanUp ttl now (ofStored records) =
      (.ok ((present ⟨ttl, ofStored records⟩).countP (·.2.isExpired ttl now)),
        ofStored (records.filter (!·.session.isExpired ttl now))) := by
  rw [cleanUp_ofStored h.names_nodup h.read?_write, present_ofStored h, List.countP_map]
  rfl

theorem nodup_present (h : AreRecords records) :
    ((present ⟨ttl, ofStored records⟩).map (·.1)).Nodup := by
  rw [present_ofStored h, List.map_map]
  exact h.names_nodup

def keeping (ttl : Nat) : Keeping DirectoryStore where
  ttl := ttl
  key := recordName
  present := present
  IsSound := IsSound ttl
  exists_put {f session} hf hvalid t id := by
    obtain ⟨records, rfl, h⟩ := hf
    have hread := Session.read?_write_of_isValid hvalid
    refine ⟨⟨ttl, ofStored (records.filter (·.name != recordName id) ++ [⟨id, session, t.now⟩])⟩,
      ?_, ⟨_, rfl, h.replace id hread t.now⟩, get?_present_replace h id hread t.now⟩
    simp only [SessionStore.put, put_ofStored]
  exists_take {f} hf t id := by
    obtain ⟨records, rfl, h⟩ := hf
    refine ⟨⟨ttl, ofStored (records.filter (·.name != recordName id))⟩, ?_,
      ⟨_, rfl, h.without (recordName id)⟩, get?_present_without h (recordName id)⟩
    simp only [SessionStore.take, take_ofStored_eq h]
  exists_removeExpired {f} hf t := by
    obtain ⟨records, rfl, h⟩ := hf
    refine ⟨⟨ttl, ofStored (records.filter (!·.session.isExpired ttl t.now))⟩, ?_,
      ⟨_, rfl, h.sublist List.filter_sublist⟩, fun name => ?_⟩
    · simp only [SessionStore.removeExpired, cleanUp_ofStored_eq h]
    · rw [← Fields.get?_filter (nodup_present h), ← present_filter h]

end DirectoryStore

/-! ## Both stores -/

/-- No request but a cleanup is answered otherwise because of the cleanups among the requests. -/
def CleanUpsAreUnobserved {σ : Type} [SessionStore σ] (store : σ)
    (requests : List (Moment × StoreRequest)) : Prop :=
  (answers store requests).filter (!·.isOfCleanUp) =
    answers store (requests.filter (!·.2.isCleanUp))

/-- Each cleanup tells how many sessions are present and expired when its turn comes. -/
def CleanUpsCountExpired {σ : Type} [SessionStore σ] (ttl : Nat) (present : σ → Fields Session)
    (store : σ) (requests : List (Moment × StoreRequest)) : Prop :=
  ∀ before t after, requests = before ++ (t, .removeExpired) :: after →
    (answers store requests)[before.length]? = some (.removed (.ok
      ((present (serveAll store before)).countP (·.2.isExpired ttl t.now))))

namespace Keeping

variable {σ : Type} [SessionStore σ] {k : Keeping σ} {store : σ}
variable {requests : List (Moment × StoreRequest)}

theorem cleanUpsAreUnobserved (hstore : k.IsSound store) (hpresent : k.IsRegular store)
    (hvalid : ∀ request ∈ requests, request.2.IsValid)
    (hregular : ∀ request ∈ requests, request.2.IsRegular)
    (hclock : requests.Pairwise fun earlier later => earlier.1.now.ticks ≤ later.1.now.ticks) :
    CleanUpsAreUnobserved store requests := by
  cases requests with
  | nil => rfl
  | cons first requests =>
    have hagree : k.Agree first.1.now store store := fun _ => rfl
    refine hagree.answers_filter first.1.regular ⟨hstore, hpresent⟩ ⟨hstore, hpresent⟩ hvalid
      hregular ?_ hclock
    rw [List.forall_mem_cons]
    exact ⟨le_rfl, (List.pairwise_cons.1 hclock).1⟩

theorem cleanUpsCountExpired (hstore : k.IsSound store)
    (hvalid : ∀ request ∈ requests, request.2.IsValid) :
    CleanUpsCountExpired k.ttl k.present store requests := by
  rintro before t after rfl
  exact getElem?_answers_cleanUp hstore fun request hr =>
    hvalid request (List.mem_append_left _ hr)

end Keeping

/-- Whether sessions are kept in memory or in a directory: each cleanup tells how many sessions are
present and expired; and while the clock does not go back, cleanups among the requests change the
answer to no other request, wherever and however many they are, if no session is put that was
opened in a second number sixty. -/
theorem cleanUpsAreUnobserved_of_pairwise (ttl : Nat) (requests : List (Moment × StoreRequest))
    (hvalid : ∀ request ∈ requests, request.2.IsValid)
    (hclock : requests.Pairwise fun earlier later => earlier.1.now.ticks ≤ later.1.now.ticks) :
    (CleanUpsCountExpired ttl MemoryStore.sessions { ttl } requests ∧
      CleanUpsCountExpired ttl DirectoryStore.present { ttl } requests) ∧
    ((∀ request ∈ requests, request.2.IsRegular) →
      CleanUpsAreUnobserved ({ ttl } : MemoryStore) requests ∧
        CleanUpsAreUnobserved ({ ttl } : DirectoryStore) requests) := by
  have hmemory : MemoryStore.IsSound ttl { ttl } := ⟨rfl, List.nodup_nil⟩
  have hdirectory : DirectoryStore.IsSound ttl { ttl } := ⟨[], rfl, List.nodup_nil, nofun⟩
  refine ⟨⟨(MemoryStore.keeping ttl).cleanUpsCountExpired hmemory hvalid,
    (DirectoryStore.keeping ttl).cleanUpsCountExpired hdirectory hvalid⟩, fun hregular => ⟨?_, ?_⟩⟩
  · exact (MemoryStore.keeping ttl).cleanUpsAreUnobserved hmemory nofun hvalid hregular hclock
  · exact (DirectoryStore.keeping ttl).cleanUpsAreUnobserved hdirectory nofun hvalid hregular hclock

def pastUpload : Session :=
  ⟨"photos", "cat.jpg", some "image/jpeg", ⟨0, 0⟩⟩

def futureUpload : Session :=
  ⟨"photos", "owl.jpg", none, ⟨700000, 0⟩⟩

/-- An upload is removed once it is a week old. Another one is put again before a cleanup. -/
def sweptRequests : List (Moment × StoreRequest) :=
  [(⟨⟨0, 0⟩, "T1", .refl false⟩, .put "U1" pastUpload),
    (⟨⟨604800, 0⟩, "T2", .refl false⟩, .removeExpired),
    (⟨⟨604800, 1⟩, "T3", .refl false⟩, .removeExpired),
    (⟨⟨604801, 0⟩, "T4", .refl false⟩, .take "U1"),
    (⟨⟨604801, 0⟩, "T5", .refl false⟩, .put "U2" pastUpload),
    (⟨⟨604801, 0⟩, "T6", .refl false⟩, .put "U2" futureUpload),
    (⟨⟨604801, 0⟩, "T7", .refl false⟩, .removeExpired),
    (⟨⟨604802, 0⟩, "T8", .refl false⟩, .take "U2")]

theorem cleanUpsAreUnobserved_sweptRequests :
    let answered : List StoreAnswer :=
      [.put (.ok ()), .removed (.ok 0), .removed (.ok 1), .taken (.error (.notFound "U1")),
        .put (.ok ()), .put (.ok ()), .removed (.ok 0), .taken (.ok futureUpload)]
    (∀ request ∈ sweptRequests, request.2.IsValid) ∧
    (∀ request ∈ sweptRequests, request.2.IsRegular) ∧
    (sweptRequests.Pairwise fun earlier later => earlier.1.now.ticks ≤ later.1.now.ticks) ∧
    answers ({ ttl := 604800000000000 } : MemoryStore) sweptRequests = answered ∧
    answers ({ ttl := 604800000000000 } : DirectoryStore) sweptRequests = answered ∧
    CleanUpsAreUnobserved ({ ttl := 604800000000000 } : MemoryStore) sweptRequests ∧
    CleanUpsAreUnobserved ({ ttl := 604800000000000 } : DirectoryStore) sweptRequests := by
  have hvalid : ∀ request ∈ sweptRequests, request.2.IsValid := by
    simp only [sweptRequests, List.forall_mem_cons]
    exact ⟨⟨by decide, by decide⟩, trivial, trivial, trivial, ⟨by decide, by decide⟩,
      ⟨by decide, by decide⟩, trivial, trivial, List.forall_mem_nil _⟩
  have hregular : ∀ request ∈ sweptRequests, request.2.IsRegular := by
    simp only [sweptRequests, List.forall_mem_cons]
    exact ⟨rfl, trivial, trivial, trivial, rfl, rfl, trivial, trivial, List.forall_mem_nil _⟩
  have hclock : sweptRequests.Pairwise fun earlier later =>
      earlier.1.now.ticks ≤ later.1.now.ticks := by
    decide +kernel
  exact ⟨hvalid, hregular, hclock, by decide +kernel, by decide +kernel,
    (cleanUpsAreUnobserved_of_pairwise 604800000000000 sweptRequests hvalid hclock).2 hregular⟩

/-! ## A second number sixty -/

/-- An upload that is opened half a second after 12:59:60. -/
def leapUpload : Session :=
  ⟨"photos", "cat.jpg", none, ⟨46799, 1500000000⟩⟩

/-- The upload is put, and taken at midnight. Shortly before, a cleanup finds it more than eleven
hours old; at midnight it is less. -/
def midnightRequests : List (Moment × StoreRequest) :=
  [(⟨⟨46801, 0⟩, "T1", .refl false⟩, .put "U1" leapUpload),
    (⟨⟨86399, 900000000⟩, "T2", .refl false⟩, .removeExpired),
    (⟨⟨86400, 0⟩, "T3", .refl false⟩, .take "U1")]

/-- The cleanup takes the upload from a request that would be given it. -/
theorem cleanUp_observed_at_midnight :
    (∀ request ∈ midnightRequests, request.2.IsValid) ∧
    (midnightRequests.Pairwise fun earlier later => earlier.1.now.ticks ≤ later.1.now.ticks) ∧
    answers ({ ttl := 39600000000000 } : MemoryStore) midnightRequests =
      [.put (.ok ()), .removed (.ok 1), .taken (.error (.notFound "U1"))] ∧
    answers ({ ttl := 39600000000000 } : MemoryStore)
        (midnightRequests.filter (!·.2.isCleanUp)) =
      [.put (.ok ()), .taken (.ok leapUpload)] ∧
    ¬CleanUpsAreUnobserved ({ ttl := 39600000000000 } : MemoryStore) midnightRequests ∧
    ¬CleanUpsAreUnobserved ({ ttl := 39600000000000 } : DirectoryStore) midnightRequests := by
  have hvalid : ∀ request ∈ midnightRequests, request.2.IsValid := by
    simp only [midnightRequests, List.forall_mem_cons]
    exact ⟨⟨by decide, by decide⟩, trivial, trivial, List.forall_mem_nil _⟩
  have hclock : midnightRequests.Pairwise fun earlier later =>
      earlier.1.now.ticks ≤ later.1.now.ticks := by
    decide +kernel
  refine ⟨hvalid, hclock, by decide +kernel, by decide +kernel, ?_, ?_⟩
  all_goals
    unfold CleanUpsAreUnobserved
    decide +kernel

end SealingProxy
