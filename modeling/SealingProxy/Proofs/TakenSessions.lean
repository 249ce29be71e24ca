import SealingProxy.Proofs.DirectoryLaws
import SealingProxy.Proofs.MappedKeys
import SealingProxy.Proofs.SessionRecords
import SealingProxy.Proofs.SessionRuns
/-! # Taken sessions are used

A session that is taken is gone, so a completion must not fail after it took one. What could go
wrong are the key, the name of the object and the sealing. Each has been seen to before: the target
has a key, an opening records no session without a name, and a local service seals under every key
that has a name. A completion that fails has therefore taken nothing, in either kind of store. -/

namespace SealingProxy

namespace Directory

/-- Every file of the first directory is one of the second, under this name or another. -/
def FilesFrom (d' d : Directory) : Prop :=
  ∀ name content modified, d'.find? name = some (.file content modified) →
    ∃ other, d.find? other = some (.file content modified)

variable {d d' : Directory}

theorem FilesFrom.refl (d : Directory) : d.FilesFrom d :=
  fun name _ _ h => ⟨name, h⟩

theorem FilesFrom.trans {d'' : Directory} (h : d''.FilesFrom d') (h' : d'.FilesFrom d) :
    d''.FilesFrom d := by
  intro name content modified hfile
  obtain ⟨other, hother⟩ := h name content modified hfile
  exact h' other content modified hother

theorem filesFrom_vacate (d : Directory) (name : String) : (d.vacate name).FilesFrom d := by
  intro other content modified h
  rw [find?_vacate] at h
  split at h
  · cases h
  · exact ⟨other, h⟩

theorem filesFrom_of_remove_ok {name : String} (h : d.remove name = .ok d') : d'.FilesFrom d := by
  intro other content modified hfile
  rw [find?_of_remove_ok h] at hfile
  split at hfile
  · cases hfile
  · exact ⟨other, hfile⟩

theorem filesFrom_of_rename_ok {source target : String} (h : d.rename source target = .ok d') :
    d'.FilesFrom d := by
  obtain ⟨node, hnode, -, hfind⟩ := of_rename_ok h
  intro other content modified hfile
  rw [hfind] at hfile
  split at hfile
  · exact ⟨source, hnode.trans hfile⟩
  split at hfile
  · cases hfile
  · exact ⟨other, hfile⟩

/-- Whatever can be read as a session in the directory has the property. -/
def HoldsOnly (P : Session → Prop) (d : Directory) : Prop :=
  ∀ name content modified, d.find? name = some (.file content modified) →
    ∀ session, Session.read? content = some session → P session

theorem HoldsOnly.of_filesFrom {P : Session → Prop} (h : d.HoldsOnly P) (hfrom : d'.FilesFrom d) :
    d'.HoldsOnly P := by
  intro name content modified hfile
  obtain ⟨other, hother⟩ := hfrom name content modified hfile
  exact h other content modified hother

end Directory

namespace DirectoryStore
open Directory

variable {ttl : Nat} {t : Moment} {id : String} {d : Directory} {session : Session}

theorem filesFrom_discard (d : Directory) (name : String) : (discard d name).FilesFrom d := by
  unfold discard
  split
  · next hremove => exact filesFrom_of_remove_ok hremove
  · exact .refl d

theorem filesFrom_take (ttl : Nat) (t : Moment) (id : String) (d : Directory) :
    (take ttl t id d).2.FilesFrom d := by
  unfold take
  split
  · exact .refl d
  · next hclaim =>
    exact (filesFrom_discard _ _).trans (filesFrom_of_rename_ok (claim_eq_ok_iff.1 hclaim))

theorem filesFrom_visit (ttl : Nat) (now : Instant) (d : Directory) (count : Nat)
    (names : List String) : (visit ttl now d count names).2.FilesFrom d := by
  induction names generalizing d count with
  | nil => exact .refl d
  | cons name names ih =>
    unfold visit
    split
    · exact .refl d
    · exact ih d count
    · refine (ih _ _).trans ?_
      rw [fst_removeDead]
      exact filesFrom_discard d name

theorem filesFrom_cleanUp (ttl : Nat) (now : Instant) (d : Directory) :
    (cleanUp ttl now d).2.FilesFrom d := by
  unfold cleanUp
  split
  · exact .refl d
  · exact filesFrom_visit ttl now d 0 _

theorem of_stage_ok {staged : Directory} (h : stage d t.now t.token session = .ok staged)
    {name : String} {content : Bytes} {modified : Instant} (hfile : staged.find? name = some (.file content modified)) :
    content = session.write ∨ ∃ other, d.find? other = some (.file content modified) := by
  obtain ⟨⟨nodes, hnodes⟩, rfl⟩ := of_stage_eq_ok h
  rw [find?_place, hnodes] at hfile
  split at hfile
  · cases hfile
    exact .inl rfl
  · exact .inr ⟨name, hfile⟩

/-- Putting a session adds at most one file, its record. -/
theorem of_find?_put {name : String} {content : Bytes} {modified : Instant}
    (h : (put t id session d).2.find? name = some (.file content modified)) :
    content = session.write ∨ ∃ other, d.find? other = some (.file content modified) := by
  unfold put at h
  split at h
  · exact .inr ⟨name, h⟩
  · next staged hstage =>
    split at h
    · obtain ⟨other, hother⟩ := filesFrom_vacate _ _ name content modified h
      exact of_stage_ok hstage hother
    · next published hpublish =>
      obtain ⟨other, hother⟩ :=
        filesFrom_of_rename_ok (publish_eq_ok_iff.1 hpublish) name content modified h
      exact of_stage_ok hstage hother

theorem find?_take_of_ne {other : String} (hrecord : other ≠ recordName id)
    (hclaim : other ≠ claimName id t.token) :
    (take ttl t id d).2.find? other = d.find? other := by
  unfold take
  split
  · rfl
  · next claimed hok =>
    obtain ⟨node, -, -, hfind⟩ := of_rename_ok (claim_eq_ok_iff.1 hok)
    dsimp only
    rw [find?_discard_of_ne hclaim, hfind, if_neg hclaim, if_neg hrecord]

/-- A folder in the place of the claim stops a call before it takes anything. -/
theorem take_snd_of_folder {modified : Instant}
    (h : d.find? (claimName id t.token) = some (.folder modified)) : (take ttl t id d).2 = d := by
  unfold take
  split
  · rfl
  · next hclaim =>
    obtain ⟨-, -, hfolder, -⟩ := of_rename_ok (claim_eq_ok_iff.1 hclaim)
    exact absurd h (hfolder modified)

/-- Taking in vain takes nothing that can still be taken. -/
theorem take_of_take_error {first : Moment} {id' : String} {e : SessionError}
    (hopened : session.createdAt.isLeapSecond = false)
    (h : (take ttl first id' d).1 = .error e) (hle : first.now.ticks ≤ t.now.ticks)
    (htake : (take ttl t id d).1 = .ok session) :
    (take ttl t id (take ttl first id' d).2).1 = .ok session := by
  obtain ⟨content, modified, hfile, hfolder, hread, halive⟩ := take_eq_ok_iff.1 htake
  by_cases hdigest : digest id = digest id'
  · -- The record is there and alive, so that only a folder can have kept it from being taken.
    have hsame : recordName id' = recordName id := congrArg (· ++ ".json") hdigest.symm
    by_cases hblocked : ∃ m, d.find? (claimName id' first.token) = some (.folder m)
    · obtain ⟨m, hm⟩ := hblocked
      rw [take_snd_of_folder hm]
      exact htake
    · have hok : (take ttl first id' d).1 = .ok session := take_eq_ok_iff.2
        ⟨content, modified, hsame ▸ hfile, fun m hm => hblocked ⟨m, hm⟩, hread,
          Session.isExpired_eq_false_of_le hopened first.regular t.regular hle halive⟩
      rw [hok] at h
      cases h
  · have hrecord : recordName id ≠ recordName id' := fun he =>
      hdigest (digest_eq_of_recordName he)
    have hclaim : claimName id t.token ≠ claimName id' first.token := fun he =>
      hdigest (digest_eq_of_claimName he)
    rw [take_eq_ok_iff]
    refine ⟨content, modified, ?_, fun m => ?_, hread, halive⟩
    · rw [find?_take_of_ne hrecord (recordName_ne_claimName _ _ _), hfile]
    · rw [find?_take_of_ne (Ne.symm (recordName_ne_claimName _ _ _)) hclaim]
      exact hfolder m

end DirectoryStore

namespace MemoryStore

theorem find?_erase_of_ne {id id' : String} (h : id ≠ id') (m : MemoryStore) :
    (m.erase id').find? id = m.find? id := by
  unfold find? erase
  rw [List.find?_filter]
  congr 2
  funext p
  by_cases hp : p.1 = id
  · subst hp
    simp [h]
  · simp [hp]

theorem take_eq_ok_iff {m : MemoryStore} {now : Instant} {id : String} {session : Session} :
    (m.take now id).1 = .ok session ↔
      m.find? id = some session ∧ session.isExpired m.ttl now = false := by
  unfold take
  cases m.find? id with
  | none => simp
  | some found =>
    rw [Option.some.injEq]
    exact Session.ite_isExpired_eq_ok_iff

theorem take_of_take_error {m : MemoryStore} {first t : Moment} {id id' : String}
    {e : SessionError} {session : Session} (hopened : session.createdAt.isLeapSecond = false)
    (h : (m.take first.now id').1 = .error e) (hle : first.now.ticks ≤ t.now.ticks)
    (htake : (m.take t.now id).1 = .ok session) :
    ((m.take first.now id').2.take t.now id).1 = .ok session := by
  obtain ⟨hfound, halive⟩ := take_eq_ok_iff.1 htake
  have hne : id ≠ id' := by
    rintro rfl
    have hfirst := Session.isExpired_eq_false_of_le hopened first.regular t.regular hle halive
    rw [take_eq_ok_iff.2 ⟨hfound, hfirst⟩] at h
    cases h
  rw [take_snd, take_eq_ok_iff, find?_erase_of_ne hne]
  exact ⟨hfound, halive⟩

end MemoryStore

namespace Hooks

def IsDeclared (session : Session) : Prop :=
  ∃ r, ∃ t : Moment, declaredSession r t.now = .ok session

variable {session : Session}

theorem of_declaredSession_ok {r : Request} {now : Instant}
    (h : declaredSession r now = .ok session) :
    session.objectName ≠ "" ∧ session.createdAt = now ∧
      ∀ later, declaredSession r later = .ok { session with createdAt := later } := by
  unfold declaredSession at h ⊢
  split at h
  · cases h
  · split at h
    · cases h
    · next name hname =>
      cases h
      exact ⟨by simpa using (Option.filter_eq_some_iff.1 hname).2, rfl, fun _ => rfl⟩

theorem IsDeclared.objectName_ne (h : IsDeclared session) : session.objectName ≠ "" := by
  obtain ⟨r, t, h⟩ := h
  exact (of_declaredSession_ok h).1

theorem IsDeclared.regular (h : IsDeclared session) : session.createdAt.isLeapSecond = false := by
  obtain ⟨r, t, h⟩ := h
  rw [(of_declaredSession_ok h).2.1]
  exact t.regular

/-- What is read of its record is a declared session as well. -/
theorem IsDeclared.reread (h : IsDeclared session) {found : Session}
    (hread : Session.read? session.write = some found) : IsDeclared found := by
  rw [Session.read?_write] at hread
  obtain ⟨now, hnow, rfl⟩ := Option.map_eq_some_iff.1 hread
  have hregular := Instant.regular_of_read?_text h.regular hnow
  obtain ⟨r, t, h⟩ := h
  exact ⟨r, ⟨now, t.token, hregular⟩, (of_declaredSession_ok h).2.2 now⟩

end Hooks

namespace ConfiguredStore

def HoldsOnly (P : Session → Prop) : ConfiguredStore → Prop
  | .memory m => ∀ entry ∈ m.sessions, P entry.2
  | .directory d => d.directory.HoldsOnly P

variable {P : Session → Prop} {store : ConfiguredStore}

theorem HoldsOnly.put (h : store.HoldsOnly P) {session : Session} (hP : P session)
    (hread : ∀ found, Session.read? session.write = some found → P found) (t : Moment)
    (id : String) : (SessionStore.put t id session store).2.HoldsOnly P := by
  cases store with
  | memory m =>
    intro entry hentry
    rcases MemoryStore.mem_insert hentry with rfl | ⟨hentry, -⟩
    · exact hP
    · exact h entry hentry
  | directory d =>
    intro name content modified hfile found hfound
    rcases DirectoryStore.of_find?_put hfile with rfl | ⟨other, hother⟩
    · exact hread found hfound
    · exact h other content modified hother found hfound

theorem HoldsOnly.take (h : store.HoldsOnly P) (t : Moment) (id : String) :
    (SessionStore.take t id store).2.HoldsOnly P := by
  cases store with
  | memory m =>
    intro entry hentry
    change entry ∈ (m.take t.now id).2.sessions at hentry
    rw [MemoryStore.take_snd] at hentry
    exact h entry (MemoryStore.mem_erase hentry).1
  | directory d =>
    exact Directory.HoldsOnly.of_filesFrom h (DirectoryStore.filesFrom_take d.ttl t id d.directory)

theorem HoldsOnly.removeExpired (h : store.HoldsOnly P) (t : Moment) :
    (SessionStore.removeExpired t store).2.HoldsOnly P := by
  cases store with
  | memory m => exact fun entry hentry => h entry (List.mem_filter.1 hentry).1
  | directory d =>
    exact Directory.HoldsOnly.of_filesFrom h (DirectoryStore.filesFrom_cleanUp d.ttl t.now d.directory)

theorem HoldsOnly.of_take (h : store.HoldsOnly P) {t : Moment} {id : String} {session : Session}
    (htake : (SessionStore.take t id store).1 = .ok session) : P session := by
  cases store with
  | memory m =>
    obtain ⟨hfound, -⟩ := MemoryStore.take_eq_ok_iff.1 htake
    obtain ⟨entry, hentry, rfl⟩ := Option.map_eq_some_iff.1 hfound
    exact h entry (List.mem_of_find?_eq_some hentry)
  | directory d =>
    obtain ⟨content, modified, hfile, -, hread, -⟩ := DirectoryStore.take_eq_ok_iff.1 htake
    exact h _ content modified hfile session hread

/-- Taking in vain takes nothing that can still be taken. -/
theorem take_of_take_error {first t : Moment} {id id' : String} {e : SessionError}
    {session : Session} (hopened : session.createdAt.isLeapSecond = false)
    (h : (SessionStore.take first id' store).1 = .error e)
    (hle : first.now.ticks ≤ t.now.ticks) (htake : (SessionStore.take t id store).1 = .ok session) :
    (SessionStore.take t id (SessionStore.take first id' store).2).1 = .ok session := by
  cases store with
  | memory m => exact MemoryStore.take_of_take_error hopened h hle htake
  | directory d => exact DirectoryStore.take_of_take_error hopened h hle htake

end ConfiguredStore

namespace Engine

/-- What a call does to the sessions in a store of any kind. -/
theorem sessions_step {σ : Type} [SessionStore σ] (e : Engine) (s : State σ) (event : Event) :
    (e.step s event).sessions = s.sessions ∨
    (∃ t id session, Hooks.IsDeclared session ∧
      (e.step s event).sessions = (SessionStore.put t id session s.sessions).2) ∨
    (∃ t id, (e.step s event).sessions = (SessionStore.take t id s.sessions).2) ∨
    ∃ t, (e.step s event).sessions = (SessionStore.removeExpired t s.sessions).2 := by
  cases event with
  | cleanUp t => exact .inr (.inr (.inr ⟨t, rfl⟩))
  | response o x =>
    by_cases hop : x.operation = some .sessionOpening
    · have hstate : (e.step s (.response o x)).sessions =
          (Hooks.openingResponse e.context o s x).state.sessions :=
        congrArg State.sessions (state_onResponse_opening hop o)
      rw [hstate]
      rcases Hooks.openingResponse_cases e.context o s x with
        ⟨hs, -⟩ | ⟨_, id, session, -, -, -, hsession, hs⟩
      · exact .inl (congrArg State.sessions hs)
      · have hdeclared : Hooks.IsDeclared session := ⟨_, o.toMoment, hsession⟩
        exact .inr (.inl ⟨o.toMoment, id, session, hdeclared, congrArg State.sessions hs⟩)
    · exact .inl (sessions_onResponse_of_ne hop)
  | request o x =>
    by_cases hop : e.operation x.request = .sessionCompletion
    · have hstate : (e.step s (.request o x)).sessions = (Hooks.completionRequest e.context o s
          { x with operation := some .sessionCompletion }).state.sessions :=
        congrArg (·.state.sessions) (onRequest_sessionCompletion hop)
      rw [hstate]
      rcases Hooks.completionRequest_cases e.context o s
        { x with operation := some .sessionCompletion } with ⟨_, -, hs⟩ | ⟨id, -, ha⟩
      · exact .inl (congrArg State.sessions hs)
      · exact .inr (.inr (.inl ⟨o.toMoment, id, ha.sessions_eq⟩))
    · exact .inl (sessions_onRequest_of_ne hop)

variable {e : Engine}

theorem holdsOnly_step (s : State ConfiguredStore) (event : Event)
    (h : s.sessions.HoldsOnly Hooks.IsDeclared) :
    (e.step s event).sessions.HoldsOnly Hooks.IsDeclared := by
  rcases e.sessions_step s event with hs | ⟨t, id, session, hsession, hs⟩ | ⟨t, id, hs⟩ | ⟨t, hs⟩
  · rwa [hs]
  · rw [hs]
    exact h.put hsession (fun _ hread => hsession.reread hread) t id
  · rw [hs]
    exact h.take t id
  · rw [hs]
    exact h.removeExpired t

/-- A completion that is handed a declared session does all the rest. -/
theorem onRequest_ok_of_taken {k : MasterKey} (hkeys : e.context.keys = .ofMaster k)
    (hnamed : ∀ {bucket keyId}, e.context.resolve bucket = some keyId → keyId ≠ "")
    {s : State ConfiguredStore} (hs : s.ciphers.Holds e.context.keys)
    (hdeclared : s.sessions.HoldsOnly Hooks.IsDeclared) {o : Occasion} (hdraw : o.draw.IsSized)
    {x : Exchange} (hop : e.operation x.request = .sessionCompletion) {target key : String}
    (htarget : ObjectPath.bucket? x.request.path = some target)
    (hkey : e.context.resolve target = some key) {id : String} {session : Session}
    (hid : Hooks.completedId x.request = .ok id)
    (htake : (SessionStore.take o.toMoment id s.sessions).1 = .ok session) :
    (e.onRequest o s x).result = .ok () := by
  obtain ⟨keyId, hkeyId⟩ := Hooks.exists_uploadKey hkey session.bucket
  obtain ⟨bucket, hbucket⟩ := Hooks.of_uploadKey_ok hkeyId
  have hhandle : e.context.keys.handle keyId = .ok (.derived k keyId) := by
    rw [hkeys]
    exact KeyService.handle_ofMaster_eq_ok_iff.2 ⟨hnamed hbucket, rfl⟩
  obtain ⟨ciphertext, hsealed⟩ := Envelope.exists_encrypt_derived k keyId hdraw x.request.body
  have hencrypt : (State.encrypt
      { s with sessions := (SessionStore.take o.toMoment id s.sessions).2 } e.context o keyId
      x.request.body).1 = .ok ciphertext := State.encrypt_eq_ok hs hhandle hsealed
  rw [onRequest_sessionCompletion hop]
  exact Hooks.completionRequest_eq_ok (x := { x with operation := some .sessionCompletion }) hid
    (Prod.ext htake rfl) (htarget ▸ hkeyId) (hdeclared.of_take htake).objectName_ne hencrypt

/-- A completion that is handed a session succeeds. If it fails, every session that could be taken
can still be taken. -/
theorem completion_ok_of_taken {c : Config} {k : MasterKey} {empty ciphers : CipherCache}
    (hcreate : create c (.ofMaster k) = .ok (e, empty))
    (hciphers : ciphers = empty ∨ ∃ w, ciphers = (e.verifyKeys w empty).2)
    {sessions : ConfiguredStore} (hsessions : sessions.HoldsOnly Hooks.IsDeclared)
    (events : List Event) {o : Occasion} (hdraw : o.draw.IsSized) {x : Exchange}
    (hop : e.operation x.request = .sessionCompletion) :
    (∀ id session, Hooks.completedId x.request = .ok id →
      (SessionStore.take o.toMoment id (e.run ⟨ciphers, sessions⟩ events).sessions).1 =
        .ok session →
      (e.onRequest o (e.run ⟨ciphers, sessions⟩ events) x).result = .ok ()) ∧
    ∀ err, (e.onRequest o (e.run ⟨ciphers, sessions⟩ events) x).result = .error err →
      ∀ (t : Moment) (id : String) (session : Session), o.now.ticks ≤ t.now.ticks →
        (SessionStore.take t id (e.run ⟨ciphers, sessions⟩ events).sessions).1 = .ok session →
        (SessionStore.take t id
          (e.onRequest o (e.run ⟨ciphers, sessions⟩ events) x).state.sessions).1 = .ok session := by
  obtain ⟨m, idle, hm, hclassifier, hcontext, hempty⟩ := of_create_ok hcreate
  have hresolve : e.context.resolve = m.resolve := by rw [hcontext]
  have hclassify : e.classifier.classify x.request ≠ .passThrough := by
    unfold operation at hop
    split at hop
    · cases hop
    · rw [hop]
      simp
  obtain ⟨target, key, htarget, hkey⟩ := Classifier.exists_key_of_classify hclassify
  rw [hclassifier] at hkey
  have hreaches : e.Reaches (e.run ⟨ciphers, sessions⟩ events) :=
    ⟨idle, ciphers, sessions, events, hempty ▸ hciphers, rfl⟩
  have hdeclared : (e.run ⟨ciphers, sessions⟩ events).sessions.HoldsOnly Hooks.IsDeclared :=
    run_induction (P := fun s : State ConfiguredStore => s.sessions.HoldsOnly Hooks.IsDeclared)
      holdsOnly_step hsessions events
  generalize e.run ⟨ciphers, sessions⟩ events = s at hreaches hdeclared ⊢
  have hcompletes {id : String} {session : Session} (hid : Hooks.completedId x.request = .ok id)
      (htake : (SessionStore.take o.toMoment id s.sessions).1 = .ok session) :
      (e.onRequest o s x).result = .ok () :=
    onRequest_ok_of_taken (by rw [hcontext]) (fun h => hm.resolve_ne (hresolve ▸ h))
      hreaches.holds hdeclared hdraw hop htarget (hresolve ▸ hkey) hid htake
  refine ⟨fun id session => hcompletes, fun err herr t id session hle htake => ?_⟩
  have hhook : e.onRequest o s x = _ := onRequest_sessionCompletion hop
  rcases Hooks.completionRequest_cases e.context o s
    { x with operation := some .sessionCompletion } with ⟨_, -, hs⟩ | ⟨id', hid', hasks⟩
  · rwa [hhook, hs]
  · rw [hhook, hasks.sessions_eq]
    cases htaken : (SessionStore.take o.toMoment id' s.sessions).1 with
    | error e =>
      have hopened := (hdeclared.of_take htake).regular
      exact ConfiguredStore.take_of_take_error hopened htaken hle htake
    | ok other =>
      rw [hcompletes hid' htaken] at herr
      cases herr

def emptyDirectory : State ConfiguredStore :=
  ⟨{ idle := 14400000000000 }, .directory { ttl := 1000000000 }⟩

theorem completion_ok_of_taken_cat :
    (photoEngine.onRequest sealingOccasion (photoEngine.run emptyDirectory catHistory)
      { request := catCompletion }).result = .ok () := by
  have hempty : emptyDirectory.sessions.HoldsOnly Hooks.IsDeclared := fun _ _ _ h => by cases h
  have htake : (SessionStore.take sealingOccasion.toMoment "U1"
      (photoEngine.run emptyDirectory catHistory).sessions).1 =
        .ok ⟨"photos", "cat.jpg", none, ⟨0, 0⟩⟩ := by decide +kernel
  exact (completion_ok_of_taken create_photoConfig (.inl rfl) hempty catHistory
    isSized_sealingOccasion (x := { request := catCompletion }) (by decide +kernel)).1 "U1" _
    (by decide +kernel) htake

end Engine
end SealingProxy
