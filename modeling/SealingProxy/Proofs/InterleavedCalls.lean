import Mathlib.Data.List.Induction
import Mathlib.Logic.Function.Iterate
import SealingProxy.Proofs.DirectoryLaws
/-! # Calls under way at the same time

Calls on the directory of a store take turns, one access each time. Where a call stands between two
of its accesses is a value. A call that nothing comes between does what it does as a whole. -/

namespace SealingProxy

/-- What a call does next, or how it ended. -/
inductive StoreCall where
  | staging (token id : String) (session : Session)
  | publishing (token id : String)
  | withdrawing (token : String) (e : SessionError)
  | claiming (token id : String)
  | reading (token id : String)
  | discarding (token id : String) (content : Except FileFault Bytes)
  | listing
  | visiting (names : List String) (count : Nat)
  | removing (name : String) (names : List String) (count : Nat)
  | put (result : Except SessionError Unit)
  | taken (result : Except SessionError Session)
  | cleaned (result : Except SessionError Nat)
  deriving DecidableEq

namespace StoreCall
open DirectoryStore

/-- The next access of a call. A call that ended stays as it is. -/
def step (ttl : Nat) (now : Instant) (d : Directory) : StoreCall → StoreCall × Directory
  | staging token id session =>
    match stage d now token session with
    | .error e => (put (.error e), d)
    | .ok staged => (publishing token id, staged)
  | publishing token id =>
    match publish d token id with
    | .error e => (withdrawing token e, d)
    | .ok published => (put (.ok ()), published)
  | withdrawing token e => (put (.error e), d.vacate (temporaryName token))
  | claiming token id =>
    match claim d token id with
    | .error e => (taken (.error e), d)
    | .ok claimed => (reading token id, claimed)
  | reading token id => (discarding token id (d.read (claimName id token)), d)
  | discarding token id content =>
    (taken (judge ttl now id content), discard d (claimName id token))
  | listing =>
    match d.list with
    | .error f => (cleaned (.error (ofFault f)), d)
    | .ok names => (visiting names 0, d)
  | visiting [] count => (cleaned (.ok count), d)
  | visiting (name :: names) count =>
    match isDead ttl now name d with
    | .error e => (cleaned (.error e), d)
    | .ok false => (visiting names count, d)
    | .ok true => (removing name names count, d)
  | removing name names count =>
    let r := removeDead name d count
    (visiting names r.2, r.1)
  | c => (c, d)

def alone (ttl : Nat) (now : Instant) (n : Nat) (s : StoreCall × Directory) : StoreCall × Directory :=
  (fun s => s.1.step ttl now s.2)^[n] s

theorem alone_succ (ttl : Nat) (now : Instant) (n : Nat) (s : StoreCall × Directory) :
    alone ttl now (n + 1) s = alone ttl now n (s.1.step ttl now s.2) :=
  Function.iterate_succ_apply ..

variable (ttl : Nat) (now : Instant) (d : Directory)

theorem alone_put (t : Moment) (id : String) (session : Session) :
    alone ttl t.now 3 (staging t.token id session, d) =
      (put (DirectoryStore.put t id session d).1, (DirectoryStore.put t id session d).2) := by
  cases hstage : stage d t.now t.token session with
  | error e => simp [alone, step, DirectoryStore.put, hstage]
  | ok staged =>
    cases hpublish : publish staged t.token id <;>
      simp [alone, step, DirectoryStore.put, hstage, hpublish]

theorem alone_take (t : Moment) (id : String) :
    alone ttl t.now 3 (claiming t.token id, d) =
      (taken (take ttl t id d).1, (take ttl t id d).2) := by
  cases hclaim : claim d t.token id <;> simp [alone, step, take, hclaim]

theorem exists_alone_visit (names : List String) (count : Nat) :
    ∃ n, alone ttl now n (visiting names count, d) =
      (cleaned (visit ttl now d count names).1, (visit ttl now d count names).2) := by
  induction names generalizing d count with
  | nil => exact ⟨1, rfl⟩
  | cons name names ih =>
    rw [visit]
    cases hdead : isDead ttl now name d with
    | error e => exact ⟨1, by simp [alone, step, hdead]⟩
    | ok dead =>
      cases dead with
      | false =>
        obtain ⟨n, hn⟩ := ih d count
        exact ⟨n + 1, by simpa [alone_succ, step, hdead] using hn⟩
      | true =>
        obtain ⟨n, hn⟩ := ih (removeDead name d count).1 (removeDead name d count).2
        exact ⟨n + 2, by simpa [alone_succ, step, hdead] using hn⟩

theorem exists_alone_cleanUp : ∃ n, alone ttl now n (listing, d) =
    (cleaned (cleanUp ttl now d).1, (cleanUp ttl now d).2) := by
  rw [cleanUp]
  cases hlist : d.list with
  | error f => exact ⟨1, by simp [alone, step, hlist]⟩
  | ok names =>
    obtain ⟨n, hn⟩ := exists_alone_visit ttl now d names 0
    exact ⟨n + 1, by simpa [alone_succ, step, hlist] using hn⟩

/-! ## What a cleanup does in one access -/

def IsCleanUp : StoreCall → Prop
  | listing | visiting _ _ | removing _ _ _ | cleaned _ => True
  | _ => False

/-- The name that the call removes next, whatever stands under it by then. -/
def condemned? : StoreCall → Option String
  | removing name _ _ => some name
  | _ => none

variable {c : StoreCall}

/-- A cleanup looks at the directory and condemns only what is dead, or removes what it condemned
before. -/
theorem IsCleanUp.step_cases (h : c.IsCleanUp) :
    (c.step ttl now d).1.IsCleanUp ∧
    (((c.step ttl now d).2 = d ∧
        ∀ name, (c.step ttl now d).1.condemned? = some name → isDead ttl now name d = .ok true) ∨
      ∃ name, c.condemned? = some name ∧ (c.step ttl now d).1.condemned? = none ∧
        (c.step ttl now d).2 = discard d name) := by
  cases c with
  | listing =>
    rw [step]
    cases d.list <;> exact ⟨trivial, .inl ⟨rfl, nofun⟩⟩
  | visiting names count =>
    cases names with
    | nil => exact ⟨trivial, .inl ⟨rfl, nofun⟩⟩
    | cons name names =>
      rw [step]
      cases hdead : isDead ttl now name d with
      | error e => exact ⟨trivial, .inl ⟨rfl, nofun⟩⟩
      | ok dead =>
        cases dead with
        | false => exact ⟨trivial, .inl ⟨rfl, nofun⟩⟩
        | true => exact ⟨trivial, .inl ⟨rfl, fun _ h => Option.some.inj h ▸ hdead⟩⟩
  | removing name names count =>
    exact ⟨trivial, .inr ⟨name, rfl, rfl, fst_removeDead name d count⟩⟩
  | cleaned result => exact ⟨trivial, .inl ⟨rfl, nofun⟩⟩
  | _ => exact h.elim

end StoreCall

structure Traffic (ι : Type) where
  directory : Directory
  calls : ι → StoreCall

/-- Which call makes its next access, and when. -/
structure Turn (ι : Type) where
  caller : ι
  now : Instant

namespace Traffic
open Directory DirectoryStore

variable {ι : Type} [DecidableEq ι]

def step (ttl : Nat) (s : Traffic ι) (turn : Turn ι) : Traffic ι :=
  let r := (s.calls turn.caller).step ttl turn.now s.directory
  ⟨r.2, Function.update s.calls turn.caller r.1⟩

def run (ttl : Nat) (s : Traffic ι) (turns : List (Turn ι)) : Traffic ι :=
  turns.foldl (step ttl) s

variable {ttl : Nat} {s : Traffic ι} {turn : Turn ι} {name : String}

theorem run_append (turns later : List (Turn ι)) :
    s.run ttl (turns ++ later) = (s.run ttl turns).run ttl later :=
  List.foldl_append

theorem run_concat (turns : List (Turn ι)) (turn : Turn ι) :
    s.run ttl (turns ++ [turn]) = (s.run ttl turns).step ttl turn :=
  run_append turns [turn]

/-- Turns of one call in a row are that call alone. -/
theorem run_replicate (s : Traffic ι) (i : ι) (now : Instant) (n : Nat) :
    s.run ttl (List.replicate n ⟨i, now⟩) =
      ⟨(StoreCall.alone ttl now n (s.calls i, s.directory)).2,
        Function.update s.calls i (StoreCall.alone ttl now n (s.calls i, s.directory)).1⟩ := by
  induction n generalizing s with
  | zero =>
    rw [StoreCall.alone, Function.iterate_zero_apply, Function.update_eq_self]
    rfl
  | succ n ih =>
    rw [List.replicate_succ, run, List.foldl_cons]
    refine (ih _).trans ?_
    simp only [StoreCall.alone_succ, step, Function.update_self, Function.update_idem]

theorem calls_step_caller : (s.step ttl turn).calls turn.caller =
    ((s.calls turn.caller).step ttl turn.now s.directory).1 :=
  Function.update_self ..

theorem calls_step_of_ne {i : ι} (h : i ≠ turn.caller) : (s.step ttl turn).calls i = s.calls i :=
  Function.update_of_ne h ..

/-- A property of all calls after a turn: the caller has moved on, the others have not. -/
theorem forall_calls_step_iff {P : StoreCall → Prop} : (∀ i, P ((s.step ttl turn).calls i)) ↔
    P ((s.calls turn.caller).step ttl turn.now s.directory).1 ∧
      ∀ i, i ≠ turn.caller → P (s.calls i) :=
  Function.forall_update_iff s.calls fun _ => P

/-- The node, if any, stands under the name, and no call is about to remove it. -/
structure Keeps (s : Traffic ι) (name : String) (node : Option Node) : Prop where
  find?_eq : s.directory.find? name = node
  not_condemned : ∀ i, (s.calls i).condemned? ≠ some name

/-- A cleanup only takes away. -/
theorem find?_step_of_isCleanUp (hc : (s.calls turn.caller).IsCleanUp) (ttl : Nat)
    (name : String) :
    (s.step ttl turn).directory.find? name = s.directory.find? name ∨
      (s.step ttl turn).directory.find? name = none := by
  obtain ⟨-, ⟨hd, -⟩ | ⟨other, -, -, hd⟩⟩ := hc.step_cases ttl turn.now s.directory
  · exact .inl (congrArg (Directory.find? · name) hd)
  · rw [step, hd]
    exact find?_discard_eq_or s.directory other name

/-- What is alive when a cleanup takes its turn is kept. -/
theorem Keeps.step {node : Option Node} (h : s.Keeps name node)
    (hc : (s.calls turn.caller).IsCleanUp)
    (halive : isDead ttl turn.now name s.directory ≠ .ok true) :
    (s.step ttl turn).Keeps name node := by
  -- It is enough to look at the caller, as no other call changes its mind.
  have hcalls (hcaller : ((s.calls turn.caller).step ttl turn.now s.directory).1.condemned? ≠
      some name) (i : ι) : ((s.step ttl turn).calls i).condemned? ≠ some name :=
    (forall_calls_step_iff (P := fun c => c.condemned? ≠ some name)).2
      ⟨hcaller, fun i _ => h.not_condemned i⟩ i
  obtain ⟨-, ⟨hd, hdead⟩ | ⟨other, hother, hnone, hd⟩⟩ := hc.step_cases ttl turn.now s.directory
  · refine ⟨?_, hcalls fun hcondemned => halive (hdead name hcondemned)⟩
    rw [Traffic.step, hd, h.find?_eq]
  · have hne : name ≠ other := by
      rintro rfl
      exact h.not_condemned _ hother
    refine ⟨?_, hcalls (hnone ▸ nofun)⟩
    rw [Traffic.step, hd, find?_discard_of_ne hne, h.find?_eq]

end Traffic
end SealingProxy
