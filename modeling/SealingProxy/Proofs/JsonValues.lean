import SealingProxy.Json.Printer
import SealingProxy.Proofs.JsonTokens
/-! # What is in a JSON value

How many containers are nested in a value, whether its objects name each member once, and which
numbers it holds. Values that were read have these properties within bounds; values that have them
read back from their text, each number as it rereads. -/

namespace SealingProxy.Json

mutual

def depth : Json → Nat
  | array items => itemDepth items + 1
  | object members => memberDepth members + 1
  | _ => 0

def itemDepth : List Json → Nat
  | [] => 0
  | v :: vs => max (depth v) (itemDepth vs)

def memberDepth : List (String × Json) → Nat
  | [] => 0
  | (_, v) :: ms => max (depth v) (memberDepth ms)

end

mutual

/-- Every object in the value names each of its members once. -/
def HasDistinctNames : Json → Prop
  | array items => ItemsHaveDistinctNames items
  | object members => (members.map (·.1)).Nodup ∧ MembersHaveDistinctNames members
  | _ => True

def ItemsHaveDistinctNames : List Json → Prop
  | [] => True
  | v :: vs => HasDistinctNames v ∧ ItemsHaveDistinctNames vs

def MembersHaveDistinctNames : List (String × Json) → Prop
  | [] => True
  | (_, v) :: ms => HasDistinctNames v ∧ MembersHaveDistinctNames ms

end

mutual

def numbers : Json → List JsonNumber
  | number n => [n]
  | array items => itemNumbers items
  | object members => memberNumbers members
  | _ => []

def itemNumbers : List Json → List JsonNumber
  | [] => []
  | v :: vs => numbers v ++ itemNumbers vs

def memberNumbers : List (String × Json) → List JsonNumber
  | [] => []
  | (_, v) :: ms => numbers v ++ memberNumbers ms

end

mutual

/-- The value with its numbers as they read once written. -/
def reread : Json → Json
  | number n => number n.reread
  | array items => array (rereadItems items)
  | object members => object (rereadMembers members)
  | v => v

def rereadItems : List Json → List Json
  | [] => []
  | v :: vs => reread v :: rereadItems vs

def rereadMembers : List (String × Json) → List (String × Json)
  | [] => []
  | (n, v) :: ms => (n, reread v) :: rereadMembers ms

end

/-- No number in the value is a double. -/
def HasWholeNumbers (v : Json) : Prop :=
  ∀ n ∈ v.numbers, ∃ k h, n = .whole k h

/-! ## Items and members -/

theorem memberDepth_le_iff {ms : List (String × Json)} {n : Nat} :
    memberDepth ms ≤ n ↔ ∀ m ∈ ms, depth m.2 ≤ n := by
  induction ms with
  | nil => simp [memberDepth]
  | cons m ms ih => rw [memberDepth, Nat.max_le, ih, List.forall_mem_cons]

theorem itemDepth_le_iff {vs : List Json} {n : Nat} :
    itemDepth vs ≤ n ↔ ∀ v ∈ vs, depth v ≤ n := by
  induction vs with
  | nil => simp [itemDepth]
  | cons v vs ih => rw [itemDepth, Nat.max_le, ih, List.forall_mem_cons]

theorem itemsHaveDistinctNames_iff {vs : List Json} :
    ItemsHaveDistinctNames vs ↔ ∀ v ∈ vs, HasDistinctNames v := by
  induction vs with
  | nil => simp [ItemsHaveDistinctNames]
  | cons v vs ih => simp [ItemsHaveDistinctNames, ih]

theorem membersHaveDistinctNames_iff {ms : List (String × Json)} :
    MembersHaveDistinctNames ms ↔ ∀ m ∈ ms, HasDistinctNames m.2 := by
  induction ms with
  | nil => simp [MembersHaveDistinctNames]
  | cons m ms ih => simp [MembersHaveDistinctNames, ih]

theorem mem_memberNumbers_iff {ms : List (String × Json)} {n : JsonNumber} :
    n ∈ memberNumbers ms ↔ ∃ m ∈ ms, n ∈ m.2.numbers := by
  induction ms with
  | nil => simp [memberNumbers]
  | cons m ms ih => simp [memberNumbers, ih]

theorem rereadMembers_eq_map (ms : List (String × Json)) :
    rereadMembers ms = ms.map fun m => (m.1, m.2.reread) := by
  induction ms with
  | nil => rfl
  | cons m ms ih => simp [rereadMembers, ih]

theorem map_fst_rereadMembers (ms : List (String × Json)) :
    (rereadMembers ms).map (·.1) = ms.map (·.1) := by
  rw [rereadMembers_eq_map, List.map_map]
  rfl

theorem get?_rereadMembers (ms : Fields Json) (name : String) :
    Fields.get? (rereadMembers ms) name = (Fields.get? ms name).map reread := by
  rw [rereadMembers_eq_map, Fields.get?, Fields.get?, List.find?_map, Option.map_map, Option.map_map]
  rfl

/-! ## Rereading

The proofs are by recursion on the value, its items and its members. -/

mutual

theorem depth_reread : (v : Json) → depth (reread v) = depth v
  | null | bool _ | number _ | string _ => by simp [reread, depth]
  | array items => by rw [reread, depth, depth, itemDepth_reread items]
  | object members => by rw [reread, depth, depth, memberDepth_reread members]

theorem itemDepth_reread : (vs : List Json) → itemDepth (rereadItems vs) = itemDepth vs
  | [] => rfl
  | v :: vs => by rw [rereadItems, itemDepth, itemDepth, depth_reread v, itemDepth_reread vs]

theorem memberDepth_reread :
    (ms : List (String × Json)) → memberDepth (rereadMembers ms) = memberDepth ms
  | [] => rfl
  | (_, v) :: ms => by
    rw [rereadMembers, memberDepth, memberDepth, depth_reread v, memberDepth_reread ms]

end

mutual

theorem hasDistinctNames_reread : (v : Json) → HasDistinctNames v → HasDistinctNames (reread v)
  | null, _ | bool _, _ | number _, _ | string _, _ => by simp [reread, HasDistinctNames]
  | array items, h => by
    rw [HasDistinctNames] at h
    rw [reread, HasDistinctNames]
    exact itemsHaveDistinctNames_reread items h
  | object members, h => by
    rw [HasDistinctNames] at h
    rw [reread, HasDistinctNames, map_fst_rereadMembers]
    exact ⟨h.1, membersHaveDistinctNames_reread members h.2⟩

theorem itemsHaveDistinctNames_reread :
    (vs : List Json) → ItemsHaveDistinctNames vs → ItemsHaveDistinctNames (rereadItems vs)
  | [], h => h
  | v :: vs, h => ⟨hasDistinctNames_reread v h.1, itemsHaveDistinctNames_reread vs h.2⟩

theorem membersHaveDistinctNames_reread : (ms : List (String × Json)) →
    MembersHaveDistinctNames ms → MembersHaveDistinctNames (rereadMembers ms)
  | [], h => h
  | (_, v) :: ms, h =>
    ⟨hasDistinctNames_reread v h.1, membersHaveDistinctNames_reread ms h.2⟩

end

private theorem reread_number {n : JsonNumber} (h : ∃ k h, n = .whole k h) : n.reread = n := by
  obtain ⟨k, hk, rfl⟩ := h
  exact JsonNumber.reread_whole k hk

mutual

/-- A value without doubles is reread as itself. -/
theorem reread_of_hasWholeNumbers : (v : Json) → HasWholeNumbers v → reread v = v
  | null, _ | bool _, _ | string _, _ => rfl
  | number n, h => by rw [reread, reread_number (h n (by simp [numbers]))]
  | array items, h => by rw [reread, rereadItems_of_whole items h]
  | object members, h => by rw [reread, rereadMembers_of_whole members h]

theorem rereadItems_of_whole : (vs : List Json) →
    (∀ n ∈ itemNumbers vs, ∃ k h, n = .whole k h) → rereadItems vs = vs
  | [], _ => rfl
  | v :: vs, h => by
    rw [rereadItems,
      reread_of_hasWholeNumbers v fun n hn => h n (List.mem_append_left _ hn),
      rereadItems_of_whole vs fun n hn => h n (List.mem_append_right _ hn)]

theorem rereadMembers_of_whole : (ms : List (String × Json)) →
    (∀ n ∈ memberNumbers ms, ∃ k h, n = .whole k h) → rereadMembers ms = ms
  | [], _ => rfl
  | (_, v) :: ms, h => by
    rw [rereadMembers,
      reread_of_hasWholeNumbers v fun n hn => h n (List.mem_append_left _ hn),
      rereadMembers_of_whole ms fun n hn => h n (List.mem_append_right _ hn)]

end

end SealingProxy.Json
