import Mathlib.Data.List.Induction
import Mathlib.Data.List.TakeWhile
import SealingProxy.Fields
/-! # Laws of ordered fields

A name that was given a value has it, an erased name has none, and every other name keeps its value.
No name is ever doubled. Inserting is followed field by field, by the equation `insert_cons`; erasing
is filtering, up to the order of the fields. An edit that finds its result in place changes nothing. -/

namespace SealingProxy.Fields

variable {α : Type} {f : Fields α} {name : String} {value : α}

@[simp] theorem insert_nil (name : String) (value : α) : insert [] name value = [(name, value)] :=
  rfl

theorem insert_cons (m : String × α) (f : Fields α) (name : String) (value : α) :
    insert (m :: f) name value =
      if m.1 = name then (name, value) :: f else m :: insert f name value := by
  by_cases hm : m.1 = name
  · simp [insert, hm]
  · have hp : (m.1 != name) = true := by simpa using hm
    simp only [insert, List.dropWhile_cons, List.takeWhile_cons, hp, if_true, if_neg hm]
    split <;> rfl

theorem insert_of_not_mem (h : ∀ m ∈ f, m.1 ≠ name) (value : α) :
    insert f name value = f ++ [(name, value)] := by
  induction f with
  | nil => rfl
  | cons m f ih =>
    rw [insert_cons, if_neg (h m (List.mem_cons_self ..)),
      ih fun k hk => h k (List.mem_cons_of_mem _ hk)]
    rfl

theorem mem_insert {m : String × α} (h : m ∈ insert f name value) :
    m = (name, value) ∨ m ∈ f := by
  induction f with
  | nil => exact .inl (List.mem_singleton.1 h)
  | cons k f ih =>
    rw [insert_cons] at h
    split at h
    · rcases List.mem_cons.1 h with h | h
      · exact .inl h
      · exact .inr (List.mem_cons_of_mem _ h)
    · rcases List.mem_cons.1 h with rfl | h
      · exact .inr (List.mem_cons_self ..)
      · exact (ih h).imp_right (List.mem_cons_of_mem _)

theorem nodup_insert (h : (f.map (·.1)).Nodup) (name : String) (value : α) :
    ((insert f name value).map (·.1)).Nodup := by
  induction f with
  | nil => simp
  | cons m f ih =>
    rw [List.map_cons, List.nodup_cons] at h
    rw [insert_cons]
    split
    · next hm =>
      rw [List.map_cons, List.nodup_cons, ← hm]
      exact h
    · next hm =>
      rw [List.map_cons, List.nodup_cons]
      refine ⟨?_, ih h.2⟩
      intro hmem
      obtain ⟨k, hk, hkm⟩ := List.mem_map.1 hmem
      rcases mem_insert hk with rfl | hk
      · exact hm hkm.symm
      · exact h.1 (List.mem_map.2 ⟨k, hk, hkm⟩)

theorem get?_cons (m : String × α) (f : Fields α) (name : String) :
    get? (m :: f) name = if m.1 = name then some m.2 else get? f name := by
  by_cases hm : m.1 = name
  · simp [get?, hm]
  · have hp : (m.1 == name) = false := by simpa using hm
    simp [get?, hp, hm]

@[simp] theorem get?_insert_self (f : Fields α) (name : String) (value : α) :
    get? (insert f name value) name = some value := by
  induction f with
  | nil => simp [get?_cons]
  | cons m f ih =>
    rw [insert_cons]
    split
    · simp [get?_cons]
    · next hm => rw [get?_cons, if_neg hm, ih]

theorem get?_insert_of_ne {other : String} (h : other ≠ name) (f : Fields α) (value : α) :
    get? (insert f name value) other = get? f other := by
  induction f with
  | nil => simp [Ne.symm h, get?]
  | cons m f ih =>
    rw [insert_cons]
    split
    · next hm => rw [get?_cons, get?_cons, if_neg (Ne.symm h), if_neg (by rw [hm]; exact Ne.symm h)]
    · rw [get?_cons, get?_cons, ih]

theorem mem_of_get? {v : α} (h : get? f name = some v) : (name, v) ∈ f := by
  obtain ⟨m, hm, hv⟩ := Option.map_eq_some_iff.1 h
  obtain rfl : m.1 = name := by simpa using List.find?_some hm
  rw [← hv]
  exact List.mem_of_find?_eq_some hm

/-- Where no name is doubled, every field is the one that its name finds. -/
theorem get?_eq_some_iff (hd : (f.map (·.1)).Nodup) {v : α} :
    get? f name = some v ↔ (name, v) ∈ f := by
  refine ⟨mem_of_get?, fun h => ?_⟩
  induction f with
  | nil => exact absurd h List.not_mem_nil
  | cons m f ih =>
    rw [List.map_cons, List.nodup_cons] at hd
    rw [get?_cons]
    rcases List.mem_cons.1 h with rfl | h
    · simp
    · have hne : m.1 ≠ name := by
        rintro rfl
        exact hd.1 (List.mem_map.2 ⟨_, h, rfl⟩)
      rw [if_neg hne]
      exact ih hd.2 h

/-- Several names given their values one after the other keep them, if they differ. -/
theorem get?_foldl_insert_of_mem {β : Type} {g : β → α} {ms : List (String × β)}
    (hd : (ms.map (·.1)).Nodup) {m : String × β} (hm : m ∈ ms) (f : Fields α) :
    get? (ms.foldl (fun f m => insert f m.1 (g m.2)) f) m.1 = some (g m.2) := by
  induction ms using List.reverseRecOn with
  | nil => exact absurd hm List.not_mem_nil
  | append_singleton ms last ih =>
    rw [List.map_append, List.nodup_append] at hd
    rw [List.foldl_append]
    rcases List.mem_append.1 hm with hm | hm
    · have hne : m.1 ≠ last.1 := hd.2.2 _ (List.mem_map_of_mem hm) _ (by simp)
      exact (get?_insert_of_ne hne _ _).trans (ih hd.1 hm)
    · obtain rfl := List.mem_singleton.1 hm
      exact get?_insert_self _ _ _

/-! ## Names and filters -/

theorem map_fst_insert (f : Fields α) (name : String) (value : α) :
    (insert f name value).map (·.1) =
      if name ∈ f.map (·.1) then f.map (·.1) else f.map (·.1) ++ [name] := by
  induction f with
  | nil => rfl
  | cons m f ih =>
    rw [insert_cons, List.map_cons]
    by_cases hm : m.1 = name
    · rw [if_pos hm, if_pos (List.mem_cons.2 (.inl hm.symm)), List.map_cons, hm]
    · rw [if_neg hm, List.map_cons, ih]
      by_cases hf : name ∈ f.map (·.1)
      · rw [if_pos hf, if_pos (List.mem_cons_of_mem _ hf)]
      · rw [if_neg hf, if_neg fun h => (List.mem_cons.1 h).elim (Ne.symm hm) hf, List.cons_append]

/-- Fields of other names stay as they are, and in their order. -/
theorem filter_insert {p : String → Bool} (hname : p name = false) (f : Fields α) (value : α) :
    (insert f name value).filter (p ·.1) = f.filter (p ·.1) := by
  induction f with
  | nil => rw [insert_nil, List.filter_cons_of_neg (by simp [hname])]
  | cons m f ih =>
    rw [insert_cons]
    split
    · next hm =>
      rw [List.filter_cons_of_neg (by simp [hname]), List.filter_cons_of_neg (by simp [hm, hname])]
    · rw [List.filter_cons, List.filter_cons, ih]

theorem filter_foldl_insert {β : Type} {g : β → α} {ms : List (String × β)} {p : String → Bool}
    (hms : ∀ m ∈ ms, p m.1 = false) (f : Fields α) :
    (ms.foldl (fun f m => insert f m.1 (g m.2)) f).filter (p ·.1) = f.filter (p ·.1) := by
  induction ms generalizing f with
  | nil => rfl
  | cons m ms ih =>
    rw [List.forall_mem_cons] at hms
    rw [List.foldl_cons, ih hms.2, filter_insert hms.1]

theorem nodup_foldl_insert {β : Type} {g : β → α} (hf : (f.map (·.1)).Nodup)
    (ms : List (String × β)) :
    ((ms.foldl (fun f m => insert f m.1 (g m.2)) f).map (·.1)).Nodup := by
  induction ms generalizing f with
  | nil => exact hf
  | cons m ms ih => exact ih (nodup_insert hf m.1 (g m.2))

theorem get?_filter_ne (f : Fields α) (name other : String) :
    get? (f.filter (·.1 != name)) other = if other = name then none else get? f other := by
  induction f with
  | nil => simp [get?]
  | cons m f ih =>
    rw [List.filter_cons, get?_cons m f]
    split
    · next hm =>
      rw [get?_cons, ih]
      by_cases hother : m.1 = other
      · rw [if_pos hother, if_pos hother, if_neg (hother ▸ bne_iff_ne.1 hm)]
      · rw [if_neg hother, if_neg hother]
    · next hm =>
      obtain rfl : m.1 = name := by simpa using hm
      rw [ih]
      by_cases hother : other = m.1
      · rw [if_pos hother, if_pos hother]
      · rw [if_neg hother, if_neg hother, if_neg (Ne.symm hother)]

/-- Where no name is doubled, a value is found among those that were kept if it was kept. -/
theorem get?_filter (hd : (f.map (·.1)).Nodup) (p : α → Bool) (name : String) :
    get? (f.filter fun m => p m.2) name = (get? f name).filter p := by
  have hkept : ((f.filter fun m => p m.2).map (·.1)).Nodup :=
    hd.sublist (List.filter_sublist.map _)
  ext v
  rw [get?_eq_some_iff hkept, List.mem_filter, Option.filter_eq_some_iff, get?_eq_some_iff hd]

theorem get?_append (f g : Fields α) (name : String) :
    get? (f ++ g) name = (get? f name).or (get? g name) := by
  rw [get?, List.find?_append, Option.map_or]
  rfl

/-! ## Erasing

The other fields stay, though the last one may have moved. -/

theorem swapErase_perm (hd : (f.map (·.1)).Nodup) (name : String) :
    (swapErase f name).Perm (f.filter (·.1 != name)) := by
  have hsplit := List.takeWhile_append_dropWhile (p := fun m => m.1 != name) (l := f)
  have hkept : (f.takeWhile (·.1 != name)).filter (·.1 != name) = f.takeWhile (·.1 != name) :=
    List.filter_eq_self.2 fun m hm => List.all_eq_true.1 List.all_takeWhile m hm
  unfold swapErase
  split
  · next hnone =>
    rw [hnone, List.append_nil] at hsplit
    rw [← hsplit, hkept]
  · next m rest hrest =>
    have hm : m.1 = name := by
      have := List.head?_dropWhile_not (fun m => m.1 != name) f
      rw [hrest] at this
      simpa using this
    have hfilter : f.filter (·.1 != name) = f.takeWhile (·.1 != name) ++ rest := by
      rw [hrest] at hsplit
      rw [← hsplit, List.map_append, List.map_cons, List.nodup_append] at hd
      have hfresh : ∀ k ∈ rest, (k.1 != name) = true := by
        intro k hk
        rw [bne_iff_ne, ← hm]
        rintro heq
        exact (List.nodup_cons.1 hd.2.1).1 (heq ▸ List.mem_map_of_mem hk)
      conv_lhs => rw [← hsplit]
      rw [List.filter_append, hkept, List.filter_cons_of_neg (by simp [hm]),
        List.filter_eq_self.2 hfresh]
    rw [hfilter]
    split
    · next hlast =>
      rw [List.getLast?_eq_none_iff] at hlast
      rw [hlast, List.append_nil]
    · next last hlast =>
      obtain ⟨init, rfl⟩ := List.getLast?_eq_some_iff.1 hlast
      rw [List.dropLast_concat]
      have hmoved : ([last] ++ init).Perm (init ++ [last]) := List.perm_append_comm
      exact hmoved.append_left _

theorem nodup_swapErase (hd : (f.map (·.1)).Nodup) (name : String) :
    ((swapErase f name).map (·.1)).Nodup :=
  ((swapErase_perm hd name).map _).nodup_iff.2 ((List.filter_sublist.map _).nodup hd)

theorem mem_swapErase_iff (hd : (f.map (·.1)).Nodup) {m : String × α} :
    m ∈ swapErase f name ↔ m ∈ f ∧ m.1 ≠ name := by
  rw [(swapErase_perm hd name).mem_iff, List.mem_filter, bne_iff_ne]

theorem get?_swapErase_self (hd : (f.map (·.1)).Nodup) : get? (swapErase f name) name = none := by
  rw [Option.eq_none_iff_forall_ne_some]
  intro v hv
  exact ((mem_swapErase_iff hd).1 (mem_of_get? hv)).2 rfl

theorem get?_swapErase_of_ne {other : String} (h : other ≠ name) (hd : (f.map (·.1)).Nodup) :
    get? (swapErase f name) other = get? f other := by
  ext v
  rw [get?_eq_some_iff (nodup_swapErase hd name), get?_eq_some_iff hd, mem_swapErase_iff hd]
  exact and_iff_left h

/-! ## Fields that stay as they are -/

theorem get?_eq_none_iff : get? f name = none ↔ ∀ m ∈ f, m.1 ≠ name := by
  simp [get?]

/-- A name that is given the value it has -/
theorem insert_eq_self (h : get? f name = some value) : insert f name value = f := by
  induction f with
  | nil => simp [get?] at h
  | cons m f ih =>
    rw [get?_cons] at h
    rw [insert_cons]
    split
    · next hm =>
      rw [if_pos hm] at h
      rw [← hm, ← Option.some.inj h]
    · next hm =>
      rw [if_neg hm] at h
      rw [ih h]

theorem foldl_insert_eq_self {β : Type} {g : β → α} {ms : List (String × β)}
    (h : ∀ m ∈ ms, get? f m.1 = some (g m.2)) :
    ms.foldl (fun f m => insert f m.1 (g m.2)) f = f := by
  induction ms with
  | nil => rfl
  | cons m ms ih =>
    rw [List.forall_mem_cons] at h
    rw [List.foldl_cons, insert_eq_self h.1, ih h.2]

theorem swapErase_eq_self (h : get? f name = none) : swapErase f name = f := by
  have hdrop : f.dropWhile (·.1 != name) = [] :=
    List.dropWhile_eq_nil_iff.2 fun m hm => bne_iff_ne.2 (get?_eq_none_iff.1 h m hm)
  rw [swapErase, hdrop]

/-- Where no name is doubled, a name finds its value in any order of the fields. -/
theorem get?_eq_of_perm {g : Fields α} (hd : (f.map (·.1)).Nodup) (h : g.Perm f) (name : String) :
    get? g name = get? f name := by
  have hg : (g.map (·.1)).Nodup := (h.map _).nodup_iff.2 hd
  ext v
  rw [get?_eq_some_iff hg, get?_eq_some_iff hd, h.mem_iff]

end SealingProxy.Fields
