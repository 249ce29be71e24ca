import SealingProxy.Query
/-! # Laws of query parameters

A name that is set takes the place of its first occurrence, or else the last place. So a parameter
that is set has its value, once, and every other parameter keeps its own. -/

namespace SealingProxy.Query

variable {q : Query} {name other old : String} {front back params : List (String × String)}

/-! ## The place of a name -/

/-- A name has a first occurrence, or it does not occur. -/
theorem absent_or_first (params : List (String × String)) (name : String) :
    (∀ p ∈ params, p.1 ≠ name) ∨ ∃ front old back, params = front ++ (name, old) :: back ∧
      ∀ p ∈ front, p.1 ≠ name := by
  induction params with
  | nil => exact .inl fun _ hp => absurd hp List.not_mem_nil
  | cons p params ih =>
    obtain ⟨first, old⟩ := p
    by_cases hfirst : first = name
    · subst hfirst
      exact .inr ⟨[], old, params, rfl, fun _ hp => absurd hp List.not_mem_nil⟩
    · rcases ih with habsent | ⟨front, old', back, rfl, hfront⟩
      · exact .inl (List.forall_mem_cons.2 ⟨hfirst, habsent⟩)
      · exact .inr ⟨(first, old) :: front, old', back, rfl, List.forall_mem_cons.2 ⟨hfirst, hfront⟩⟩

/-- A name that does not occur is added at the end. -/
theorem set_of_absent (h : ∀ p ∈ params, p.1 ≠ name) (value : String) :
    set ⟨params⟩ name value = ⟨params ++ [(name, value)]⟩ := by
  have hall : ∀ p ∈ params, (p.1 != name) = true := by
    intro p hp
    simpa using h p hp
  have hdrop : params.dropWhile (·.1 != name) = [] := by
    rw [← List.append_nil params]
    exact List.dropWhile_append_of_pos hall
  rw [set, hdrop]

/-- The first occurrence of a name gets the value, and no other is left. -/
theorem set_of_first (h : ∀ p ∈ front, p.1 ≠ name) (old value : String)
    (back : List (String × String)) :
    set ⟨front ++ (name, old) :: back⟩ name value =
      ⟨front ++ (name, value) :: back.filter (·.1 != name)⟩ := by
  have hfront : ∀ p ∈ front, (p.1 != name) = true := by
    intro p hp
    simpa using h p hp
  rw [set, List.dropWhile_append_of_pos hfront, List.takeWhile_append_of_pos hfront,
    List.dropWhile_cons_of_neg (by simp), List.takeWhile_cons_of_neg (by simp), List.append_nil]

/-! ## Looking names up -/

theorem isSome_get? (q : Query) (name : String) : (q.get? name).isSome = q.contains name := by
  rw [get?, Option.isSome_map, contains, Bool.eq_iff_iff, List.find?_isSome, List.any_eq_true]

theorem get?_of_absent (h : ∀ p ∈ params, p.1 ≠ name) : get? ⟨params⟩ name = none := by
  rw [get?, Option.map_eq_none_iff, List.find?_eq_none]
  intro p hp
  simpa using h p hp

theorem get?_append (front back : List (String × String)) (name : String) :
    get? ⟨front ++ back⟩ name = (get? ⟨front⟩ name).or (get? ⟨back⟩ name) := by
  rw [get?, List.find?_append, Option.map_or, get?, get?]

theorem get?_cons_self (name value : String) (params : List (String × String)) :
    get? ⟨(name, value) :: params⟩ name = some value := by
  simp [get?]

theorem get?_cons_of_ne (h : other ≠ name) (value : String) (params : List (String × String)) :
    get? ⟨(name, value) :: params⟩ other = get? ⟨params⟩ other := by
  simp [get?, Ne.symm h]

/-- Parameters of other names can be left out before one is looked up. -/
theorem get?_filter {keep : String × String → Bool}
    (h : ∀ value, keep (name, value) = true) (params : List (String × String)) :
    get? ⟨params.filter keep⟩ name = get? ⟨params⟩ name := by
  have hp (p : String × String) : decide (keep p = true ∧ (p.1 == name) = true) = (p.1 == name) := by
    obtain ⟨first, value⟩ := p
    by_cases hfirst : first = name
    · subst hfirst
      simp [h]
    · simp [hfirst]
  simp only [get?, List.find?_filter, hp]

theorem get?_filter_of_ne (h : other ≠ name) (params : List (String × String)) :
    get? ⟨params.filter (·.1 != name)⟩ other = get? ⟨params⟩ other := by
  have hkeep (value : String) : ((other, value).1 != name) = true := bne_iff_ne.2 h
  exact get?_filter hkeep params

theorem get?_set_self (q : Query) (name value : String) :
    (q.set name value).get? name = some value := by
  obtain ⟨params⟩ := q
  rcases absent_or_first params name with habsent | ⟨front, old, back, rfl, hfront⟩
  · rw [set_of_absent habsent, get?_append, get?_of_absent habsent, get?_cons_self, Option.none_or]
  · rw [set_of_first hfront, get?_append, get?_of_absent hfront, get?_cons_self, Option.none_or]

theorem get?_set_of_ne (h : other ≠ name) (q : Query) (value : String) :
    (q.set name value).get? other = q.get? other := by
  obtain ⟨params⟩ := q
  rcases absent_or_first params name with habsent | ⟨front, old, back, rfl, hfront⟩
  · have hnone : get? ⟨[]⟩ other = none := rfl
    rw [set_of_absent habsent, get?_append, get?_cons_of_ne h, hnone, Option.or_none]
  · rw [set_of_first hfront, get?_append, get?_append, get?_cons_of_ne h, get?_cons_of_ne h,
      get?_filter_of_ne h]

/-- A name that is set occurs once. -/
theorem filter_set_self (q : Query) (name value : String) :
    (q.set name value).params.filter (·.1 == name) = [(name, value)] := by
  have hnone {l : List (String × String)} (h : ∀ p ∈ l, p.1 ≠ name) :
      l.filter (·.1 == name) = [] := by
    rw [List.filter_eq_nil_iff]
    intro p hp
    simpa using h p hp
  obtain ⟨params⟩ := q
  rcases absent_or_first params name with habsent | ⟨front, old, back, rfl, hfront⟩
  · rw [set_of_absent habsent, List.filter_append, hnone habsent]
    simp
  · have hback : ∀ p ∈ back.filter (·.1 != name), p.1 ≠ name := by
      intro p hp
      simpa using (List.mem_filter.1 hp).2
    rw [set_of_first hfront, List.filter_append, hnone hfront,
      List.filter_cons_of_pos (by simp), hnone hback, List.nil_append]

/-! ## Leaving names out

What is done to a parameter that is left out does not count. -/

section LeavingOut

variable {names others : List String}

/-- What is left holds none of the names. -/
theorem ne_of_mem_without (h : name ∈ names) (q : Query) :
    ∀ p ∈ (q.without names).params, p.1 ≠ name := by
  rintro p hp rfl
  have hnot := (List.mem_filter.1 hp).2
  simp [h] at hnot

theorem get?_without_of_mem (h : name ∈ names) (q : Query) : (q.without names).get? name = none :=
  get?_of_absent (ne_of_mem_without h q)

theorem erase_eq_without (q : Query) (name : String) : q.erase name = q.without [name] := by
  have hp (p : String × String) : (!([name].contains p.1)) = (p.1 != name) := by
    by_cases hn : p.1 = name <;> simp [hn]
  simp only [erase, without, hp]

theorem without_append (front back : List (String × String)) (names : List String) :
    without ⟨front ++ back⟩ names =
      ⟨(without ⟨front⟩ names).params ++ (without ⟨back⟩ names).params⟩ := by
  unfold without
  rw [List.filter_append]

theorem without_cons_of_mem (h : name ∈ names) (value : String)
    (params : List (String × String)) :
    without ⟨(name, value) :: params⟩ names = without ⟨params⟩ names := by
  unfold without
  rw [List.filter_cons_of_neg (by simpa using h)]

theorem without_cons_of_not_mem (h : name ∉ names) (value : String)
    (params : List (String × String)) :
    without ⟨(name, value) :: params⟩ names =
      ⟨(name, value) :: (without ⟨params⟩ names).params⟩ := by
  unfold without
  rw [List.filter_cons_of_pos (by simpa using h)]

theorem without_without_of_subset (h : others ⊆ names) (q : Query) :
    (q.without others).without names = q.without names := by
  have hp (p : String × String) :
      (!names.contains p.1 && !others.contains p.1) = !names.contains p.1 := by
    by_cases hm : p.1 ∈ names
    · simp [hm]
    · have hother : p.1 ∉ others := fun ho => hm (h ho)
      simp [hm, hother]
  simp only [without, List.filter_filter, hp]

theorem without_set_of_mem (h : name ∈ names) (q : Query) (value : String) :
    (q.set name value).without names = q.without names := by
  obtain ⟨params⟩ := q
  rcases absent_or_first params name with habsent | ⟨front, old, back, rfl, hfront⟩
  · have hnone : (without ⟨[]⟩ names).params = [] := rfl
    rw [set_of_absent habsent, without_append, without_cons_of_mem h, hnone, List.append_nil]
  · have herase : without ⟨back.filter (·.1 != name)⟩ names = without ⟨back⟩ names := by
      have hsubset : [name] ⊆ names := fun _ hm => List.mem_singleton.1 hm ▸ h
      have hall := without_without_of_subset hsubset ⟨back⟩
      rwa [← erase_eq_without] at hall
    rw [set_of_first hfront, without_append, without_append, without_cons_of_mem h,
      without_cons_of_mem h, herase]

end LeavingOut

end SealingProxy.Query
