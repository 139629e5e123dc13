set_option autoImplicit false

namespace BuildDigest

structure KeyMap (α : Type) where
  entries : List (String × α)
  ascending : entries.Pairwise fun a b => a.1 < b.1
  deriving DecidableEq

namespace KeyMap

variable {α : Type}

def empty : KeyMap α := ⟨[], .nil⟩

instance : Inhabited (KeyMap α) := ⟨empty⟩

instance : EmptyCollection (KeyMap α) := ⟨empty⟩

def find (key : String) : List (String × α) → Option α
  | [] => none
  | (k, v) :: rest => if k = key then some v else find key rest

def get? (m : KeyMap α) (key : String) : Option α :=
  find key m.entries

def contains (m : KeyMap α) (key : String) : Bool :=
  (m.get? key).isSome

def place (key : String) (value : α) : List (String × α) → List (String × α)
  | [] => [(key, value)]
  | (k, v) :: rest =>
      if k < key then (k, v) :: place key value rest
      else if key < k then (key, value) :: (k, v) :: rest
      else (key, value) :: rest

theorem mem_place {key : String} {value : α} {entries : List (String × α)} {e : String × α}
    (h : e ∈ place key value entries) : e = (key, value) ∨ e ∈ entries := by
  induction entries with
  | nil => simpa [place] using h
  | cons first rest ih =>
    obtain ⟨k, v⟩ := first
    simp only [place] at h
    split at h
    · cases h with
      | head => exact .inr (.head _)
      | tail _ h => exact (ih h).imp_right (.tail _)
    · split at h
      · exact List.mem_cons.1 h
      · cases h with
        | head => exact .inl rfl
        | tail _ h => exact .inr (.tail _ h)

theorem place_ascending {key : String} {value : α} {entries : List (String × α)}
    (h : entries.Pairwise fun a b => a.1 < b.1) :
    (place key value entries).Pairwise fun a b => a.1 < b.1 := by
  induction entries with
  | nil => exact List.pairwise_singleton _ _
  | cons first rest ih =>
    obtain ⟨k, v⟩ := first
    obtain ⟨above, tail⟩ := List.pairwise_cons.1 h
    simp only [place]
    split
    · next below =>
      refine List.pairwise_cons.2 ⟨fun e he => ?_, ih tail⟩
      rcases mem_place he with rfl | he
      · exact below
      · exact above e he
    · next notBelow =>
      split
      · next below =>
        refine List.pairwise_cons.2 ⟨fun e he => ?_, h⟩
        cases he with
        | head => exact below
        | tail _ he => exact String.lt_trans below (above e he)
      · next notAbove =>
        have same : k = key := String.le_antisymm
          (String.not_lt.1 notAbove) (String.not_lt.1 notBelow)
        subst same
        exact List.pairwise_cons.2 ⟨above, tail⟩

def insert (m : KeyMap α) (key : String) (value : α) : KeyMap α :=
  ⟨place key value m.entries, place_ascending m.ascending⟩

theorem filter_ascending {entries : List (String × α)} (p : String × α → Bool)
    (h : entries.Pairwise fun a b => a.1 < b.1) :
    (entries.filter p).Pairwise fun a b => a.1 < b.1 :=
  List.Pairwise.filter p h

def erase (m : KeyMap α) (key : String) : KeyMap α :=
  ⟨m.entries.filter (fun e => e.1 ≠ key), filter_ascending _ m.ascending⟩

def ofList (entries : List (String × α)) : KeyMap α :=
  entries.foldl (fun m e => m.insert e.1 e.2) empty

theorem find_place (key k : String) (value : α) {entries : List (String × α)}
    (h : entries.Pairwise fun a b => a.1 < b.1) :
    find k (place key value entries) = if k = key then some value else find k entries := by
  induction entries with
  | nil => simp [place, find, eq_comm]
  | cons first rest ih =>
    obtain ⟨k', v'⟩ := first
    obtain ⟨above, tail⟩ := List.pairwise_cons.1 h
    simp only [place]
    split
    · next below =>
      simp only [find, ih tail]
      split
      · next same =>
        subst same
        rw [if_neg (fun e : k' = key => String.lt_irrefl key (e ▸ below))]
      · rfl
    · next notBelow =>
      split
      · simp only [find, eq_comm]
      · next notAbove =>
        have same : k' = key := String.le_antisymm
          (String.not_lt.1 notAbove) (String.not_lt.1 notBelow)
        subst same
        simp only [find, eq_comm]
        split <;> rfl

@[simp] theorem get?_empty (key : String) : (empty : KeyMap α).get? key = none := rfl

@[simp] theorem get?_insert (m : KeyMap α) (key k : String) (value : α) :
    (m.insert key value).get? k = if k = key then some value else m.get? k :=
  find_place key k value m.ascending

theorem get?_insert_each {β : Type} (key : β → String) (value : β → α) (xs : List β) (m : KeyMap α)
    (k : String) :
    (xs.foldl (fun m x => m.insert (key x) (value x)) m).get? k =
      ((xs.filter fun x => key x = k).getLast?.map value).or (m.get? k) := by
  induction xs generalizing m with
  | nil => rfl
  | cons x rest ih =>
    rw [List.foldl_cons, ih, get?_insert, List.filter_cons]
    by_cases same : key x = k
    · rw [if_pos (decide_eq_true same), List.getLast?_cons, if_pos same.symm]
      cases (rest.filter fun x => key x = k).getLast? <;> rfl
    · rw [if_neg (fun holds => same (of_decide_eq_true holds)), if_neg (Ne.symm same)]

theorem find_filter (key k : String) (entries : List (String × α)) :
    find k (entries.filter fun e => e.1 ≠ key) = if k = key then none else find k entries := by
  induction entries with
  | nil => simp [find]
  | cons first rest ih =>
    obtain ⟨k', v'⟩ := first
    by_cases same : k' = key
    · subst same
      simp only [ne_eq, not_true_eq_false, decide_false, Bool.false_eq_true, not_false_eq_true,
        List.filter_cons_of_neg, ih, find]
      split
      · rfl
      · next other => rw [if_neg (fun e => other e.symm)]
    · simp only [ne_eq, same, not_false_eq_true, decide_true, List.filter_cons_of_pos, find, ih]
      split
      · next found => rw [if_neg (fun e => same (found.trans e))]
      · rfl

theorem get?_erase (m : KeyMap α) (key k : String) :
    (m.erase key).get? k = if k = key then none else m.get? k :=
  find_filter key k m.entries

theorem find_none {key : String} {entries : List (String × α)}
    (h : ∀ e ∈ entries, key < e.1) : find key entries = none := by
  induction entries with
  | nil => rfl
  | cons first rest ih =>
    obtain ⟨k, v⟩ := first
    have below : key < k := h _ (.head _)
    rw [find, if_neg (fun e : k = key => String.lt_irrefl key (e ▸ below))]
    exact ih fun e he => h e (.tail _ he)

theorem find_below {key : String} {first : String × α} {rest : List (String × α)}
    (below : key < first.1) (above : ∀ e ∈ rest, first.1 < e.1) : find key (first :: rest) = none :=
  find_none (List.forall_mem_cons.2 ⟨below, fun e he => String.lt_trans below (above e he)⟩)

theorem entries_ext {l r : List (String × α)} (hl : l.Pairwise fun a b => a.1 < b.1)
    (hr : r.Pairwise fun a b => a.1 < b.1) (h : ∀ key, find key l = find key r) : l = r := by
  induction l generalizing r with
  | nil =>
    cases r with
    | nil => rfl
    | cons e rest => simpa [find] using h e.1
  | cons a l ih =>
    obtain ⟨aboveA, tailL⟩ := List.pairwise_cons.1 hl
    cases r with
    | nil => simpa [find] using h a.1
    | cons b r =>
      obtain ⟨aboveB, tailR⟩ := List.pairwise_cons.1 hr
      have firstKey : a.1 = b.1 := by
        have atA := h a.1
        have atB := h b.1
        by_cases ab : a.1 < b.1
        · rw [find_below ab aboveB] at atA
          simp [find] at atA
        · by_cases ba : b.1 < a.1
          · rw [find_below ba aboveA] at atB
            simp [find] at atB
          · exact String.le_antisymm (String.not_lt.1 ba) (String.not_lt.1 ab)
      have firstValue : a.2 = b.2 := by
        have atA := h a.1
        simpa [find, firstKey] using atA
      have first : a = b := Prod.ext firstKey firstValue
      subst first
      congr 1
      refine ih tailL tailR fun key => ?_
      have atKey := h key
      by_cases same : a.1 = key
      · subst same
        rw [find_none aboveA, find_none aboveB]
      · simpa [find, same] using atKey

theorem ext_get {m n : KeyMap α} (h : ∀ key, m.get? key = n.get? key) : m = n := by
  cases m with
  | mk l hl =>
    cases n with
    | mk r hr =>
      have same : l = r := entries_ext hl hr h
      subst same
      rfl

theorem find_iff_mem {entries : List (String × α)} (h : entries.Pairwise fun a b => a.1 < b.1)
    (key : String) (value : α) : find key entries = some value ↔ (key, value) ∈ entries := by
  induction entries with
  | nil => simp [find]
  | cons first rest ih =>
    obtain ⟨k, v⟩ := first
    obtain ⟨above, tail⟩ := List.pairwise_cons.1 h
    by_cases same : k = key
    · subst same
      have absent : (k, value) ∉ rest := fun he => String.lt_irrefl k (above _ he)
      simp [find, absent, eq_comm]
    · simp [find, same, ih tail, Ne.symm same]

theorem get?_iff_mem (m : KeyMap α) (key : String) (value : α) :
    m.get? key = some value ↔ (key, value) ∈ m.entries :=
  find_iff_mem m.ascending key value

theorem ofList_perm (m : KeyMap α) {entries : List (String × α)} (h : entries.Perm m.entries) :
    ofList entries = m := by
  refine ext_get fun key => (get?_insert_each Prod.fst Prod.snd entries empty key).trans ?_
  rw [get?_empty, Option.or_none]
  cases last : (entries.filter fun e => e.1 = key).getLast? with
  | none =>
    cases found : m.get? key with
    | none => rfl
    | some value =>
      have member := h.mem_iff.2 ((get?_iff_mem m key value).1 found)
      have none := List.filter_eq_nil_iff.1 (List.getLast?_eq_none_iff.1 last) _ member
      exact absurd (decide_eq_true rfl) none
  | some e =>
    obtain ⟨member, same⟩ := List.mem_filter.1 (List.mem_of_getLast? last)
    have found := (get?_iff_mem m e.1 e.2).2 (h.mem_iff.1 member)
    rw [of_decide_eq_true same] at found
    exact found.symm

end KeyMap

end BuildDigest
