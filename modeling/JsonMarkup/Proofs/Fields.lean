import JsonMarkup.Fields
import Mathlib.Data.List.DropRight

/-!
# Named values as a record of settings

Fields are filled by setting one name after the other. `Fields.Lists` says what has become of a
list of settings without going through them: a name stands where it was first set, with the value
that it was last set to.

**Main statements.** `Fields.Lists.set` and `Fields.Lists.erase`: setting a name adds to the list of
settings, removing one takes all of its settings out of it.
-/

namespace JsonMarkup

variable {α : Type}

theorem eraseDups_concat (names : List String) (n : String) :
    (names ++ [n]).eraseDups = if n ∈ names then names.eraseDups else names.eraseDups ++ [n] := by
  rw [List.eraseDups_append]
  by_cases h : n ∈ names
  · simp [List.removeAll, h]
  · simp [List.removeAll, h, List.eraseDups_cons]

theorem eraseDups_sublist (names : List String) : names.eraseDups.Sublist names := by
  induction names using List.reverseRecOn with
  | nil => exact .slnil
  | append_singleton names n ih =>
    rw [eraseDups_concat]
    split
    · exact ih.trans (List.sublist_append_left names [n])
    · exact ih.append (List.Sublist.refl [n])

/-- It does not matter whether names are taken out before or after repetitions. -/
theorem eraseDups_filter (p : String → Bool) (names : List String) :
    (names.filter p).eraseDups = names.eraseDups.filter p := by
  induction names using List.reverseRecOn with
  | nil => rfl
  | append_singleton names n ih =>
    rw [List.filter_append, eraseDups_concat]
    by_cases hp : p n
    · rw [List.filter_singleton, hp, cond_true, eraseDups_concat, ih]
      by_cases h : n ∈ names
      · simp [h, hp]
      · simp [h, hp]
    · rw [List.filter_singleton, Bool.eq_false_iff.mpr hp, cond_false, List.append_nil, ih]
      by_cases h : n ∈ names
      · simp [h]
      · simp [h, hp]

/-- The last pair with a name decides about its value. -/
theorem findField?_concat (es : List (String × α)) (e : String × α) (n : String) :
    findField? n (es ++ [e]).reverse = if n = e.1 then some e.2 else findField? n es.reverse := by
  obtain ⟨m, v⟩ := e
  rw [List.reverse_append, List.reverse_singleton, List.singleton_append, findField?]
  simp only [eq_comm]

namespace Fields

/-- Each name stands where it was first set, with the value that it was last set to. -/
structure Lists (fs : Fields α) (es : List (String × α)) : Prop where
  names : fs.names = (es.map Prod.fst).eraseDups
  values : ∀ n, fs.get? n = findField? n es.reverse

theorem Lists.empty : (Fields.empty : Fields α).Lists [] where
  names := rfl
  values _ := rfl

theorem Lists.set {fs : Fields α} {es : List (String × α)} (h : fs.Lists es) (n : String) (v : α) :
    (fs.set n v).Lists (es ++ [(n, v)]) where
  names := by
    rw [names_set, h.names, List.map_append, List.map_singleton, eraseDups_concat]
    simp only [List.mem_eraseDups]
  values m := by
    rw [get?_set, h.values, findField?_concat]

theorem Lists.erase {fs : Fields α} {es : List (String × α)} (h : fs.Lists es) (n : String) :
    (fs.erase n).Lists (es.filter (·.1 != n)) where
  names := by
    rw [names_erase, h.names, ← eraseDups_filter, List.filter_map]
    rfl
  values m := by
    rw [get?_erase, h.values, ← List.filter_reverse, findField?_filter]

/-! ## Setting everything again -/

end Fields

theorem putField_of_not_mem {name : String} {v : α} {es : List (String × α)}
    (h : name ∉ es.map Prod.fst) : putField name v es = es ++ [(name, v)] := by
  induction es with
  | nil => rfl
  | cons e rest ih =>
    rw [List.map_cons, List.mem_cons, not_or] at h
    rw [putField, if_neg (Ne.symm h.1), ih h.2]
    rfl

namespace Fields

/-- Names that are set while they are absent stand in the order in which they are set. -/
theorem toList_foldl_set (fs : Fields α) {es : List (String × α)}
    (h : ((fs.toList ++ es).map Prod.fst).Nodup) :
    (es.foldl (fun fs e => fs.set e.1 e.2) fs).toList = fs.toList ++ es := by
  induction es generalizing fs with
  | nil => exact (List.append_nil _).symm
  | cons e rest ih =>
    have absent : e.1 ∉ fs.toList.map Prod.fst := by
      rw [List.map_append, List.nodup_append] at h
      exact fun mem => h.2.2 e.1 mem e.1 (List.mem_cons_self ..) rfl
    have placed : (fs.set e.1 e.2).toList = fs.toList ++ [e] := putField_of_not_mem absent
    rw [List.foldl_cons, ih, placed, List.append_assoc]
    · rfl
    · rw [placed, List.append_assoc]
      exact h

/-- Setting everything again, in order, gives the same. -/
theorem ofList_toList (fs : Fields α) : Fields.ofList fs.toList = fs :=
  Fields.ext (toList_foldl_set Fields.empty fs.distinct)

/-! ## Settings collapsed -/

theorem lists_ofList (es : List (String × α)) : (Fields.ofList es).Lists es := by
  induction es using List.reverseRecOn with
  | nil => exact Lists.empty
  | append_singleton es e ih =>
    rw [Fields.ofList, List.foldl_append]
    exact ih.set e.1 e.2

end Fields

/-- Each name where it is first set, with the value that it is last set to. -/
def lastOfEach (es : List (String × α)) : List (String × α) :=
  (es.map Prod.fst).eraseDups.filterMap fun name => (findField? name es.reverse).map (name, ·)

/-- Where names are distinct, what is found under a name is the pair that has it. -/
theorem findField?_eq_some_iff {es : List (String × α)} (distinct : (es.map Prod.fst).Nodup)
    {name : String} {v : α} : findField? name es = some v ↔ (name, v) ∈ es := by
  induction es with
  | nil => exact iff_of_false nofun List.not_mem_nil
  | cons e rest ih =>
    obtain ⟨n, w⟩ := e
    rw [List.map_cons, List.nodup_cons] at distinct
    rw [findField?, List.mem_cons, Prod.mk.injEq]
    split
    · rename_i same
      subst same
      have others : (n, v) ∉ rest := fun mem => distinct.1 (List.mem_map.mpr ⟨_, mem, rfl⟩)
      simp only [Option.some_inj, true_and, others, or_false, eq_comm]
    · rename_i other
      rw [ih distinct.2]
      exact (or_iff_right fun same => other same.1.symm).symm

theorem Fields.get?_eq_some_iff {fs : Fields α} {name : String} {v : α} :
    fs.get? name = some v ↔ (name, v) ∈ fs.toList :=
  findField?_eq_some_iff fs.distinct

/-- Where names are distinct, each pair is found under its name. -/
theorem filterMap_findField? {es : List (String × α)} (distinct : (es.map Prod.fst).Nodup) :
    (es.map Prod.fst).filterMap (fun name => (findField? name es).map (name, ·)) = es := by
  induction es with
  | nil => rfl
  | cons e rest ih =>
    obtain ⟨n, v⟩ := e
    rw [List.map_cons, List.nodup_cons] at distinct
    have others : (rest.map Prod.fst).filterMap
        (fun name => (findField? name ((n, v) :: rest)).map (name, ·)) = rest := by
      refine Eq.trans (List.filterMap_congr fun name mem => ?_) (ih distinct.2)
      have other : n ≠ name := fun same => distinct.1 (same ▸ mem)
      rw [findField?, if_neg other]
    rw [List.map_cons, List.filterMap_cons, others]
    simp [findField?]

/-- Named values are what the settings come to. -/
theorem Fields.Lists.toList_eq {fs : Fields α} {es : List (String × α)} (h : fs.Lists es) :
    fs.toList = lastOfEach es := by
  calc fs.toList
      = fs.names.filterMap fun name => (fs.get? name).map (name, ·) :=
        (filterMap_findField? fs.distinct).symm
    _ = lastOfEach es := by
        rw [h.names]
        exact List.filterMap_congr fun name _ => by rw [h.values]

end JsonMarkup
