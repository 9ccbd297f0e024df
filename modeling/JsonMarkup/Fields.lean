/-!
# Named values in first-set order

`Fields α` is what attributes, style properties and members of an object are kept in: values under
distinct names, standing in the order in which each name was set while it was absent. Setting a
name again keeps its place, removing one keeps the order of the rest.

**Main statements.** `get?_set` and `get?_erase` say what each operation does to the view `get?`;
`names_set` and `names_erase` say what it does to the order.
-/

namespace JsonMarkup

/-! ## On plain lists of pairs -/

/-- Give `name` the value `v` where it stands, or at the end if it is absent. -/
def putField {α : Type} (name : String) (v : α) : List (String × α) → List (String × α)
  | [] => [(name, v)]
  | (n, w) :: rest => if n = name then (n, v) :: rest else (n, w) :: putField name v rest

/-- The value of the first pair with this name. -/
def findField? {α : Type} (name : String) : List (String × α) → Option α
  | [] => none
  | (n, w) :: rest => if n = name then some w else findField? name rest

/-- Names after `putField`: the same ones, with the new name at the end if it was absent. -/
theorem map_fst_putField {α : Type} (name : String) (v : α) (es : List (String × α)) :
    (putField name v es).map Prod.fst =
      if name ∈ es.map Prod.fst then es.map Prod.fst else es.map Prod.fst ++ [name] := by
  induction es with
  | nil => simp [putField]
  | cons e rest ih =>
    obtain ⟨n, w⟩ := e
    by_cases h : n = name
    · simp [putField, h]
    · have h' : ¬ name = n := fun he => h he.symm
      simp only [putField, h, if_false, List.map_cons, ih, List.mem_cons, h', false_or]
      split <;> simp

/-- Named values with distinct names. -/
structure Fields (α : Type) where
  /-- The pairs, in first-set order. -/
  toList : List (String × α)
  distinct : (toList.map Prod.fst).Nodup

namespace Fields

variable {α : Type}

def empty : Fields α := ⟨[], List.nodup_nil⟩

instance : Inhabited (Fields α) := ⟨empty⟩

@[ext]
theorem ext {fs gs : Fields α} (h : fs.toList = gs.toList) : fs = gs := by
  cases fs; cases gs; simp_all

/-- The names, in first-set order. -/
def names (fs : Fields α) : List String := fs.toList.map Prod.fst

def isEmpty (fs : Fields α) : Bool := fs.toList.isEmpty

def get? (fs : Fields α) (name : String) : Option α := findField? name fs.toList

/-- Set a name: in its old place if it is present, at the end if not. -/
def set (fs : Fields α) (name : String) (v : α) : Fields α where
  toList := putField name v fs.toList
  distinct := by
    rw [map_fst_putField]
    have hd := fs.distinct
    split
    · exact hd
    · rename_i h
      rw [List.nodup_append]
      refine ⟨hd, List.nodup_cons.mpr ⟨by simp, List.nodup_nil⟩, ?_⟩
      intro a ha b hb hab
      simp only [List.mem_singleton] at hb
      exact h (hb ▸ hab ▸ ha)

/-- Remove a name, if it is present. -/
def erase (fs : Fields α) (name : String) : Fields α where
  toList := fs.toList.filter fun e => e.1 != name
  distinct := fs.distinct.sublist (List.filter_sublist.map Prod.fst)

/-- Set the pairs one after the other: each name stands where it first occurs, with its last
value. -/
def ofList (es : List (String × α)) : Fields α :=
  es.foldl (fun fs e => fs.set e.1 e.2) empty

/-! ## The operations through their views -/

theorem findField?_putField (name : String) (v : α) (es : List (String × α)) (n : String) :
    findField? n (putField name v es) = if n = name then some v else findField? n es := by
  induction es with
  | nil => simp [putField, findField?, eq_comm]
  | cons e rest ih =>
    obtain ⟨m, w⟩ := e
    by_cases hm : m = name
    · subst hm
      by_cases h : m = n
      · simp [putField, findField?, h]
      · simp [putField, findField?, h, Ne.symm h]
    · by_cases h : m = n
      · subst h
        simp [putField, findField?, hm]
      · simp [putField, findField?, hm, h, ih]

theorem findField?_filter (name : String) (es : List (String × α)) (n : String) :
    findField? n (es.filter fun e => e.1 != name) =
      if n = name then none else findField? n es := by
  induction es with
  | nil => simp [findField?]
  | cons e rest ih =>
    obtain ⟨m, w⟩ := e
    by_cases hm : m = name
    · subst hm
      by_cases h : m = n
      · subst h
        simpa using ih
      · simp [findField?, ih, h, Ne.symm h]
    · by_cases h : m = n
      · subst h
        simp [findField?, hm]
      · simp [findField?, hm, h, ih]

/-- A name that was set reads back, and no other name is affected. -/
theorem get?_set (fs : Fields α) (name : String) (v : α) (n : String) :
    (fs.set name v).get? n = if n = name then some v else fs.get? n :=
  findField?_putField name v fs.toList n

/-- A removed name is absent, and no other name is affected. -/
theorem get?_erase (fs : Fields α) (name n : String) :
    (fs.erase name).get? n = if n = name then none else fs.get? n :=
  findField?_filter name fs.toList n

/-- Setting a present name keeps the order; setting an absent one puts it last. -/
theorem names_set (fs : Fields α) (name : String) (v : α) :
    (fs.set name v).names = if name ∈ fs.names then fs.names else fs.names ++ [name] :=
  map_fst_putField name v fs.toList

/-- Removing a name keeps the order of the rest. -/
theorem names_erase (fs : Fields α) (name : String) :
    (fs.erase name).names = fs.names.filter (· != name) := by
  unfold names erase
  rw [List.filter_map]
  rfl

end Fields

end JsonMarkup
