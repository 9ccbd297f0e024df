import JsonMarkup.Policy.Basic
import Mathlib.Data.List.Sort
import Mathlib.Data.String.Basic

/-!
# Policies through their lists

A set of tags is known by its members, and a policy by the tags that it lists: an unset set and an
empty one list nothing, and so they rule in the same way.

**Main statements.** `TagSet.ext_of_mem`: sets with the same members are the same. `check_eq_ok`,
`check_eq_excluded`, `check_eq_notIncluded` and `check_eq_tooDeep`: when a policy lets a tag
through, and which of its rules is named when it does not.
-/

namespace JsonMarkup

namespace TagSet

variable {s u : TagSet} {tags : List String} {tag t : String}

theorem mem_insertAll : t ∈ (s.insertAll tags).tags ↔ t ∈ s.tags ∨ t ∈ tags := by
  induction tags generalizing s with
  | nil => simp [insertAll]
  | cons first rest ih =>
    have inserted : t ∈ (s.insert first).tags ↔ t = first ∨ t ∈ s.tags := mem_insertTag
    rw [insertAll, List.foldl_cons, ← insertAll, ih, inserted, List.mem_cons, or_assoc,
      or_left_comm]

theorem mem_ofList : t ∈ (ofList tags).tags ↔ t ∈ tags := by
  rw [ofList, mem_insertAll]
  exact or_iff_right List.not_mem_nil

/-- Sets with the same members are the same. -/
theorem ext_of_mem (h : ∀ t, t ∈ s.tags ↔ t ∈ u.tags) : s = u := by
  obtain ⟨_, increasing⟩ := s
  obtain ⟨_, increasing'⟩ := u
  obtain rfl := increasing.eq_of_mem_iff increasing' h
  rfl

theorem ofList_tags (s : TagSet) : ofList s.tags = s := ext_of_mem fun _ => mem_ofList

end TagSet

namespace Policy

/-- The tags that an optional set lists. -/
def listed (tags? : Option TagSet) : List String := tags?.elim [] TagSet.tags

variable {p : Policy} {tag : String} {depth n : Nat}

theorem excludes_iff : p.excludes tag = true ↔ tag ∈ listed p.excluded := by
  cases h : p.excluded <;> simp [excludes, listed, h, TagSet.contains]

theorem omits_iff :
    p.omits tag = true ↔ listed p.included ≠ [] ∧ tag ∉ listed p.included := by
  cases h : p.included <;> simp [omits, listed, h, TagSet.contains, TagSet.isEmpty]

/-- The rules of a policy are held against a tag one after the other. -/
theorem check_cases (p : Policy) (tag : String) (depth : Nat) :
    (p.excludes tag = true ∧ p.check tag depth = .error (.excluded tag)) ∨
    (p.excludes tag = false ∧ p.omits tag = true ∧
      p.check tag depth = .error (.notIncluded tag)) ∨
    (p.excludes tag = false ∧ p.omits tag = false ∧ ∃ n, p.maxDepth = some n ∧ n < depth ∧
      p.check tag depth = .error (.tooDeep depth n)) ∨
    (p.excludes tag = false ∧ p.omits tag = false ∧ (∀ n, p.maxDepth = some n → depth ≤ n) ∧
      p.check tag depth = .ok ()) := by
  rw [check]
  cases excludes : p.excludes tag with
  | true => exact .inl ⟨rfl, rfl⟩
  | false =>
    cases omits : p.omits tag with
    | true => exact .inr (.inl ⟨rfl, rfl, rfl⟩)
    | false =>
      cases limit : p.maxDepth with
      | none => exact .inr (.inr (.inr ⟨rfl, rfl, nofun, rfl⟩))
      | some n =>
        by_cases deep : n < depth
        · exact .inr (.inr (.inl ⟨rfl, rfl, n, rfl, deep, if_pos deep⟩))
        · refine .inr (.inr (.inr ⟨rfl, rfl, ?_, if_neg deep⟩))
          rintro _ ⟨⟩
          exact Nat.not_lt.mp deep

theorem check_eq_ok : p.check tag depth = .ok () ↔
    p.excludes tag = false ∧ p.omits tag = false ∧ ∀ n, p.maxDepth = some n → depth ≤ n := by
  rcases check_cases p tag depth with ⟨excluded, check⟩ | ⟨named, omitted, check⟩ |
    ⟨named, listed, n, limit, deep, check⟩ | ⟨named, listed, shallow, check⟩
  · simp [excluded, check]
  · simp [omitted, check]
  · simp [limit, check, deep]
  · exact iff_of_true check ⟨named, listed, shallow⟩

theorem check_eq_excluded :
    p.check tag depth = .error (.excluded tag) ↔ p.excludes tag = true := by
  rcases check_cases p tag depth with ⟨excluded, check⟩ | ⟨named, omitted, check⟩ |
    ⟨named, listed, n, limit, deep, check⟩ | ⟨named, listed, shallow, check⟩
  · simp [excluded, check]
  all_goals simp [named, check]

theorem check_eq_notIncluded : p.check tag depth = .error (.notIncluded tag) ↔
    p.excludes tag = false ∧ p.omits tag = true := by
  rcases check_cases p tag depth with ⟨excluded, check⟩ | ⟨named, omitted, check⟩ |
    ⟨named, listed, n, limit, deep, check⟩ | ⟨named, listed, shallow, check⟩
  · simp [excluded, check]
  · simp [named, omitted, check]
  all_goals simp [listed, check]

theorem check_eq_tooDeep : p.check tag depth = .error (.tooDeep depth n) ↔
    p.excludes tag = false ∧ p.omits tag = false ∧ p.maxDepth = some n ∧ n < depth := by
  rcases check_cases p tag depth with ⟨excluded, check⟩ | ⟨named, omitted, check⟩ |
    ⟨named, listed, m, limit, deep, check⟩ | ⟨named, listed, shallow, check⟩
  · simp [excluded, check]
  · simp [omitted, check]
  · simp only [named, listed, limit, check, Except.error.injEq, Violation.tooDeep.injEq, true_and,
      Option.some_inj]
    exact ⟨fun same => ⟨same, same ▸ deep⟩, fun same => same.1⟩
  · simp only [check, reduceCtorEq, false_iff, not_and, Nat.not_lt]
    exact fun _ _ limit => shallow n limit

end Policy

end JsonMarkup
