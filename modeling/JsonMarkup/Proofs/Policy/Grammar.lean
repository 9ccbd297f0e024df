import JsonMarkup.Policy.Json
import JsonMarkup.Proofs.Json.Extent

/-!
# Policies are documents

A policy is read without a tree. Its reader keeps no stack, since where it stands says what is
open: the policy, and in it at most one set of tags. A reader of documents that takes the same
tokens stands beside it all the way (`Beside`).

**Theorem** (`document_of_read`). A text that is accepted as a policy is a document.
-/

namespace JsonMarkup

namespace Policy

namespace Reader

open Json (Token Around builder)

/-- What a member stands in: an array, or an object. -/
inductive Within : Bool → Around Json → Prop
  | list {items : List Json} : Within true (.list items)
  | object {members : List (String × Json)} {name : String} : Within false (.object members name)

/-- Where a reader of documents stands beside a reader of policies. -/
inductive Beside : Position → Json.Position Json → Prop
  | start : Beside .start (.value [])
  | firstName : Beside .firstName (.firstName [])
  | afterName {f : Field} {members : List (String × Json)} {name : String} :
    Beside (.afterName f) (.afterName members name [])
  | value {f : Field} {members : List (String × Json)} {name : String} :
    Beside (.value f) (.value [.object members name])
  | afterMember {members : List (String × Json)} : Beside .afterMember (.afterMember members [])
  | nextName {members : List (String × Json)} : Beside .nextName (.nextName members [])
  | firstElement : Beside .firstElement (.firstItem [])
  | afterElement {next : Option Field} {items : List Json} :
    Beside (.afterElement next) (.afterItem items [])
  | nextElement {f : Field} {items : List Json} : Beside (.nextElement f) (.nextItem items [])
  | pastElements {items : List Json} : Beside .pastElements (.nextItem items [])
  | firstTag {f : Field} {inArray : Bool} {around : Around Json} (within : Within inArray around) :
    Beside (.firstTag f inArray) (.firstItem [around])
  | afterTag {f : Field} {inArray : Bool} {tags : TagSet} {items : List Json}
    {around : Around Json} (within : Within inArray around) :
    Beside (.afterTag f inArray tags) (.afterItem items [around])
  | nextTag {f : Field} {inArray : Bool} {tags : TagSet} {items : List Json}
    {around : Around Json} (within : Within inArray around) :
    Beside (.nextTag f inArray tags) (.nextItem items [around])
  | done {j : Json} : Beside .done (.done j)

variable {r r' : Reader} {d : Draft} {f : Field} {inArray : Bool} {tags : TagSet} {t : Token}
  {around : Around Json} {p : Json.Position Json} {ts : List Token}

/-! ## Steps -/

theorem beside_finish (within : Within inArray around) (f : Field) (j : Json) :
    Beside (afterValue f inArray) (Json.Position.finish j [around]) := by
  cases within with
  | list => exact .afterElement
  | object => exact .afterMember

theorem beside_takeValue (within : Within inArray around)
    (moved : takeValue d f inArray t = .ok r') :
    ∃ q, Json.Position.start builder none [around] t = .ok q ∧ Beside r'.position q := by
  cases t with
  | scalar s =>
    refine ⟨_, rfl, ?_⟩
    cases s with
    | null =>
      cases moved
      exact beside_finish within f _
    | number n =>
      cases n with
      | integer n =>
        simp only [takeValue] at moved
        split at moved
        · split at moved
          · cases moved
          · cases moved
            exact beside_finish within f _
        · cases moved
      | double x => cases moved
    | _ => cases moved
  | listOpen =>
    refine ⟨_, rfl, ?_⟩
    simp only [takeValue] at moved
    split at moved
    · cases moved
    · cases moved
      exact .firstTag within
  | _ => cases moved

theorem takeName_eq_ok (moved : takeName d t = .ok r') :
    ∃ name f, t = .scalar (.string name) ∧ r'.position = .afterName f := by
  cases t with
  | scalar s =>
    cases s with
    | string name =>
      simp only [takeName] at moved
      split at moved
      · cases moved
      · rename_i f known
        split at moved
        · cases moved
        · cases moved
          exact ⟨name, f, rfl, rfl⟩
    | _ => cases moved
  | fault e isString => cases isString <;> cases moved
  | _ => cases moved

theorem takeTag_eq_ok (moved : takeTag d f inArray tags t = .ok r') :
    ∃ tag, t = .scalar (.string tag) ∧ r'.position = .afterTag f inArray (tags.insert tag) := by
  cases t with
  | scalar s =>
    cases s with
    | string tag =>
      cases moved
      exact ⟨tag, rfl, rfl⟩
    | _ => cases moved
  | _ => cases moved

/-! Where something may be closed, any other token is taken as usual. -/

theorem advance_firstName (closes : t ≠ .objectClose) :
    advance ⟨d, .firstName⟩ t = takeName d t := by
  cases t <;> first | rfl | exact absurd rfl closes

theorem advance_nextName (closes : t ≠ .objectClose) :
    advance ⟨d, .nextName⟩ t = takeName d t := by
  cases t <;> first | rfl | exact absurd rfl closes

theorem advance_firstElement (closes : t ≠ .listClose) :
    advance ⟨d, .firstElement⟩ t = takeValue d .included true t := by
  cases t <;> first | rfl | exact absurd rfl closes

theorem advance_nextElement (closes : t ≠ .listClose) :
    advance ⟨d, .nextElement f⟩ t = takeValue d f true t := by
  cases t <;> first | rfl | exact absurd rfl closes

theorem advance_firstTag (closes : t ≠ .listClose) :
    advance ⟨d, .firstTag f inArray⟩ t = takeTag d f inArray .empty t := by
  cases t <;> first | rfl | exact absurd rfl closes

theorem advance_nextTag (closes : t ≠ .listClose) :
    advance ⟨d, .nextTag f inArray tags⟩ t = takeTag d f inArray tags t := by
  cases t <;> first | rfl | exact absurd rfl closes

/-- Each token that a reader of policies takes is taken by a reader of documents. -/
theorem beside_advance (beside : Beside r.position p) (moved : r.advance t = .ok r') :
    ∃ q, p.advance builder none t = .ok q ∧ Beside r'.position q := by
  obtain ⟨d, position⟩ := r
  dsimp only at beside
  cases beside with
  | start =>
    cases t with
    | objectOpen =>
      cases moved
      exact ⟨_, rfl, .firstName⟩
    | listOpen =>
      cases moved
      exact ⟨_, rfl, .firstElement⟩
    | _ => cases moved
  | firstName =>
    by_cases closes : t = .objectClose
    · subst closes
      cases moved
      exact ⟨_, rfl, .done⟩
    · rw [advance_firstName closes] at moved
      obtain ⟨name, f, rfl, position⟩ := takeName_eq_ok moved
      rw [position]
      exact ⟨_, rfl, .afterName⟩
  | afterName =>
    cases t with
    | colon =>
      cases moved
      exact ⟨_, rfl, .value⟩
    | _ => cases moved
  | value => exact beside_takeValue .object moved
  | afterMember =>
    cases t with
    | objectClose =>
      cases moved
      exact ⟨_, rfl, .done⟩
    | comma =>
      cases moved
      exact ⟨_, rfl, .nextName⟩
    | _ => cases moved
  | nextName =>
    by_cases closes : t = .objectClose
    · subst closes
      cases moved
    · rw [advance_nextName closes] at moved
      obtain ⟨name, f, rfl, position⟩ := takeName_eq_ok moved
      rw [position]
      exact ⟨_, rfl, .afterName⟩
  | firstElement =>
    by_cases closes : t = .listClose
    · subst closes
      cases moved
      exact ⟨_, rfl, .done⟩
    · rw [advance_firstElement closes] at moved
      rw [Json.Position.advance_firstItem _ _ _ closes]
      exact beside_takeValue .list moved
  | @afterElement next =>
    cases t with
    | listClose =>
      cases moved
      exact ⟨_, rfl, .done⟩
    | comma =>
      cases next with
      | some f =>
        cases moved
        exact ⟨_, rfl, .nextElement⟩
      | none =>
        cases moved
        exact ⟨_, rfl, .pastElements⟩
    | _ => cases next <;> cases moved
  | nextElement =>
    by_cases closes : t = .listClose
    · subst closes
      cases moved
    · rw [advance_nextElement closes] at moved
      rw [Json.Position.advance_nextItem _ _ _ _ closes]
      exact beside_takeValue .list moved
  | pastElements => cases t <;> cases moved
  | firstTag within =>
    by_cases closes : t = .listClose
    · subst closes
      cases moved
      exact ⟨_, rfl, beside_finish within _ _⟩
    · rw [advance_firstTag closes] at moved
      obtain ⟨tag, rfl, position⟩ := takeTag_eq_ok moved
      rw [position]
      exact ⟨_, rfl, .afterTag within⟩
  | afterTag within =>
    cases t with
    | listClose =>
      cases moved
      exact ⟨_, rfl, beside_finish within _ _⟩
    | comma =>
      cases moved
      exact ⟨_, rfl, .nextTag within⟩
    | _ => cases moved
  | nextTag within =>
    by_cases closes : t = .listClose
    · subst closes
      cases moved
    · rw [advance_nextTag closes] at moved
      obtain ⟨tag, rfl, position⟩ := takeTag_eq_ok moved
      rw [position]
      exact ⟨_, rfl, .afterTag within⟩
  | done => cases moved

/-! ## Runs -/

theorem beside_run (beside : Beside r.position p) (ran : r.run ts = .ok r') :
    ∃ q, Json.run builder none p ts = .ok q ∧ Beside r'.position q := by
  induction ts generalizing r p with
  | nil =>
    cases ran
    exact ⟨p, rfl, beside⟩
  | cons t rest ih =>
    rw [run] at ran
    cases moved : r.advance t with
    | error e =>
      rw [moved] at ran
      cases ran
    | ok next =>
      rw [moved] at ran
      obtain ⟨p', taken, beside⟩ := beside_advance beside moved
      rw [Json.run, taken]
      exact ih beside ran

theorem result_eq_ok {policy : Policy} (ended : r.result = .ok policy) :
    r.position = .done ∧ policy = r.draft.finish := by
  obtain ⟨d, position⟩ := r
  cases position with
  | done =>
    cases ended
    exact ⟨rfl, rfl⟩
  | _ => cases ended

end Reader

/-- What is read comes from a run that ended. -/
theorem read_eq_ok {text : String} {p : Policy} (accepted : read text = .ok p) :
    ∃ r : Reader, Reader.run ⟨{}, .start⟩ (Json.scan text) = .ok r ∧ r.position = .done ∧
      p = r.draft.finish := by
  rw [read] at accepted
  cases ran : Reader.run ⟨{}, .start⟩ (Json.scan text) with
  | error e =>
    rw [ran] at accepted
    cases accepted
  | ok r =>
    rw [ran] at accepted
    exact ⟨r, rfl, Reader.result_eq_ok accepted⟩

/-- **A text that is accepted as a policy is a document.** -/
theorem document_of_read {text : String} {p : Policy} (accepted : read text = .ok p) :
    ∃ j, Json.read text = .ok j := by
  obtain ⟨r, ran, ended, -⟩ := read_eq_ok accepted
  obtain ⟨q, taken, beside⟩ := Reader.beside_run .start ran
  rw [ended] at beside
  cases beside with
  | @done j => exact ⟨j, Json.readWith_eq_ok.mpr taken⟩

end Policy

end JsonMarkup
