import JsonMarkup.Proofs.Render.Admission

/-!
# Spellings of excluded tags

Readers of markup do not tell the small and capital ASCII letters of a tag apart, and neither does
`Html.isVoid`. A policy does: it keeps out the spellings that it lists.

**Theorem (`excluded_in_all_spellings_iff`).** A policy keeps excluded tags out in every spelling
exactly if it lists, or omits, every spelling that can be written.
-/

namespace JsonMarkup

/-- The tags differ in the case of ASCII letters at most. -/
def SameTag (s t : String) : Prop := s.toLower = t.toLower

namespace Policy

variable {policy : Policy} {tag : String}

/-- At the top a tag is let through unless the lists keep it out. -/
theorem check_top : policy.check tag 0 = .ok () ↔
    policy.excludes tag = false ∧ policy.omits tag = false := by
  rw [check]
  cases policy.excludes tag <;> cases policy.omits tag <;> cases policy.maxDepth <;> simp

/-- What is let through anywhere is let through at the top. -/
theorem check_top_of_check {depth : Nat} (h : policy.check tag depth = .ok ()) :
    policy.check tag 0 = .ok () := by
  obtain ⟨excluded, included, -⟩ := check_eq_ok_iff.mp h
  exact check_eq_ok_iff.mpr ⟨excluded, included, fun maxDepth _ => Nat.zero_le maxDepth⟩

end Policy

namespace Render

/-- A tag that can be written and is let through at the top is rendered. -/
theorem rendered_emptyTag {policy : Policy} {tag : String} (allowed : policy.check tag 0 = .ok ())
    (named : Text.isName tag = true) :
    Rendered policy (.mapping [(tag, .text "")]) (.element tag .empty .empty []) := by
  have noGates : NoGates ((Source.mapping [(tag, .text "")]).mentions ·) := fun _ => rfl
  refine .inr ?_
  rw [renderNodes_eq_fragment noGates]
  show _ ∈ [admitted policy 0 tag _]
  rw [admitted, allowed, named]
  exact List.mem_singleton.mpr rfl

/-- **Exclusion and spelling.** No rendering under a policy holds an element whose tag is an
excluded one but for the case of ASCII letters, exactly if each spelling of an excluded tag that can
be written is itself excluded or left out of the include list. -/
theorem excluded_in_all_spellings_iff (policy : Policy) :
    (∀ (source : Source) (n : Node), Rendered policy source n →
      ∀ (k : Nat) (tag : String) (attributes : Fields String), Stands tag attributes k n →
      ∀ t, policy.excludes t = true → ¬ SameTag tag t) ↔
    ∀ tag t, Text.isName tag = true → policy.excludes t = true → SameTag tag t →
      policy.excludes tag = true ∨ policy.omits tag = true := by
  constructor
  · intro out tag t named excluded same
    by_contra passes
    rw [not_or, Bool.not_eq_true, Bool.not_eq_true] at passes
    have rendered := rendered_emptyTag (Policy.check_top.mpr passes) named
    exact out _ _ rendered 0 tag _ .here t excluded same
  · intro closed source n rendered k tag attributes stands t excluded same
    have admissible := rendered.sound k tag attributes stands
    have passes := Policy.check_top.mp (Policy.check_top_of_check admissible.allowed)
    rcases closed tag t admissible.named excluded same with excluded | omitted
    · rw [passes.1] at excluded
      cases excluded
    · rw [passes.2] at omitted
      cases omitted

/-- An excluded tag in capital letters. -/
def loudScript : Source := .mapping [("SCRIPT", .text "run()")]

/-- A policy that lists only the small letters lets the capital ones through. -/
theorem rendered_loudScript :
    let policy := Policy.standard.excluding ["script"]
    let node := Node.element "SCRIPT" .empty .empty [.text "run()"]
    Rendered policy loudScript node ∧ Stands "SCRIPT" .empty 0 node ∧
      policy.excludes "script" = true ∧ SameTag "SCRIPT" "script" ∧
      renderHtml policy loudScript = "<SCRIPT>run()</SCRIPT>" := by
  intro policy node
  have noGates : NoGates (loudScript.mentions ·) := fun _ => rfl
  have nodes : renderNodes policy loudScript = [node] := by
    rw [renderNodes_eq_fragment noGates]
    rfl
  have same : SameTag "SCRIPT" "script" := by
    have lowered : "SCRIPT".toList.map Char.toLower = "script".toList.map Char.toLower := by decide
    show "SCRIPT".map Char.toLower = "script".map Char.toLower
    rw [← String.toList_inj, String.toList_map, String.toList_map, lowered]
  refine ⟨.inr ?_, .here, rfl, same, ?_⟩
  · rw [nodes]
    exact List.mem_singleton.mpr rfl
  · rw [renderHtml, nodes]
    decide +kernel

end Render

end JsonMarkup
