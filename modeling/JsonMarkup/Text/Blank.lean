/-!
# Blanks

The characters with the property White_Space, and the removal of blanks at both ends of a text. A
zero-width space is not a blank.
-/

namespace JsonMarkup.Text

def isBlank (c : Char) : Bool :=
  let n := c.toNat
  (0x09 ≤ n && n ≤ 0x0D) || n == 0x20 || n == 0x85 || n == 0xA0 || n == 0x1680 ||
    (0x2000 ≤ n && n ≤ 0x200A) || n == 0x2028 || n == 0x2029 || n == 0x202F || n == 0x205F ||
    n == 0x3000

/-- Remove the longest tail whose characters all satisfy `p`. -/
def dropTailWhile (p : Char → Bool) (cs : List Char) : List Char :=
  (cs.reverse.dropWhile p).reverse

def trim (cs : List Char) : List Char := dropTailWhile isBlank (cs.dropWhile isBlank)

/-- Nothing is lost but a tail whose characters all satisfy `p`. -/
theorem dropTailWhile_append (p : Char → Bool) (cs : List Char) :
    ∃ tail, cs = dropTailWhile p cs ++ tail ∧ ∀ c ∈ tail, p c = true := by
  refine ⟨(cs.reverse.takeWhile p).reverse, ?_, fun c hc => ?_⟩
  · rw [dropTailWhile, ← List.reverse_append, List.takeWhile_append_dropWhile,
      List.reverse_reverse]
  · have hall := List.all_takeWhile (p := p) (l := cs.reverse)
    exact List.all_eq_true.mp hall c (List.mem_reverse.mp hc)

end JsonMarkup.Text
