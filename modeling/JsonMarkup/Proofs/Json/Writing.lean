import JsonMarkup.Json.Writer
import JsonMarkup.Proofs.Json.Written

/-!
# What is written by the two layouts

Both layouts write the tokens of a tree: they differ in the blanks between them. A string is written
with few escapes, and a number must be an integer that is kept exactly.

**Theorems.** `written_compact` and `written_prettyAt`, and from them `read_compact` and
`read_pretty`: reading undoes writing.
-/

namespace JsonMarkup.Json

mutual

/-- All numbers in the tree are integers that are kept exactly. -/
def Exact : Json → Prop
  | .number (.integer n) => Number.least ≤ n ∧ n < Number.bound
  | .number (.double _) => False
  | .array items => ItemsExact items
  | .object members => MembersExact members
  | _ => True

def ItemsExact : List Json → Prop
  | [] => True
  | j :: rest => j.Exact ∧ ItemsExact rest

/-- All numbers in the values of members are integers that are kept exactly. -/
def MembersExact : List (String × Json) → Prop
  | [] => True
  | (_, j) :: rest => j.Exact ∧ MembersExact rest

end

/-! ## Strings -/

theorem hexDigit_hexChar {n : Nat} (small : n < 16) : HexDigit n (hexChar n) := by
  interval_cases n <;> exact .inl rfl

theorem charWord_escapeChar (c : Char) : CharWord c (escapeChar c) := by
  unfold escapeChar
  split_ifs with isQuote isEscape isBackspace isTab isLine isForm isReturn isControl
  · subst isQuote
    exact .short (by decide)
  · subst isEscape
    exact .short (by decide)
  · subst isBackspace
    exact .short (by decide)
  · subst isTab
    exact .short (by decide)
  · subst isLine
    exact .short (by decide)
  · subst isForm
    exact .short (by decide)
  · subst isReturn
    exact .short (by decide)
  · have zero : HexDigit 0 '0' := .inl rfl
    have quad := HexQuad.digits zero zero (hexDigit_hexChar (show c.toNat / 16 < 16 by omega))
      (hexDigit_hexChar (Nat.mod_lt c.toNat (by decide)))
    have value : ((0 * 16 + 0) * 16 + c.toNat / 16) * 16 + c.toNat % 16 = c.toNat := by omega
    rw [value] at quad
    exact .code quad
  · exact .itself isQuote isEscape (Nat.not_lt.mp isControl)

theorem stringWord_escaped (cs : List Char) : StringWord cs (cs.flatMap escapeChar) := by
  induction cs with
  | nil => exact .nil
  | cons c cs ih => exact .cons (charWord_escapeChar c) ih

theorem word_quote (s : String) : Word (.scalar (.string s)) (quote s).toList := by
  have content := Word.string (stringWord_escaped s.toList)
  simp only [quote, String.toList_append, String.toList_ofList]
  exact content

/-! ## Sequences of tokens -/

theorem Written.append {ts us : List Token} {a b : List Char} (first : Written ts a)
    (second : Written us b) : Written (ts ++ us) (a ++ b) := by
  induction first with
  | blanks blank =>
    cases second with
    | blanks blank' => exact .blanks (List.forall_mem_append.mpr ⟨blank, blank'⟩)
    | word blank' word others =>
      rw [← List.append_assoc]
      exact .word (List.forall_mem_append.mpr ⟨blank, blank'⟩) word others
  | word blank word _ ih =>
    rw [List.append_assoc, List.append_assoc]
    exact .word blank word ih

theorem written_nil : Written [] [] := .blanks (List.forall_mem_nil _)

theorem Word.written {t : Token} {word : List Char} (h : Word t word) : Written [t] word := by
  have alone := Written.word (List.forall_mem_nil _) h written_nil
  rw [List.nil_append, List.append_nil] at alone
  exact alone

/-- Pieces with commas between them are written when each of them is. -/
theorem written_intercalate {comma : String} (separator : Written [.comma] comma.toList)
    {tss : List (List Token)} {pieces : List String}
    (each : List.Forall₂ (fun ts piece => Written ts piece.toList) tss pieces) :
    Written ([.comma].intercalate tss) (comma.intercalate pieces).toList := by
  rw [String.toList_intercalate]
  induction each with
  | nil => exact written_nil
  | cons first others ih =>
    cases others with
    | nil =>
      rw [List.map_cons, List.map_nil, List.intercalate_singleton, List.intercalate_singleton]
      exact first
    | cons second others =>
      rw [List.map_cons, List.map_cons, List.intercalate_cons_cons, List.intercalate_cons_cons]
      exact (first.append separator).append ih

/-! ## Without blanks -/

theorem written_comma : Written [.comma] ",".toList := Word.comma.written

theorem word_integer {n : Int} (exact : (Json.number (.integer n)).Exact) :
    Word (.scalar (.number (.integer n))) (Number.integer n).text.toList :=
  .integer exact.1 exact.2

mutual

theorem written_compact {j : Json} (exact : j.Exact) : Written j.tokens j.compact.toList := by
  cases j with
  | null => exact Word.null.written
  | boolean b =>
    cases b with
    | true => exact Word.isTrue.written
    | false => exact Word.isFalse.written
  | number n =>
    cases n with
    | integer n => exact (word_integer exact).written
    | double x => exact absurd exact not_false
  | string s => exact (word_quote s).written
  | array items =>
    rw [tokens, compact, String.toList_append, String.toList_append]
    have inner := written_intercalate written_comma (written_compactItems exact)
    exact (Word.listOpen.written.append inner).append Word.listClose.written
  | object members =>
    rw [tokens, compact, String.toList_append, String.toList_append]
    have inner := written_intercalate written_comma (written_compactMembers exact)
    exact (Word.objectOpen.written.append inner).append Word.objectClose.written

theorem written_compactItems {items : List Json} (exact : ItemsExact items) :
    List.Forall₂ (fun ts piece => Written ts piece.toList) (itemTokens items)
      (compactItems items) := by
  cases items with
  | nil => exact .nil
  | cons j rest => exact .cons (written_compact exact.1) (written_compactItems exact.2)

theorem written_compactMembers {members : List (String × Json)} (exact : MembersExact members) :
    List.Forall₂ (fun ts piece => Written ts piece.toList) (memberTokens members)
      (compactMembers members) := by
  cases members with
  | nil => exact .nil
  | cons e rest =>
    refine .cons ?_ (written_compactMembers exact.2)
    rw [String.toList_append, String.toList_append]
    exact ((word_quote e.1).written.append Word.colon.written).append (written_compact exact.1)

end

/-! ## On indented lines -/

theorem blank_lineBreak (level : Nat) : Blank (lineBreak level).toList := by
  intro c mem
  simp only [lineBreak, String.toList_append, String.toList_ofList] at mem
  rcases List.mem_append.mp mem with line | spaces
  · exact .inr (.inl (List.mem_singleton.mp line))
  · exact .inl (List.eq_of_mem_replicate spaces)

theorem written_block {level : Nat} {opening closing : String} {before after : Token}
    (opens : Written [before] opening.toList) (closes : Written [after] closing.toList)
    {tss : List (List Token)} {pieces : List String}
    (each : List.Forall₂ (fun ts piece => Written ts piece.toList) tss pieces) :
    Written (before :: ([.comma].intercalate tss ++ [after]))
      (block level opening closing pieces).toList := by
  have broken : ∀ level, Written [] (lineBreak level).toList := fun level =>
    .blanks (blank_lineBreak level)
  unfold block
  split_ifs with empty
  · rw [List.isEmpty_iff] at empty
    subst empty
    cases each
    rw [String.toList_append]
    exact opens.append closes
  · have comma : Written [.comma] ("," ++ lineBreak (level + 1)).toList := by
      rw [String.toList_append]
      exact Word.comma.written.append (broken _)
    have inner := written_intercalate comma each
    have opened := (opens.append (broken (level + 1))).append inner
    have closed := (opened.append (broken level)).append closes
    rw [List.append_nil, List.append_nil] at closed
    simp only [String.toList_append]
    exact closed

mutual

theorem written_prettyAt {j : Json} (exact : j.Exact) (level : Nat) :
    Written j.tokens (prettyAt level j).toList := by
  cases j with
  | null => exact Word.null.written
  | boolean b =>
    cases b with
    | true => exact Word.isTrue.written
    | false => exact Word.isFalse.written
  | number n =>
    cases n with
    | integer n => exact (word_integer exact).written
    | double x => exact absurd exact not_false
  | string s => exact (word_quote s).written
  | array items =>
    rw [tokens, prettyAt]
    exact written_block Word.listOpen.written Word.listClose.written
      (written_prettyItems exact (level + 1))
  | object members =>
    rw [tokens, prettyAt]
    exact written_block Word.objectOpen.written Word.objectClose.written
      (written_prettyMembers exact (level + 1))

theorem written_prettyItems {items : List Json} (exact : ItemsExact items) (level : Nat) :
    List.Forall₂ (fun ts piece => Written ts piece.toList) (itemTokens items)
      (prettyItems level items) := by
  cases items with
  | nil => exact .nil
  | cons j rest => exact .cons (written_prettyAt exact.1 level) (written_prettyItems exact.2 level)

theorem written_prettyMembers {members : List (String × Json)} (exact : MembersExact members)
    (level : Nat) :
    List.Forall₂ (fun ts piece => Written ts piece.toList) (memberTokens members)
      (prettyMembers level members) := by
  cases members with
  | nil => exact .nil
  | cons e rest =>
    have space : Written [] " ".toList :=
      .blanks fun c mem => .inl (List.mem_singleton.mp mem)
    refine .cons ?_ (written_prettyMembers exact.2 level)
    rw [String.toList_append, String.toList_append]
    exact ((word_quote e.1).written.append (Word.colon.written.append space)).append
      (written_prettyAt exact.1 level)

end

/-! ## Reading undoes writing -/

theorem read_compact {j : Json} (exact : j.Exact) : read j.compact = .ok j :=
  read_written (written_compact exact)

theorem read_pretty {j : Json} (exact : j.Exact) : read j.pretty = .ok j :=
  read_written (written_prettyAt exact 0)

end JsonMarkup.Json
