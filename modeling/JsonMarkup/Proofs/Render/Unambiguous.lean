import JsonMarkup.Proofs.Node.Decoding
import JsonMarkup.Proofs.Render.Admission

/-!
# The markup of renderings is unambiguous

**Theorem (`normal_eq_of_markup_eq`).** Markup says what the nodes say, no more and no less: it
decodes to their normal form, so nodes with the same markup have the same normal form. This holds of
all nodes whose names can be written as they are, and of everything that is rendered.

What is rendered has such names because only admissible elements are (`Rendered.sound`). No text, no
attribute, no style and no message is looked at: escaping sees to them.
-/

namespace JsonMarkup.Render

variable {policy : Policy}

mutual

/-- The names of sound nodes can be written as they are. -/
theorem wellNamed_of_soundAt {k : Nat} : ∀ {n : Node}, SoundAt policy k n → n.WellNamed
  | .text _, _ | .error _, _ => trivial
  | .element tag attributes style children, h => by
    have here : Admissible policy (k + 0) tag attributes := h 0 tag attributes .here
    refine ⟨here.named, fun name hname => (here.attributes name hname).1,
      allWellNamed_of_soundAt (k := k + 1) fun n hn j t as hs => ?_⟩
    rw [Nat.add_right_comm]
    exact h (j + 1) t as (.within hn hs)
termination_by structural n => n

theorem allWellNamed_of_soundAt {k : Nat} : ∀ {nodes : List Node},
    (∀ n ∈ nodes, SoundAt policy k n) → AllWellNamed nodes
  | [], _ => trivial
  | _ :: _, h => ⟨wellNamed_of_soundAt (h _ List.mem_cons_self),
    allWellNamed_of_soundAt fun n hn => h n (List.mem_cons_of_mem _ hn)⟩
termination_by structural nodes => nodes

end

/-- What is rendered has names that can be written as they are. -/
theorem allWellNamed_of_rendered {source : Source} {nodes : List Node}
    (h : ∀ n ∈ nodes, Rendered policy source n) : AllWellNamed nodes :=
  allWellNamed_of_soundAt fun n hn => (h n hn).sound

/-- **Markup is unambiguous.** The markup of well-named nodes decodes to their normal form, so
well-named nodes with the same markup have the same normal form. Whatever has been rendered of a
document at any moment is well-named, and so is all of it. -/
theorem normal_eq_of_markup_eq :
    (∀ nodes, AllWellNamed nodes →
      decode (String.join (Node.toHtmlAll nodes)) = some (normal nodes)) ∧
    (∀ a b, AllWellNamed a → AllWellNamed b →
      String.join (Node.toHtmlAll a) = String.join (Node.toHtmlAll b) → normal a = normal b) ∧
    ∀ policy source, (∀ moves, AllWellNamed (course policy source moves).nodes) ∧
      AllWellNamed (renderNodes policy source) ∧
      decode (renderHtml policy source) = some (normal (renderNodes policy source)) := by
  refine ⟨fun nodes h => decode_toHtmlAll h, fun a b ha hb same => ?_, fun policy source => ?_⟩
  · have decoded := decode_toHtmlAll ha
    rw [same, decode_toHtmlAll hb] at decoded
    exact (Option.some.inj decoded).symm
  · have collected : AllWellNamed (renderNodes policy source) :=
      allWellNamed_of_rendered fun n hn => .inr hn
    exact ⟨fun moves => allWellNamed_of_rendered fun n hn => .inl ⟨moves, hn⟩, collected,
      decode_toHtmlAll collected⟩

/-- A text that looks like markup, in two pieces, beside a child that is never written. -/
def splitText : List Node :=
  [.element "p" (Fields.empty.set "title" "\"/>") .empty [.text "</p", .text ">"],
    .element "BR" .empty .empty [.text "lost"], .error ""]

/-- The same in one piece, and without the child. -/
def joinedText : List Node :=
  [.element "p" (Fields.empty.set "title" "\"/>") .empty [.text "</p>"],
    .element "BR" .empty .empty [], .error ""]

/-- They have the same markup, and therefore the same normal form. -/
theorem normal_splitText : AllWellNamed splitText ∧ AllWellNamed joinedText ∧
    String.join (Node.toHtmlAll splitText) = String.join (Node.toHtmlAll joinedText) ∧
    normal splitText = normal joinedText := by
  have named : ∀ children, AllWellNamed children →
      (Node.element "p" (Fields.empty.set "title" "\"/>") .empty children).WellNamed := by
    intro children h
    refine ⟨by decide, fun name hname => ?_, h⟩
    rw [List.mem_singleton.mp hname]
    decide
  have void : ∀ children, AllWellNamed children →
      (Node.element "BR" .empty .empty children).WellNamed :=
    fun children h => ⟨by decide, nofun, h⟩
  have split : AllWellNamed splitText :=
    ⟨named _ ⟨trivial, trivial, trivial⟩, void _ ⟨trivial, trivial⟩, trivial, trivial⟩
  have joined : AllWellNamed joinedText :=
    ⟨named _ ⟨trivial, trivial⟩, void _ trivial, trivial, trivial⟩
  have same : String.join (Node.toHtmlAll splitText) = String.join (Node.toHtmlAll joinedText) := by
    decide +kernel
  exact ⟨split, joined, same, normal_eq_of_markup_eq.2.1 _ _ split joined same⟩

end JsonMarkup.Render
