import JsonMarkup.Node.Diagnostic
import JsonMarkup.Proofs.Render.Plain
import JsonMarkup.Render.Course

/-!
# Failures that are shown

Markup shows an error node in the place where it stands. A void element is written without its
children, so an error node that stands within one is reported as a diagnostic and shown nowhere.

**Pieces** (`Node.pieces`). Markup is put together from pieces: the boxes in which error nodes are
shown, and whatever stands between them.

**Main statements.** The boxes in the markup of nodes carry the messages of the diagnostics that
stand in no void element, in order (`boxes_eq_shown`). So all failures of a rendering are shown, in
the markup of the whole document and in that of the nodes that a course has yielded so far, exactly
where none of them lies within a void element (`failures_shown_iff`).
-/

namespace JsonMarkup

/-! ## Messages -/

namespace Node

/-- The messages of the error nodes at and below a node, in document order. -/
def messages (n : Node) : List String := n.diagnostics.map (·.message)

/-- The messages of the error nodes at and below several siblings, in document order. -/
def messagesAll (ns : List Node) : List String := ns.flatMap messages

mutual

/-- Messages do not depend on where a node stands. -/
theorem messages_diagnosticsIn (ancestors : List String) : ∀ n : Node,
    (n.diagnosticsIn ancestors).map (·.message) = n.messages
  | .text _ => rfl
  | .error _ => rfl
  | .element tag _ _ children =>
    (messages_diagnosticsInAll (ancestors ++ [tag]) children).trans
      (messages_diagnosticsInAll ([] ++ [tag]) children).symm

theorem messages_diagnosticsInAll (ancestors : List String) : ∀ ns : List Node,
    (diagnosticsInAll ancestors ns).map (·.message) = messagesAll ns
  | [] => rfl
  | n :: rest => by
    rw [diagnosticsInAll, List.map_append, messages_diagnosticsIn ancestors n,
      messages_diagnosticsInAll ancestors rest]
    rfl

end

@[simp]
theorem messages_text (content : String) : (Node.text content).messages = [] := rfl

@[simp]
theorem messages_element (tag : String) (attributes : Fields String) (style : Style)
    (children : List Node) :
    (Node.element tag attributes style children).messages = messagesAll children :=
  messages_diagnosticsInAll ([] ++ [tag]) children

theorem messagesAll_append (ns ms : List Node) :
    messagesAll (ns ++ ms) = messagesAll ns ++ messagesAll ms := List.flatMap_append

theorem messagesAll_eq (ns : List Node) :
    messagesAll ns = (ns.flatMap diagnostics).map (·.message) := List.map_flatMap.symm

end Node

/-! ## Pieces of markup -/

namespace Html

/-- A piece of markup. -/
inductive Piece where
  | plain (markup : String)
  /-- The box that an error node is shown in. -/
  | box (message : String)

def Piece.html : Piece → String
  | .plain markup => markup
  | .box message => (Node.error message).toHtml

def Piece.message? : Piece → Option String
  | .plain _ => none
  | .box message => some message

/-- The messages in the boxes among pieces, from left to right. -/
def boxes (ps : List Piece) : List String := ps.filterMap Piece.message?

theorem boxes_append (ps qs : List Piece) : boxes (ps ++ qs) = boxes ps ++ boxes qs :=
  List.filterMap_append

end Html

open Html

namespace Node

mutual

/-- The pieces that the markup of a node is put together from. -/
def pieces : Node → List Piece
  | .text content => [.plain (escape content)]
  | .error message => [.box message]
  | .element tag attributes style children =>
    if isVoid tag then [.plain (startTag tag attributes style)]
    else
      .plain (startTag tag attributes style) :: piecesAll children ++ [.plain ("</" ++ tag ++ ">")]

/-- The pieces that the markup of several siblings is put together from. -/
def piecesAll : List Node → List Piece
  | [] => []
  | n :: rest => n.pieces ++ piecesAll rest

end

mutual

/-- The pieces make up the markup. -/
theorem join_pieces : ∀ n : Node, String.join (n.pieces.map Piece.html) = n.toHtml
  | .text _ => by simp [pieces, Piece.html, toHtml]
  | .error _ => by simp [pieces, Piece.html]
  | .element tag attributes style children => by
    rw [pieces, toHtml]
    split
    · simp [Piece.html]
    · rw [List.cons_append, List.map_cons, String.join_cons, List.map_append, String.join_append,
        join_piecesAll children]
      simp [Piece.html, String.append_assoc]

theorem join_piecesAll : ∀ ns : List Node,
    String.join ((piecesAll ns).map Piece.html) = String.join (toHtmlAll ns)
  | [] => rfl
  | n :: rest => by
    rw [piecesAll, toHtmlAll, List.map_append, String.join_append, join_pieces n,
      join_piecesAll rest, String.join_cons]

end

end Node

/-! ## What is shown -/

/-- A diagnostic is shown in markup: it stands within no void element. -/
def Diagnostic.isShown (d : Diagnostic) : Bool := d.ancestors.all fun tag => !isVoid tag

/-- The messages of the diagnostics that are shown. -/
def shown (ds : List Diagnostic) : List String := (ds.filter Diagnostic.isShown).map (·.message)

theorem shown_append (ds es : List Diagnostic) : shown (ds ++ es) = shown ds ++ shown es := by
  rw [shown, List.filter_append, List.map_append]
  rfl

namespace Node

mutual

theorem ancestors_prefix {ancestors : List String} {d : Diagnostic} : ∀ {n : Node},
    d ∈ n.diagnosticsIn ancestors → ancestors <+: d.ancestors
  | .text _, h => nomatch h
  | .error message, h => by
    obtain rfl : d = ⟨ancestors, message⟩ := List.mem_singleton.mp h
    exact List.prefix_rfl
  | .element tag _ _ _, h =>
    (List.prefix_append ancestors [tag]).trans (ancestors_prefixAll h)

theorem ancestors_prefixAll {ancestors : List String} {d : Diagnostic} : ∀ {ns : List Node},
    d ∈ diagnosticsInAll ancestors ns → ancestors <+: d.ancestors
  | [], h => nomatch h
  | _ :: _, h => (List.mem_append.mp h).elim ancestors_prefix ancestors_prefixAll

end

/-- Nothing within a void element is shown. -/
theorem shown_eq_nil {ancestors : List String} {tag : String} (h : isVoid tag = true)
    (ns : List Node) : shown (diagnosticsInAll (ancestors ++ [tag]) ns) = [] := by
  refine List.map_eq_nil_iff.mpr (List.filter_eq_nil_iff.mpr fun d hd shows => ?_)
  have inside : tag ∈ d.ancestors := (ancestors_prefixAll hd).subset (by simp)
  have notVoid := List.all_eq_true.mp shows tag inside
  simp [h] at notVoid

mutual

/-- The boxes of a node that stands in no void element are the diagnostics that are shown. -/
theorem boxes_pieces {ancestors : List String} (out : ancestors.all (fun tag => !isVoid tag)) :
    ∀ n : Node, boxes n.pieces = shown (n.diagnosticsIn ancestors)
  | .text _ => rfl
  | .error message => by
    have shows : (⟨ancestors, message⟩ : Diagnostic).isShown = true := out
    rw [shown, diagnosticsIn, List.filter_cons_of_pos shows]
    rfl
  | .element tag attributes style children => by
    rw [pieces, diagnosticsIn]
    split
    · rename_i h
      exact (shown_eq_nil h children).symm
    · rename_i h
      have further : (ancestors ++ [tag]).all fun tag => !isVoid tag := by
        rw [List.all_append, out]
        simp [h]
      rw [← boxes_piecesAll further children, List.cons_append]
      show boxes (piecesAll children ++ [.plain ("</" ++ tag ++ ">")]) = _
      rw [boxes_append]
      exact List.append_nil _

theorem boxes_piecesAll {ancestors : List String} (out : ancestors.all (fun tag => !isVoid tag)) :
    ∀ ns : List Node, boxes (piecesAll ns) = shown (diagnosticsInAll ancestors ns)
  | [] => rfl
  | n :: rest => by
    rw [piecesAll, diagnosticsInAll, boxes_append, shown_append, boxes_pieces out n,
      boxes_piecesAll out rest]

end

theorem diagnosticsInAll_nil (ns : List Node) :
    diagnosticsInAll [] ns = ns.flatMap diagnostics := by
  induction ns with
  | nil => rfl
  | cons n rest ih => rw [diagnosticsInAll, ih]; rfl

/-- **The boxes in markup** are the diagnostics that stand in no void element, in order. -/
theorem boxes_eq_shown (ns : List Node) :
    boxes (piecesAll ns) = shown (ns.flatMap diagnostics) :=
  (boxes_piecesAll rfl ns).trans (congrArg shown (diagnosticsInAll_nil ns))

end Node

/-- All messages are shown exactly if every diagnostic is. -/
theorem shown_eq_messages_iff (ds : List Diagnostic) :
    shown ds = ds.map (·.message) ↔ ∀ d ∈ ds, d.isShown = true := by
  constructor
  · intro h
    have lengths := congrArg List.length h
    rw [shown, List.length_map, List.length_map] at lengths
    exact List.length_filter_eq_length_iff.mp lengths
  · intro h
    rw [shown, List.filter_eq_self.mpr h]

namespace Render

open Node

/-- The boxes carry the messages of all diagnostics exactly if none of these stands within a void
element. -/
theorem boxes_eq_messages_iff (nodes : List Node) :
    boxes (piecesAll nodes) = (nodes.flatMap diagnostics).map (·.message) ↔
      ∀ d ∈ nodes.flatMap diagnostics, ∀ tag ∈ d.ancestors, isVoid tag = false := by
  rw [boxes_eq_shown, shown_eq_messages_iff]
  simp [Diagnostic.isShown]

/-- **Where no failure is lost.** The markup of a rendering is put together from pieces, and the
boxes among these carry the messages of all diagnostics of the nodes, in order, exactly if none of
the diagnostics stands within a void element. This holds of a document that is rendered at once, and
in the course of a rendering at every moment, so also when it has ended. -/
theorem failures_shown_iff (policy : Policy) (source : Source) :
    (let nodes := renderNodes policy source
    renderHtml policy source = String.join ((piecesAll nodes).map Piece.html) ∧
      (boxes (piecesAll nodes) = (nodes.flatMap diagnostics).map (·.message) ↔
        ∀ d ∈ nodes.flatMap diagnostics, ∀ tag ∈ d.ancestors, isVoid tag = false)) ∧
    ∀ moves : List Move,
      let nodes := (course policy source moves).nodes
      String.join (toHtmlAll nodes) = String.join ((piecesAll nodes).map Piece.html) ∧
        (boxes (piecesAll nodes) = (nodes.flatMap diagnostics).map (·.message) ↔
          ∀ d ∈ nodes.flatMap diagnostics, ∀ tag ∈ d.ancestors, isVoid tag = false) :=
  ⟨⟨(join_piecesAll _).symm, boxes_eq_messages_iff _⟩,
    fun _ => ⟨(join_piecesAll _).symm, boxes_eq_messages_iff _⟩⟩

/-- A line break with an excluded tag in it. -/
def scriptInBreak : Source := .mapping [("br", .mapping [("script", .text "run()")])]

/-- The failure in a line break is a diagnostic, and the markup does not show it. -/
theorem scriptInBreak_lost :
    let policy := Policy.standard.excluding ["script"]
    let nodes := renderNodes policy scriptInBreak
    nodes.flatMap diagnostics =
        [⟨["br"], "Tag 'script' is not allowed (via exclude list)"⟩] ∧
      renderHtml policy scriptInBreak = "<br>" ∧
      boxes (piecesAll nodes) ≠ (nodes.flatMap diagnostics).map (·.message) := by
  intro policy nodes
  have noGates : NoGates (scriptInBreak.mentions ·) := fun _ => rfl
  have rendered : nodes = [.element "br" .empty .empty
      [.error "Tag 'script' is not allowed (via exclude list)"]] := by
    show renderNodes policy scriptInBreak = _
    rw [renderNodes_eq_fragment noGates]
    rfl
  have markup : renderHtml policy scriptInBreak = String.join (toHtmlAll nodes) := rfl
  rw [markup, rendered]
  exact ⟨rfl, by decide +kernel, by decide +kernel⟩

end Render

end JsonMarkup
