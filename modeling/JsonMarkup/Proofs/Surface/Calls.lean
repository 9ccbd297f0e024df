import JsonMarkup.Proofs.Surface.Settling
import JsonMarkup.Surface.Recorder
import Mathlib.Data.List.Induction

/-!
# The calls that build nodes

Which calls build a node depends on the node alone. They can be written down before there is a
surface, with numbers for handles: whatever is created gets the next number, and number 0 is left to
a target.

**Performing calls** (`Surface.perform`). A surface performs calls on a table of the handles that it
has given out. An element becomes a node once, and a node is handed on once; after that nothing
stands under its number, and a call that names it cannot be made.

**Theorem (`built_by_calls`).** On every surface and in every state, `realize` makes the calls of
the node. A mounting makes no call as long as its rendering has not ended, and then those of the
rendered nodes and a replacement of the children of the target, which no other call names. If a call
fails, that is where it ends, with the error of that call. If none does, the handles have all been
handed on, except the one that is returned and the target.
-/

namespace JsonMarkup

open Render (Answer Course course course_polls render)

/-! ## Calls -/

mutual

/-- How many handles building a node takes. -/
def Node.handles : Node → Nat
  | .text _ | .error _ => 1
  | .element _ _ _ children => 1 + handlesOf children

/-- How many handles building nodes takes. -/
def handlesOf : List Node → Nat
  | [] => 0
  | n :: rest => n.handles + handlesOf rest

end

/-- The handle that building a node comes to, if `k` is the first number. -/
def Node.root (k : Nat) : Node → RecordedNode
  | .text _ => ⟨k, false⟩
  | _ => ⟨k, true⟩

mutual

/-- The calls that build a node, if `k` is the first number. -/
def Node.calls (k : Nat) : Node → List SurfaceCall
  | .text content => [.createTextNode content]
  | .error message =>
    .createElement Node.errorTag :: .setTextContent k message ::
      Node.errorStyle.map (fun p => .setStyleProperty k p.1 p.2) ++ [.intoNode k]
  | .element tag attributes style children =>
    .createElement tag :: attributes.toList.map (fun p => .setAttribute k p.1 p.2) ++
      style.text.toList.map (.setStyleText k) ++
      style.properties.toList.map (fun p => .setStyleProperty k p.1 p.2) ++
      childCalls k (k + 1) children ++ [.intoNode k]

/-- The calls that build children one after the other, if `k` is the first number, and put each
behind the children of an element. -/
def childCalls (parent k : Nat) : List Node → List SurfaceCall
  | [] => []
  | n :: rest =>
    n.calls k ++ .appendChild parent (n.root k) :: childCalls parent (k + n.handles) rest

end

/-- The calls that build nodes one after the other, if `k` is the first number. -/
def callsOf (k : Nat) : List Node → List SurfaceCall
  | [] => []
  | n :: rest => n.calls k ++ callsOf (k + n.handles) rest

/-- The handles that building nodes comes to, if `k` is the first number. -/
def rootsOf (k : Nat) : List Node → List RecordedNode
  | [] => []
  | n :: rest => n.root k :: rootsOf (k + n.handles) rest

/-! ## Performing calls -/

/-- What stands under a number. -/
inductive Handle (ν η : Type) where
  | element (e : η)
  | node (v : ν)
  /-- Nothing any more: it has been handed on. -/
  | spent

namespace Surface

variable {σ ν η ε : Type}

/-- Take nodes out of a table one after the other. -/
def takeNodes : List (Handle ν η) → List RecordedNode → Option (List ν × List (Handle ν η))
  | table, [] => some ([], table)
  | table, r :: rest =>
    match table[r.number]? with
    | some (.node v) =>
      match takeNodes (table.set r.number .spent) rest with
      | some (vs, table) => some (v :: vs, table)
      | none => none
    | _ => none

/-- Make a call on an element, if it stands under this number. -/
def withElement (table : List (Handle ν η)) (k : Nat) (act : η → EStateM ε σ Unit) :
    EStateM ε σ (Option (List (Handle ν η))) :=
  match table[k]? with
  | some (.element e) => do
    act e
    return some table
  | _ => return none

/-- Make a call, and say what stands under the numbers then; a call cannot be made if it names
something that is not there. -/
def perform (S : Surface σ ν η ε) (table : List (Handle ν η)) :
    SurfaceCall → EStateM ε σ (Option (List (Handle ν η)))
  | .createElement tag => do
    let e ← S.createElement tag
    return some (table ++ [.element e])
  | .createTextNode text => do
    let v ← S.createTextNode text
    return some (table ++ [.node v])
  | .setTextContent k text => withElement table k (S.setTextContent · text)
  | .setAttribute k name value => withElement table k (S.setAttribute · name value)
  | .setStyleText k css => withElement table k (S.setStyleText · css)
  | .setStyleProperty k name value => withElement table k (S.setStyleProperty · name value)
  | .appendChild parent child =>
    match table[parent]?, takeNodes table [child] with
    | some (.element e), some ([v], table) => do
      S.appendChild e v
      return some table
    | _, _ => return none
  | .replaceChildren target children =>
    match table[target]?, takeNodes table children with
    | some (.element e), some (vs, table) => do
      S.replaceChildren e vs
      return some table
    | _, _ => return none
  | .intoNode k =>
    match table[k]? with
    | some (.element e) => do
      let v ← S.toNode e
      return some (table.set k (.node v))
    | _ => return none

/-- The calls are made one after the other, and none fails. -/
inductive Makes (S : Surface σ ν η ε) :
    List (Handle ν η) → σ → List SurfaceCall → List (Handle ν η) → σ → Prop
  | nil {table : List (Handle ν η)} {s : σ} : Makes S table s [] table s
  | cons {table table' table'' : List (Handle ν η)} {s s' s'' : σ} {call : SurfaceCall}
    {rest : List SurfaceCall} : S.perform table call s = .ok (some table') s' →
    Makes S table' s' rest table'' s'' → Makes S table s (call :: rest) table'' s''

/-- The calls are made one after the other up to one that fails. -/
def FailsIn (S : Surface σ ν η ε) (table : List (Handle ν η)) (s : σ) (calls : List SurfaceCall)
    (error : ε) (s' : σ) : Prop :=
  ∃ before call after table' t, calls = before ++ call :: after ∧
    Makes S table s before table' t ∧ S.perform table' call t = .error error s'

/-- Make calls one after the other. -/
def performAll (S : Surface σ ν η ε) (table : List (Handle ν η)) :
    List SurfaceCall → EStateM ε σ (Option (List (Handle ν η)))
  | [] => return some table
  | call :: rest => do
    match ← S.perform table call with
    | some table => S.performAll table rest
    | none => return none

variable {S : Surface σ ν η ε} {table table' : List (Handle ν η)} {s s' : σ}
  {calls : List SurfaceCall}

theorem makes_of_performAll (h : S.performAll table calls s = .ok (some table') s') :
    Makes S table s calls table' s' := by
  induction calls generalizing table s with
  | nil =>
    cases h
    exact .nil
  | cons call rest ih =>
    simp only [performAll, bind, EStateM.bind] at h
    split at h
    · rename_i next t hcall
      cases next with
      | some next => exact .cons hcall (ih h)
      | none => cases h
    · cases h

theorem failsIn_of_performAll {error : ε} (h : S.performAll table calls s = .error error s') :
    FailsIn S table s calls error s' := by
  induction calls generalizing table s with
  | nil => cases h
  | cons call rest ih =>
    simp only [performAll, bind, EStateM.bind] at h
    split at h
    · rename_i next t hcall
      cases next with
      | some next =>
        obtain ⟨before, last, after, table', t', rfl, makes, fails⟩ := ih h
        exact ⟨call :: before, last, after, table', t', rfl, .cons hcall makes, fails⟩
      | none => cases h
    · rename_i hcall
      cases h
      exact ⟨[], call, rest, table, s, rfl, .nil, hcall⟩

/-! ## Building makes the calls -/

/-- Handles that have all been handed on. -/
def spent (n : Nat) : List (Handle ν η) := List.replicate n .spent

/-- What stands under the numbers of a node that has been built. -/
def built (n : Node) (v : ν) : List (Handle ν η) := .node v :: spent (n.handles - 1)

theorem performAll_cons (call : SurfaceCall) (rest : List SurfaceCall) :
    S.performAll table (call :: rest) = S.perform table call >>= fun
      | some table => S.performAll table rest
      | none => pure none := rfl

theorem perform_setters {α : Type} {call : α → SurfaceCall} {act : α → EStateM ε σ Unit}
    {run : List α → EStateM ε σ Unit} (nil : run [] = pure ())
    (cons : ∀ x xs, run (x :: xs) = act x >>= fun _ => run xs)
    (one : ∀ x, S.perform table (call x) = act x >>= fun _ => pure (some table)) (xs : List α)
    (rest : List SurfaceCall) :
    S.performAll table (xs.map call ++ rest) = run xs >>= fun _ => S.performAll table rest := by
  induction xs with
  | nil => rw [nil, pure_bind]; rfl
  | cons x xs ih =>
    rw [List.map_cons, List.cons_append, performAll_cons, one, bind_assoc, cons, bind_assoc, ← ih]
    simp only [pure_bind]

theorem withElement_eq {k : Nat} {e : η} (h : table[k]? = some (.element e))
    (act : η → EStateM ε σ Unit) :
    withElement table k act = act e >>= fun _ => pure (some table) := by
  rw [withElement, h]

section

variable (S) {k : Nat} {e : η} (h : table[k]? = some (.element e)) (rest : List SurfaceCall)

include h

theorem perform_setAttributes (attributes : List (String × String)) :
    S.performAll table (attributes.map (fun p => .setAttribute k p.1 p.2) ++ rest) =
      S.setAttributes e attributes >>= fun _ => S.performAll table rest := by
  have one : ∀ p : String × String, S.perform table (.setAttribute k p.1 p.2) =
      S.setAttribute e p.1 p.2 >>= fun _ => pure (some table) := fun _ => withElement_eq h _
  exact perform_setters rfl (fun _ _ => rfl) one attributes rest

theorem perform_setStyleProperties (properties : List (String × String)) :
    S.performAll table (properties.map (fun p => .setStyleProperty k p.1 p.2) ++ rest) =
      S.setStyleProperties e properties >>= fun _ => S.performAll table rest := by
  have one : ∀ p : String × String, S.perform table (.setStyleProperty k p.1 p.2) =
      S.setStyleProperty e p.1 p.2 >>= fun _ => pure (some table) := fun _ => withElement_eq h _
  exact perform_setters rfl (fun _ _ => rfl) one properties rest

theorem perform_setRawStyle (css : Option String) :
    S.performAll table (css.toList.map (.setStyleText k) ++ rest) =
      S.setRawStyle e css >>= fun _ => S.performAll table rest := by
  cases css with
  | none => rfl
  | some css =>
    show S.performAll table (.setStyleText k css :: rest) = _
    rw [performAll_cons, perform, withElement_eq h, bind_assoc]
    simp only [pure_bind]
    rfl

end

/-! ## Places in a table -/

theorem element_at (table later : List (Handle ν η)) (e : η) :
    (table ++ .element e :: later)[table.length]? = some (.element e) := by simp

theorem set_at (table later : List (Handle ν η)) (x y : Handle ν η) :
    (table ++ x :: later).set table.length y = table ++ y :: later := by simp

theorem Node.handles_pos (n : Node) : 0 < n.handles := by
  cases n with
  | element tag attributes style children => rw [Node.handles]; omega
  | _ => exact Nat.one_pos

theorem spent_built (n : Node) : (.spent :: spent (n.handles - 1) : List (Handle ν η)) =
    spent n.handles := by
  have pos := Node.handles_pos n
  rw [spent, spent, ← List.replicate_succ, Nat.sub_add_cancel pos]

theorem spent_add (m n : Nat) : (spent (m + n) : List (Handle ν η)) = spent m ++ spent n :=
  List.replicate_append_replicate.symm

/-- Taking a node that has just been built hands its handles on. -/
theorem takeNodes_built (table later : List (Handle ν η)) (n : Node) (v : ν)
    (rest : List RecordedNode) :
    takeNodes (table ++ (built n v ++ later)) (n.root table.length :: rest) =
      (takeNodes (table ++ (spent n.handles ++ later)) rest).map fun r => (v :: r.1, r.2) := by
  have number : (n.root table.length).number = table.length := by cases n <;> rfl
  have found : (table ++ (built n v ++ later))[table.length]? = some (.node v) := by
    simp [built]
  have taken : (table ++ (built n v ++ later)).set table.length .spent =
      table ++ (spent n.handles ++ later) := by
    rw [← spent_built, built, List.cons_append, set_at]
    rfl
  rw [takeNodes, number, found]
  dsimp only
  rw [taken]
  cases takeNodes (table ++ (spent n.handles ++ later)) rest <;> rfl

theorem perform_createElement (tag : String) (rest : List SurfaceCall) :
    S.performAll table (.createElement tag :: rest) =
      S.createElement tag >>= fun e => S.performAll (table ++ [.element e]) rest := by
  rw [performAll_cons, perform, bind_assoc]
  simp only [pure_bind]

theorem perform_intoNode {later : List (Handle ν η)} {e : η} (rest : List SurfaceCall) :
    S.performAll (table ++ .element e :: later) (.intoNode table.length :: rest) =
      S.toNode e >>= fun v => S.performAll (table ++ .node v :: later) rest := by
  rw [performAll_cons, perform, element_at]
  dsimp only
  rw [bind_assoc]
  simp only [pure_bind, set_at]

theorem perform_appendChild {k : Nat} {e : η} (h : table[k]? = some (.element e)) (n : Node) (v : ν)
    (rest : List SurfaceCall) :
    S.performAll (table ++ built n v) (.appendChild k (n.root table.length) :: rest) =
      S.appendChild e v >>= fun _ => S.performAll (table ++ spent n.handles) rest := by
  have here : (table ++ built n v)[k]? = some (.element e) := by
    rw [List.getElem?_append_left (List.getElem?_eq_some_iff.mp h).1, h]
  have taken : takeNodes (table ++ built n v) [n.root table.length] =
      some ([v], table ++ spent n.handles) := by
    have one := takeNodes_built table [] n v []
    rwa [List.append_nil, List.append_nil] at one
  rw [performAll_cons, perform, here, taken]
  dsimp only
  rw [bind_assoc]
  simp only [pure_bind]

mutual

/-- Building a node makes its calls, and leaves one handle. -/
theorem perform_calls (S : Surface σ ν η ε) (table : List (Handle ν η)) (rest : List SurfaceCall) :
    ∀ n : Node, S.performAll table (n.calls table.length ++ rest) =
      S.realize n >>= fun v => S.performAll (table ++ built n v) rest
  | .text content => by
    show S.performAll table (.createTextNode content :: rest) = _
    rw [performAll_cons, perform, bind_assoc]
    simp only [pure_bind]
    rfl
  | .error message => by
    rw [Node.calls, realize, bind_assoc]
    simp only [List.cons_append, List.append_assoc]
    rw [perform_createElement]
    refine bind_congr fun e => ?_
    have here : (table ++ [Handle.element e])[table.length]? = some (.element e) :=
      element_at table [] e
    rw [performAll_cons, perform, withElement_eq here, bind_assoc, bind_assoc]
    refine bind_congr fun _ => ?_
    rw [pure_bind]
    dsimp only
    rw [perform_setStyleProperties S here, bind_assoc]
    refine bind_congr fun _ => ?_
    exact perform_intoNode rest
  | .element tag attributes style children => by
    rw [Node.calls, realize, bind_assoc]
    simp only [List.cons_append, List.append_assoc]
    rw [perform_createElement]
    refine bind_congr fun e => ?_
    have here : (table ++ [Handle.element e])[table.length]? = some (.element e) :=
      element_at table [] e
    rw [perform_setAttributes S here, bind_assoc]
    refine bind_congr fun _ => ?_
    rw [perform_setRawStyle S here, bind_assoc]
    refine bind_congr fun _ => ?_
    rw [perform_setStyleProperties S here, bind_assoc]
    refine bind_congr fun _ => ?_
    refine (perform_childCalls S table e 0 _ children).trans ?_
    rw [bind_assoc]
    refine bind_congr fun _ => ?_
    rw [Nat.zero_add]
    refine (perform_intoNode rest).trans ?_
    simp only [built, Node.handles, Nat.add_sub_cancel_left]

theorem perform_childCalls (S : Surface σ ν η ε) (table : List (Handle ν η)) (e : η) (j : Nat)
    (rest : List SurfaceCall) : ∀ children : List Node,
      S.performAll (table ++ .element e :: spent j)
          (childCalls table.length (table.length + 1 + j) children ++ rest) =
        S.realizeChildren e children >>= fun _ =>
          S.performAll (table ++ .element e :: spent (j + handlesOf children)) rest
  | [] => by
    rw [realizeChildren, pure_bind]
    rfl
  | n :: more => by
    let full : List (Handle ν η) := table ++ .element e :: spent j
    have length : full.length = table.length + 1 + j := by
      simp only [full, List.length_append, List.length_cons, spent, List.length_replicate]
      omega
    have here : full[table.length]? = some (.element e) := element_at table (spent j) e
    have later : full ++ spent n.handles = table ++ .element e :: spent (j + n.handles) := by
      simp only [full, spent_add, List.append_assoc, List.cons_append]
    have further := perform_childCalls S table e (j + n.handles) rest more
    rw [childCalls, realizeChildren, bind_assoc, List.append_assoc, ← length]
    refine (perform_calls S full _ n).trans (bind_congr fun v => ?_)
    rw [List.cons_append, perform_appendChild here, later, bind_assoc]
    refine bind_congr fun _ => ?_
    rw [length, Nat.add_assoc (table.length + 1), handlesOf, ← Nat.add_assoc j, further]

end

/-! ## Building several nodes -/

/-- What stands under the numbers of nodes that have been built. -/
def builtAll (nodes : List Node) (vs : List ν) : List (Handle ν η) :=
  (nodes.zip vs).flatMap fun p => built p.1 p.2

theorem perform_callsOf (S : Surface σ ν η ε) (table : List (Handle ν η))
    (rest : List SurfaceCall) (nodes : List Node) :
    S.performAll table (callsOf table.length nodes ++ rest) =
      S.realizeAll nodes >>= fun vs => S.performAll (table ++ builtAll nodes vs) rest := by
  induction nodes generalizing table with
  | nil =>
    rw [realizeAll, pure_bind, builtAll, List.zip_nil_left, List.flatMap_nil, List.append_nil]
    rfl
  | cons n more ih =>
    rw [callsOf, realizeAll, List.append_assoc, perform_calls, bind_assoc]
    refine bind_congr fun v => ?_
    have length : (table ++ (built n v : List (Handle ν η))).length = table.length + n.handles := by
      have pos := Node.handles_pos n
      simp only [List.length_append, built, List.length_cons, spent, List.length_replicate]
      omega
    rw [← length, ih, bind_assoc]
    refine bind_congr fun vs => ?_
    rw [pure_bind, List.append_assoc]
    rfl

theorem takeNodes_builtAll (table : List (Handle ν η)) {nodes : List Node} {vs : List ν}
    (same : vs.length = nodes.length) :
    takeNodes (table ++ builtAll nodes vs) (rootsOf table.length nodes) =
      some (vs, table ++ spent (handlesOf nodes)) := by
  induction nodes generalizing table vs with
  | nil =>
    rw [List.length_eq_zero_iff.mp same]
    rfl
  | cons n more ih =>
    cases vs with
    | nil => cases same
    | cons v vs =>
      have further := ih (table ++ spent n.handles) (Nat.succ.inj same)
      rw [List.length_append, spent, List.length_replicate, ← spent, List.append_assoc] at further
      show takeNodes (table ++ (built n v ++ builtAll more vs)) (_ :: _) = _
      rw [takeNodes_built, further, handlesOf, spent_add, List.append_assoc]
      rfl

theorem length_realizeAll {nodes : List Node} {vs : List ν}
    (h : S.realizeAll nodes s = .ok vs s') : vs.length = nodes.length := by
  induction nodes generalizing s vs with
  | nil =>
    cases h
    rfl
  | cons n more ih =>
    simp only [realizeAll, bind, EStateM.bind] at h
    split at h
    · split at h
      · rename_i later
        cases h
        exact congrArg Nat.succ (ih later)
      · cases h
    · cases h

/-! ## The target -/

end Surface

/-- The numbers that a call names. -/
def SurfaceCall.names : SurfaceCall → List Nat
  | .createElement _ | .createTextNode _ => []
  | .setTextContent k _ | .setAttribute k _ _ | .setStyleText k _ | .setStyleProperty k _ _ => [k]
  | .appendChild parent child => [parent, child.number]
  | .replaceChildren target children => target :: children.map RecordedNode.number
  | .intoNode k => [k]

def SurfaceCall.replaces : SurfaceCall → Bool
  | .replaceChildren _ _ => true
  | _ => false

/-- The call neither names a number below `k` nor replaces children. -/
def SurfaceCall.StaysAbove (k : Nat) (call : SurfaceCall) : Prop :=
  (∀ i ∈ call.names, k ≤ i) ∧ call.replaces = false

theorem SurfaceCall.StaysAbove.of_names {call : SurfaceCall} {k j : Nat} (h : k ≤ j)
    (names : call.names = [j]) (plain : call.replaces = false) : call.StaysAbove k :=
  ⟨by rw [names]; exact List.forall_mem_singleton.mpr h, plain⟩

mutual

/-- The calls of a node name what it creates, and nothing else. -/
theorem staysAbove_calls {k j : Nat} (h : k ≤ j) : ∀ n : Node, ∀ call ∈ n.calls j,
    call.StaysAbove k
  | .text content => List.forall_mem_singleton.mpr ⟨nofun, rfl⟩
  | .error message => by
    intro call hcall
    simp only [Node.calls, List.mem_append, List.mem_cons, List.mem_map, List.not_mem_nil,
      or_false] at hcall
    rcases hcall with (rfl | rfl | ⟨p, -, rfl⟩) | rfl
    · exact ⟨nofun, rfl⟩
    · exact .of_names h rfl rfl
    · exact .of_names h rfl rfl
    · exact .of_names h rfl rfl
  | .element tag attributes style children => by
    intro call hcall
    simp only [Node.calls, List.mem_append, List.mem_cons, List.mem_map, List.not_mem_nil,
      or_false] at hcall
    rcases hcall with
      ((((rfl | ⟨p, -, rfl⟩) | ⟨css, -, rfl⟩) | ⟨p, -, rfl⟩) | inChild) | rfl
    · exact ⟨nofun, rfl⟩
    · exact .of_names h rfl rfl
    · exact .of_names h rfl rfl
    · exact .of_names h rfl rfl
    · exact staysAbove_childCalls h (Nat.le_succ_of_le h) children call inChild
    · exact .of_names h rfl rfl

theorem staysAbove_childCalls {k parent j : Nat} (hparent : k ≤ parent) (h : k ≤ j) :
    ∀ nodes : List Node, ∀ call ∈ childCalls parent j nodes, call.StaysAbove k
  | [] => nofun
  | n :: rest => by
    have number : (n.root j).number = j := by cases n <;> rfl
    intro call hcall
    rw [childCalls, List.mem_append, List.mem_cons] at hcall
    rcases hcall with inNode | rfl | inRest
    · exact staysAbove_calls h n call inNode
    · refine ⟨fun i hi => ?_, rfl⟩
      rw [SurfaceCall.names, number, List.mem_cons, List.mem_singleton] at hi
      rcases hi with rfl | rfl
      · exact hparent
      · exact h
    · exact staysAbove_childCalls hparent (Nat.le_add_right_of_le h) rest call inRest

end

theorem staysAbove_callsOf {k j : Nat} (h : k ≤ j) (nodes : List Node) :
    ∀ call ∈ callsOf j nodes, call.StaysAbove k := by
  induction nodes generalizing j with
  | nil => nofun
  | cons n rest ih =>
    intro call hcall
    rcases List.mem_append.mp hcall with inNode | inRest
    · exact staysAbove_calls h n call inNode
    · exact ih (Nat.le_add_right_of_le h) call inRest

namespace Surface

/-- A failing call among others is one of them, or the last. -/
theorem failsIn_concat {last : SurfaceCall} {error : ε}
    (h : FailsIn S table s (calls ++ [last]) error s') :
    FailsIn S table s calls error s' ∨ ∃ table' t, Makes S table s calls table' t ∧
      S.perform table' last t = .error error s' := by
  obtain ⟨before, call, after, table', t, split, makes, fails⟩ := h
  cases after using List.reverseRecOn with
  | nil =>
    obtain ⟨rfl, same⟩ := List.append_inj' split rfl
    cases same
    exact .inr ⟨table', t, makes, fails⟩
  | append_singleton after x _ =>
    rw [← List.cons_append, ← List.append_assoc] at split
    obtain ⟨rfl, -⟩ := List.append_inj' split rfl
    exact .inl ⟨before, call, after, table', t, rfl, makes, fails⟩

theorem perform_realize (S : Surface σ ν η ε) (n : Node) (s : σ) :
    S.performAll [] (n.calls 0) s = (S.realize n >>= fun v => pure (some (built n v))) s := by
  have all := perform_calls S [] [] n
  rw [List.append_nil] at all
  exact congrFun all s

/-- The nodes are built first, and then put in the place of the children of the target. -/
theorem perform_mountNodes (S : Surface σ ν η ε) (target : η) (nodes : List Node) (s : σ) :
    S.performAll [.element target] (callsOf 1 nodes ++ [.replaceChildren 0 (rootsOf 1 nodes)]) s =
      (S.mountNodes target nodes >>= fun _ =>
        pure (some (.element target :: spent (handlesOf nodes)))) s := by
  have all := perform_callsOf S [.element target] [.replaceChildren 0 (rootsOf 1 nodes)] nodes
  rw [List.length_singleton] at all
  rw [all, mountNodes, bind_assoc]
  simp only [bind, EStateM.bind]
  cases hvs : S.realizeAll nodes s with
  | error e t => rfl
  | ok vs t =>
    have taken := takeNodes_builtAll [Handle.element target] (length_realizeAll hvs)
    rw [List.length_singleton] at taken
    have replace : S.perform ([.element target] ++ builtAll nodes vs)
        (.replaceChildren 0 (rootsOf 1 nodes)) = S.replaceChildren target vs >>= fun _ =>
          pure (some (.element target :: spent (handlesOf nodes))) := by
      rw [perform, taken]
      rfl
    show S.performAll ([.element target] ++ builtAll nodes vs) [_] t = _
    rw [performAll_cons, replace, bind_assoc]
    rfl

/-- How a mounting goes on: it is put off if its rendering has not ended; else the nodes are built
and then put in the place of the children of the target, up to a call that fails. -/
def GoesOn (S : Surface σ ν η ε) (m : Mount η) (s : σ) :
    EStateM.Result ε σ (Option (Mount η)) → Prop :=
  let nodes := m.rendering.nodes
  let replacement := SurfaceCall.replaceChildren 0 (rootsOf 1 nodes)
  let table : List (Handle ν η) := [.element m.target]
  fun
  | .ok (some m') s' => m.rendering.hasEnded = false ∧ m' = m ∧ s' = s
  | .ok none s' => m.rendering.hasEnded = true ∧
    Makes S table s (callsOf 1 nodes ++ [replacement]) (table ++ spent (handlesOf nodes)) s'
  | .error e s' => m.rendering.hasEnded = true ∧
    (FailsIn S table s (callsOf 1 nodes) e s' ∨
      ∃ table' t, Makes S table s (callsOf 1 nodes) table' t ∧
        S.perform table' replacement t = .error e s')

theorem goesOn_finish (S : Surface σ ν η ε) (m : Mount η) (s : σ) :
    S.GoesOn m s (m.finish S s) := by
  cases ended : m.rendering.hasEnded with
  | false =>
    rw [Mount.finish_of_going ended]
    exact ⟨ended, rfl, rfl⟩
  | true =>
    have performed := perform_mountNodes S m.target m.rendering.nodes s
    rw [Mount.finish_of_ended ended]
    simp only [bind, EStateM.bind] at performed ⊢
    cases h : S.mountNodes m.target m.rendering.nodes s with
    | ok v s' =>
      rw [h] at performed
      exact ⟨ended, makes_of_performAll performed⟩
    | error e s' =>
      rw [h] at performed
      exact ⟨ended, failsIn_concat (failsIn_of_performAll performed)⟩

/-- **Nodes are built by their calls.** What is left in the tables says where the handles went: an
element that stands for itself while it is built becomes a node in the end, a child is spent when it
is put behind its siblings, and after a mounting all is spent but the target, number 0. Whatever has
been done to its rendering, a mounting that is polled takes nodes until the rendering has to wait or
has ended, and it makes no call before the end; mounted as far as possible, a document gets the
nodes of its whole rendering. -/
theorem built_by_calls (S : Surface σ ν η ε) :
    (∀ n s, match S.realize n s with
      | .ok v s' => Makes S [] s (n.calls 0) (.node v :: spent (n.handles - 1)) s'
      | .error e s' => FailsIn S [] s (n.calls 0) e s') ∧
    (∀ policy target source moves s, ∃ (n : Nat) (nodes : List Node) (last : Answer),
      let before := course policy source moves
      let c := course policy source (moves ++ List.replicate n .poll)
      c.answers = before.answers ++ nodes.map .node ++ [last] ∧
      (last = .pending ∨ last = .ended) ∧
      S.GoesOn ⟨target, c⟩ s ((⟨target, before⟩ : Mount η).poll S s)) ∧
    (∀ policy target source s, ∃ n,
      let c := course policy source (List.replicate n .poll)
      c.Reaches (render policy source) ∧
      S.GoesOn ⟨target, c⟩ s (S.mount policy target source s)) ∧
    ∀ nodes, ∀ call ∈ callsOf 1 nodes, 0 ∉ call.names ∧ call.replaces = false := by
  refine ⟨fun n s => ?_, fun policy target source moves s => ?_,
    fun policy target source s => ?_, fun nodes call hcall => ?_⟩
  · have performed := perform_realize S n s
    cases h : S.realize n s with
    | ok v s' =>
      simp only [bind, EStateM.bind, h] at performed
      exact makes_of_performAll performed
    | error e s' =>
      simp only [bind, EStateM.bind, h] at performed
      exact failsIn_of_performAll performed
  · obtain ⟨n, gathered⟩ := (course policy source moves).gather_eq_poll
    obtain ⟨nodes, last, answers, stops⟩ := (course policy source moves).answers_gather
    refine ⟨n, nodes, last, ?_⟩
    rw [course_polls, ← gathered]
    exact ⟨answers, stops, S.goesOn_finish _ s⟩
  · obtain ⟨n, mounted, reaches⟩ := S.mount_eq_finish policy target source
    refine ⟨n, reaches, ?_⟩
    rw [mounted]
    exact S.goesOn_finish _ s
  · obtain ⟨above, plain⟩ := staysAbove_callsOf (Nat.le_refl 1) _ call hcall
    exact ⟨fun named => absurd (above 0 named) (by decide), plain⟩

end Surface

end JsonMarkup
