import JsonMarkup.Proofs.Render.Immediate
import JsonMarkup.Proofs.Source.Collapse
import JsonMarkup.Proofs.Surface.Settling
import JsonMarkup.Proofs.Web.Building
import JsonMarkup.Web.View
import Mathlib.Data.List.Infix

/-!
# What is asked of a view

A *session* is a view together with its page. Whoever has the view may set policies and show
documents, in any order. Any text may be malformed, and the page may throw at any call that can.

**Invariant (`Session.Follows`).** The log of a session, that is, what has been asked and how it has
ended, decides under which policy documents are shown, and what stands in the element of the view.
A failure leaves no trace in either, because new nodes are put in the element in a single call,
after which nothing can fail.

**Theorem (`session_follows`).** Whatever has been asked of a view, the session follows its log, and
it heeds the next request (`Session.Heeds`): no document is ever found to be pending, and if the
request fails, no call has changed a node that was there before.
-/

namespace JsonMarkup.Web

open Render

/-! ## Sound pages -/

namespace Page

/-- A node of the page is an element. -/
def IsElement (p : Page) (k : Nat) : Prop :=
  ∃ tag traits items, p.nodes[k]? = some (.element tag traits items)

/-- Only nodes of the page stand in its nodes, and what has been found by its id is an element. -/
structure Sound (p : Page) : Prop where
  closed : Closed p.nodes.toList
  found : ∀ id e, findField? id p.found = some e → p.IsElement e.number

variable {p q : Page}

/-- A page is sound before anything has been asked of it. -/
theorem sound_of_fresh (nodes : p.nodes = #[]) (found : p.found = []) : p.Sound where
  closed := by
    rw [nodes]
    exact List.forall_mem_nil _
  found id e he := by
    rw [found] at he
    cases he

theorem IsElement.lt {k : Nat} (element : p.IsElement k) : k < p.nodes.size := by
  obtain ⟨_, _, _, held⟩ := element
  exact (Array.getElem?_eq_some_iff.mp held).1

/-! ### Pages with more nodes -/

theorem kept_getElem? (kept : Kept p.nodes.toList q.nodes.toList) {k : Nat}
    (old : k < p.nodes.size) : q.nodes[k]? = p.nodes[k]? := by
  obtain ⟨more, nodes⟩ := kept.1
  rw [← Array.getElem?_toList, ← Array.getElem?_toList, ← nodes, List.getElem?_append_left old]

theorem IsElement.keep {k : Nat} (element : p.IsElement k)
    (kept : Kept p.nodes.toList q.nodes.toList) : q.IsElement k := by
  have old := element.lt
  obtain ⟨tag, traits, items, held⟩ := element
  exact ⟨tag, traits, items, (kept_getElem? kept old).trans held⟩

theorem Sound.keep (sound : p.Sound) (found : q.found = p.found)
    (kept : Kept p.nodes.toList q.nodes.toList) : q.Sound where
  closed := kept.2
  found id e he := by
    rw [found] at he
    exact (sound.found id e he).keep kept

/-! ### Pages after mounting -/

theorem closed_modify {nodes : List Held} (closed : Closed nodes) (k : Nat) {f : Held → Held}
    (inside : ∀ h j, .node j ∈ (f h).items → j < nodes.length) : Closed (nodes.modify k f) := by
  intro h mem j stands
  rw [List.length_modify]
  obtain ⟨i, found⟩ := List.mem_iff_getElem?.mp mem
  rw [List.getElem?_modify, Option.map_eq_map, Option.map_eq_some_iff] at found
  obtain ⟨old, there, rfl⟩ := found
  by_cases here : k = i
  · rw [if_pos here] at stands
    exact inside old j stands
  · rw [if_neg here] at stands
    exact closed old (List.mem_of_getElem? there) j stands

namespace Mounted

variable {e : Element} {ns : List JsonMarkup.Node} (mounted : p.Mounted e ns q)
include mounted

theorem size_le : p.nodes.size ≤ q.nodes.size := by
  rw [← Array.length_toList, ← Array.length_toList, mounted.nodes, List.length_modify,
    List.length_append]
  exact Nat.le_add_right _ _

/-- Nodes that were there before are as they were, except the element. -/
theorem other {k : Nat} (old : k < p.nodes.size) (ne : k ≠ e.number) :
    q.nodes[k]? = p.nodes[k]? := by
  rw [← Array.getElem?_toList, ← Array.getElem?_toList, mounted.nodes,
    List.getElem?_modify_ne _ _ (Ne.symm ne), List.getElem?_append_left old]

theorem element {tag : String} {traits : List Trait} {items : List Item}
    (held : p.nodes[e.number]? = some (.element tag traits items)) :
    q.nodes[e.number]? =
      some (.element tag traits ((numbersFrom p.nodes.size ns).map .node)) := by
  have old : e.number < p.nodes.size := (Array.getElem?_eq_some_iff.mp held).1
  rw [← Array.getElem?_toList] at held ⊢
  rw [mounted.nodes, List.getElem?_modify_eq, List.getElem?_append_left old, held]
  rfl

/-- What is behind the element is what was there before, and then the new nodes. -/
theorem drop {k : Nat} (behind : e.number < k) :
    q.nodes.toList.drop k =
      (p.nodes.toList ++ onPageOf p.setting p.nodes.size ns).drop k := by
  rw [mounted.nodes, List.drop_modify_of_lt _ _ _ _ behind]

theorem sound (sound : p.Sound) (there : p.IsElement e.number) : q.Sound where
  closed := by
    rw [mounted.nodes]
    apply closed_modify (closed_append_onPageOf sound.closed ns)
    intro h j stands
    rw [List.length_append, length_onPageOf]
    cases h with
    | text content => cases stands
    | element tag traits items =>
      obtain ⟨i, among, same⟩ := List.mem_map.mp stands
      cases same
      exact (numbersFrom_within among).2
  found id x hx := by
    rw [mounted.found] at hx
    have element := sound.found id x hx
    have old := element.lt
    by_cases same : x.number = e.number
    · obtain ⟨tag, traits, items, held⟩ := there
      exact ⟨tag, traits, _, same ▸ mounted.element held⟩
    · obtain ⟨tag, traits, items, held⟩ := element
      exact ⟨tag, traits, items, (mounted.other old same).trans held⟩

end Mounted

/-! ### The element of a view -/

theorem getElementById_eq (id : String) (p : Page) :
    getElementById id p =
      match findField? id p.found, p.setting.anchors.find? (·.id = id) with
      | some e, _ => .ok (some e) { p with calls := .getElementById id :: p.calls }
      | none, none => .ok none { p with calls := .getElementById id :: p.calls }
      | none, some a =>
        .ok (some ⟨p.nodes.size, a.tag, a.kind, id⟩)
          { p with
            calls := .getElementById id :: p.calls
            nodes := p.nodes.push (.element a.tag [] [.initial])
            found := (id, ⟨p.nodes.size, a.tag, a.kind, id⟩) :: p.found } := by
  unfold getElementById
  simp only [bind, EStateM.bind, record, get, getThe, MonadStateOf.get]
  delta EStateM.get
  dsimp only
  cases findField? id p.found with
  | some e => rfl
  | none => cases p.setting.anchors.find? (·.id = id) <;> rfl

/-- What is found by its id is an element of the page, whether or not it has been found before. -/
theorem getElementById_ends (sound : p.Sound) {id : String} {e : Element}
    (ran : getElementById id p = .ok (some e) q) : q.Sound ∧ q.IsElement e.number := by
  rw [getElementById_eq] at ran
  split at ran
  · rename_i x _ known
    cases ran
    exact ⟨⟨sound.closed, sound.found⟩, sound.found id e known⟩
  · cases ran
  · rename_i a _ _
    cases ran
    have kept : Kept p.nodes.toList (p.nodes.push (.element a.tag [] [.initial])).toList := by
      rw [Array.toList_push]
      refine ⟨List.prefix_append _ _, sound.closed.append ?_⟩
      intro h mem k stands
      rw [List.mem_singleton.mp mem] at stands
      cases List.mem_singleton.mp stands
    have element : (p.nodes.push (.element a.tag [] [.initial]))[p.nodes.size]? =
        some (.element a.tag [] [.initial]) := Array.getElem?_push_size
    refine ⟨⟨kept.2, ?_⟩, a.tag, [], [.initial], element⟩
    intro id' e' known
    rw [findField?] at known
    split at known
    · cases known
      exact ⟨a.tag, [], [.initial], element⟩
    · exact (sound.found id' e' known).keep kept

theorem getElementById_of_root {id : String} {e : Element} (ran : root id p = .ok e q) :
    getElementById id p = .ok (some e) q := by
  simp only [root, bind, EStateM.bind, get, getThe, MonadStateOf.get] at ran
  delta EStateM.get at ran
  dsimp only at ran
  split at ran
  · cases ran
  · rw [EStateM.bind] at ran
    cases got : getElementById id p with
    | ok found q' =>
      rw [got] at ran
      cases found with
      | none => cases ran
      | some x =>
        cases ran
        rfl
    | error error q' =>
      rw [got] at ran
      cases ran

end Page

/-- A view is built around an element of the page. -/
theorem View.build_ends {id : String} {policy : Policy} {p q : Page} {v : View} (sound : p.Sound)
    (built : View.build id policy p = .ok v q) :
    q.Sound ∧ q.IsElement v.root.number ∧ v.policy = policy := by
  have whole : View.build id policy p =
    EStateM.bind (Page.root id) (fun root => EStateM.pure ⟨root, policy⟩) p := rfl
  rw [whole, EStateM.bind] at built
  split at built
  · rename_i root _ found
    cases built
    obtain ⟨sound, element⟩ := Page.getElementById_ends sound (Page.getElementById_of_root found)
    exact ⟨sound, element, rfl⟩
  · cases built

/-! ## Showing documents -/

namespace View

variable {v : View} {p : Page} {text : String}

theorem renderJson_of_error {e : Json.Error} (rejected : Source.read text = .error e) :
    v.renderJson text p = .error (.invalidDocument e.message) p := by
  rw [renderJson, rejected]
  rfl

/-- A document that can be read is mounted at once. -/
theorem renderJson_of_ok {source : Source} (parsed : Source.read text = .ok source) :
    v.renderJson text p =
      Page.surface.mountNodes v.root (renderNodes v.policy source) p := by
  obtain ⟨j, rfl⟩ : ∃ j, source = Source.ofJson j := by
    rw [Source.read_eq] at parsed
    cases read : Json.read text with
    | error e =>
      rw [read] at parsed
      cases parsed
    | ok j =>
      rw [read] at parsed
      exact ⟨j, (Except.ok.inj parsed).symm⟩
  obtain ⟨ended, nodes⟩ := gather_ofJson v.policy j
  have polled : (v.mount (Source.ofJson j)).poll Page.surface =
      Page.surface.mountNodes v.root (renderNodes v.policy (Source.ofJson j)) >>=
        fun _ => pure none := by
    rw [← nodes]
    exact Mount.finish_of_ended ended
  rw [renderJson, parsed]
  dsimp only
  rw [polled, bind_assoc]
  simp only [pure_bind]
  rw [bind_pure_unit]

end View

/-! ## Sessions -/

/-- Something that is asked of a view. -/
inductive Request where
  | setPolicy (text : String)
  /-- The page may throw on the way, after so many calls that could have thrown. -/
  | renderJson (text : String) (trap : Option (Nat × Thrown))
deriving DecidableEq, Repr

/-- A view and its page. -/
structure Session where
  view : View
  page : Page

/-- What has been asked, and how it has ended; the last request comes first. -/
abbrev Log := List (Request × Except Error Unit)

namespace Session

/-- Ask something, and see how it ends. -/
def ask (s : Session) : Request → Except Error Unit × Session
  | .setPolicy text =>
    match s.view.setPolicy text with
    | .ok view => (.ok (), { s with view })
    | .error e => (.error e, s)
  | .renderJson text trap =>
    match s.view.renderJson text { s.page with trap } with
    | .ok () page => (.ok (), { s with page })
    | .error e page => (.error e, { s with page })

/-- Ask one thing after the other; the last request comes first. -/
def run (s : Session) : List Request → Log × Session
  | [] => ([], s)
  | request :: earlier =>
    let (log, t) := s.run earlier
    let (outcome, t) := t.ask request
    ((request, outcome) :: log, t)

end Session

/-! ## What a log says -/

/-- The policy that was set last, or the one at first. -/
def policyAfter (first : Policy) : Log → Policy
  | [] => first
  | (.setPolicy text, .ok ()) :: earlier =>
    match Policy.read text with
    | .ok policy => policy
    | .error _ => policyAfter first earlier
  | _ :: earlier => policyAfter first earlier

/-- The document that was shown last, with the policy under which it was shown. -/
def shownAfter (first : Policy) : Log → Option (Policy × Source)
  | [] => none
  | (.renderJson text _, .ok ()) :: earlier =>
    match Source.read text with
    | .ok source => some (policyAfter first earlier, source)
    | .error _ => shownAfter first earlier
  | _ :: earlier => shownAfter first earlier

/-- What stands in an element: what stood in it at first, or else the nodes that were built for a
document. Their numbers are not below `base`. -/
def Page.Presents (p : Page) (base : Nat) (initial items : List Item) :
    Option (Policy × Source) → Prop
  | none => items = initial
  | some (policy, source) => ∃ k, base ≤ k ∧
      items = (numbersFrom k (renderNodes policy source)).map .node ∧
      onPageOf p.setting k (renderNodes policy source) <+: p.nodes.toList.drop k

namespace Session

/-- From the start of a session, its log decides under which policy documents are shown, and what
stands in the element of the view. No other node that was there at the start has changed. -/
structure Follows (start : Session) (log : Log) (s : Session) : Prop where
  sound : s.page.Sound
  setting : s.page.setting = start.page.setting
  size : start.page.nodes.size ≤ s.page.nodes.size
  root : s.view.root = start.view.root
  policy : s.view.policy = policyAfter start.view.policy log
  others : ∀ k < start.page.nodes.size, k ≠ start.view.root.number →
    s.page.nodes[k]? = start.page.nodes[k]?
  content : ∃ tag traits initial items,
    start.page.nodes[start.view.root.number]? = some (.element tag traits initial) ∧
    s.page.nodes[start.view.root.number]? = some (.element tag traits items) ∧
    s.page.Presents start.page.nodes.size initial items (shownAfter start.view.policy log)

/-- What happens if something is asked for. If it fails, policy and nodes are as they were before,
and the calls that were made have changed new nodes only, so neither the element of the view nor
anything in it. -/
def Heeds (s : Session) (request : Request) : Prop :=
  let (outcome, t) := s.ask request
  outcome ≠ .error .pending ∧
  match request with
  | .setPolicy _ => t.page = s.page ∧ ∀ e, outcome = .error e → t.view = s.view
  | .renderJson text _ => t.view = s.view ∧
      (∀ e, outcome = .error e →
        Kept s.page.nodes.toList t.page.nodes.toList ∧
        ∃ made, t.page.calls = made ++ s.page.calls ∧
          ∀ call ∈ made, ∀ k ∈ call.changes, s.page.nodes.size ≤ k) ∧
      ∀ e, Source.read text = .error e → outcome = .error (.invalidDocument e.message) ∧
        t.page.calls = s.page.calls ∧ t.page.nodes = s.page.nodes

/-! ## One request -/

/-- How a request may end, and what has become of the session then. -/
inductive Asked (s : Session) : Request → Except Error Unit → Session → Prop
  | policySet {text : String} {policy : Policy} : Policy.read text = .ok policy →
    Asked s (.setPolicy text) (.ok ()) { s with view := s.view.replacePolicy policy }
  | policyRejected {text : String} {e : Policy.ReadError} : Policy.read text = .error e →
    Asked s (.setPolicy text) (.error (.invalidDocument e.message)) s
  | documentRejected {text : String} {trap : Option (Nat × Thrown)} {e : Json.Error} :
    Source.read text = .error e →
    Asked s (.renderJson text trap) (.error (.invalidDocument e.message))
      { s with page := { s.page with trap } }
  | shown {text : String} {trap : Option (Nat × Thrown)} {source : Source} {page : Page} :
    Source.read text = .ok source →
    s.page.Mounted s.view.root (renderNodes s.view.policy source) page →
    Asked s (.renderJson text trap) (.ok ()) { s with page }
  | thrown {text : String} {trap : Option (Nat × Thrown)} {source : Source} {error : Error}
    {page : Page} : Source.read text = .ok source → s.page.Failed error page →
    Asked s (.renderJson text trap) (.error error) { s with page }

variable {start s t : Session} {log : Log} {request : Request} {outcome : Except Error Unit}

theorem asked (sound : s.page.Sound) (request : Request) :
    Asked s request (s.ask request).1 (s.ask request).2 := by
  cases request with
  | setPolicy text =>
    rw [ask, View.setPolicy]
    cases read : Policy.read text with
    | ok policy => exact .policySet read
    | error e => exact .policyRejected read
  | renderJson text trap =>
    rw [ask]
    cases read : Source.read text with
    | error e =>
      rw [View.renderJson_of_error read]
      exact .documentRejected read
    | ok source =>
      rw [View.renderJson_of_ok read]
      have ends := Page.mountNodes_ends (p := { s.page with trap }) sound.closed s.view.root
        (renderNodes s.view.policy source)
      cases mounting : Page.surface.mountNodes s.view.root (renderNodes s.view.policy source)
          { s.page with trap } with
      | ok _ page =>
        rw [mounting] at ends
        exact .shown read ⟨ends.setting, ends.found, ends.nodes⟩
      | error error page =>
        rw [mounting] at ends
        exact .thrown read ⟨⟨ends.leads.setting, ends.leads.found, ends.leads.calls⟩, ends.thrown,
          ends.kept⟩

theorem heeds (sound : s.page.Sound) (request : Request) : s.Heeds request := by
  have asked := asked sound request
  unfold Heeds
  generalize s.ask request = result at asked ⊢
  obtain ⟨outcome, t⟩ := result
  cases asked with
  | policySet read => exact ⟨nofun, rfl, nofun⟩
  | policyRejected read => exact ⟨nofun, rfl, fun _ _ => rfl⟩
  | documentRejected read =>
    refine ⟨nofun, rfl, ?_, ?_⟩
    · intro _ _
      exact ⟨⟨List.prefix_rfl, sound.closed⟩, [], rfl, List.forall_mem_nil _⟩
    · intro e same
      cases read.symm.trans same
      exact ⟨rfl, rfl, rfl⟩
  | shown read mounted =>
    refine ⟨nofun, rfl, nofun, ?_⟩
    intro e same
    cases read.symm.trans same
  | thrown read failed =>
    obtain ⟨text, rfl⟩ := failed.thrown
    refine ⟨nofun, rfl, ?_, ?_⟩
    · intro _ _
      exact ⟨failed.kept, failed.leads.calls⟩
    · intro e same
      cases read.symm.trans same

/-! ## Runs -/

/-- At the start, nothing has been shown. -/
theorem follows_start (sound : start.page.Sound)
    (element : start.page.IsElement start.view.root.number) : start.Follows [] start where
  sound := sound
  setting := rfl
  size := Nat.le_refl _
  root := rfl
  policy := rfl
  others := fun _ _ _ => rfl
  content := by
    obtain ⟨tag, traits, items, held⟩ := element
    exact ⟨tag, traits, items, items, held, held, rfl⟩

/-- A session in which new nodes have been built, but not shown, follows what has been shown
before. -/
theorem Follows.keep (follows : start.Follows log s) (view : t.view = s.view)
    (setting : t.page.setting = s.page.setting) (found : t.page.found = s.page.found)
    (kept : Kept s.page.nodes.toList t.page.nodes.toList) : start.Follows log t where
  sound := follows.sound.keep found kept
  setting := setting.trans follows.setting
  size := follows.size.trans kept.1.length_le
  root := by rw [view, follows.root]
  policy := by rw [view, follows.policy]
  others k old ne :=
    (Page.kept_getElem? kept (Nat.lt_of_lt_of_le old follows.size)).trans (follows.others k old ne)
  content := by
    obtain ⟨tag, traits, initial, items, first, now, presents⟩ := follows.content
    have there : start.view.root.number < s.page.nodes.size :=
      (Array.getElem?_eq_some_iff.mp now).1
    refine ⟨tag, traits, initial, items, first, (Page.kept_getElem? kept there).trans now, ?_⟩
    cases shown : shownAfter start.view.policy log with
    | none =>
      rw [shown] at presents
      exact presents
    | some last =>
      rw [shown] at presents
      obtain ⟨k, above, numbers, laidOut⟩ := presents
      refine ⟨k, above, numbers, ?_⟩
      rw [setting]
      exact laidOut.trans (List.IsPrefix.drop kept.1 k)

/-- **One request extends the log by what it has come to.** -/
theorem Follows.step (follows : start.Follows log s) (asked : Asked s request outcome t) :
    start.Follows ((request, outcome) :: log) t := by
  cases asked with
  | policySet read =>
    exact { follows with policy := by rw [policyAfter, read]; rfl }
  | policyRejected read =>
    exact { follows with }
  | @documentRejected text trap e read =>
    have same : start.Follows log { s with page := { s.page with trap } } :=
      follows.keep rfl rfl rfl ⟨List.prefix_rfl, follows.sound.closed⟩
    exact { same with }
  | @thrown text trap source error page read failed =>
    have same : start.Follows log { s with page } :=
      follows.keep rfl failed.leads.setting failed.leads.found failed.kept
    exact { same with }
  | @shown text trap source page read mounted =>
    obtain ⟨tag, traits, initial, items, first, now, -⟩ := follows.content
    rw [← follows.root] at now
    have element : s.page.IsElement s.view.root.number := ⟨tag, traits, items, now⟩
    have shown : shownAfter start.view.policy ((.renderJson text trap, .ok ()) :: log) =
        some (s.view.policy, source) := by
      rw [shownAfter, read, follows.policy]
    refine ⟨mounted.sound follows.sound element, mounted.setting.trans follows.setting,
      follows.size.trans mounted.size_le, follows.root, follows.policy, ?_, ?_⟩
    · intro k old ne
      rw [← follows.root] at ne
      have unchanged := mounted.other (Nat.lt_of_lt_of_le old follows.size) ne
      refine unchanged.trans (follows.others k old ?_)
      rwa [← follows.root]
    · have held := mounted.element now
      rw [follows.root] at held
      refine ⟨tag, traits, initial, _, first, held, ?_⟩
      rw [shown]
      refine ⟨s.page.nodes.size, follows.size, rfl, ?_⟩
      rw [mounted.drop element.lt, mounted.setting, List.drop_left' Array.length_toList]

/-- A session follows its log. -/
theorem follows_run (sound : start.page.Sound)
    (element : start.page.IsElement start.view.root.number) (requests : List Request) :
    start.Follows (start.run requests).1 (start.run requests).2 := by
  induction requests with
  | nil => exact follows_start sound element
  | cons request earlier ih => exact ih.step (asked ih.sound request)

end Session

/-! ## The theorem -/

/-- **A view shows the last document that was shown without a failure.** Whatever is asked of a
view, and wherever the page throws, its policy is the one that was set last, and what stands in its
element are the nodes of the document that was shown last, rendered under the policy of that time.
-/
theorem session_follows {id : String} {policy : Policy} {p page : Page} {view : View}
    (sound : p.Sound) (built : View.build id policy p = .ok view page) (requests : List Request) :
    let start : Session := ⟨view, page⟩
    let (log, s) := start.run requests
    view.policy = policy ∧ start.Follows log s ∧ ∀ request, s.Heeds request := by
  obtain ⟨sound, element, same⟩ := View.build_ends sound built
  let start : Session := ⟨view, page⟩
  have follows : start.Follows (start.run requests).1 (start.run requests).2 :=
    Session.follows_run sound element requests
  exact ⟨same, follows, Session.heeds follows.sound⟩

/-- A page with one element in it. -/
def lobby : Page := { setting := { anchors := [⟨"app", "main", .html⟩] } }

/-- The page after its element has been found. -/
def foundLobby : Page :=
  { lobby with
    found := [("app", ⟨0, "main", .html, "app"⟩)]
    nodes := #[.element "main" [] [.initial]]
    calls := [.getElementById "app"] }

/-- A view of its element. -/
def lobbyView : View := ⟨⟨0, "main", .html, "app"⟩, .standard⟩

/-- Last of all, the page throws when a second paragraph is to be put together. -/
def visits : List Request := [
  .renderJson "\x7b\"p\":\"second\"\x7d" (some (1, .text "no more")),
  .setPolicy "[",
  .renderJson "\x7b\"p\":\"first\"\x7d" none]

/-- What the visits lead to. -/
def visited : Log × Session := Session.run ⟨lobbyView, foundLobby⟩ visits

/-- The element goes on showing the first paragraph. -/
theorem session_lobby :
    lobby.Sound ∧ View.build "app" .standard lobby = .ok lobbyView foundLobby ∧
      visited.1.map (·.2) = [.error (.exception "no more"),
        .error (.invalidDocument "EOF while parsing a list"), .ok ()] ∧
      visited.2.view.policy = .standard ∧
      ∃ items, visited.2.page.nodes[0]? = some (.element "main" [] items) ∧
        visited.2.page.Presents 1 [.initial] items
          (some (.standard, .mapping [("p", .text "first")])) := by
  have sound : lobby.Sound := Page.sound_of_fresh rfl rfl
  have built : View.build "app" .standard lobby = .ok lobbyView foundLobby := rfl
  have follows : Session.Follows ⟨lobbyView, foundLobby⟩ visited.1 visited.2 :=
    (session_follows sound built visits).2.1
  have outcomes : visited.1.map (·.2) = [.error (.exception "no more"),
      .error (.invalidDocument "EOF while parsing a list"), .ok ()] := by decide +kernel
  have log : visited.1 = visits.zip (visited.1.map (·.2)) := rfl
  rw [outcomes] at log
  have scanned : Json.scan "\x7b\"p\":\"first\"\x7d" =
      [.objectOpen, .scalar (.string "p"), .colon, .scalar (.string "first"), .objectClose] := by
    decide +kernel
  have read : Source.read "\x7b\"p\":\"first\"\x7d" = .ok (.mapping [("p", .text "first")]) := by
    rw [Source.read, Json.readWith, scanned]
    rfl
  have shown : shownAfter lobbyView.policy visited.1 =
      some (.standard, .mapping [("p", .text "first")]) := by
    rw [log]
    simp [visits, shownAfter, read, policyAfter, lobbyView]
  have policy : policyAfter lobbyView.policy visited.1 = .standard := by
    rw [log]
    rfl
  obtain ⟨tag, traits, initial, items, first, now, presents⟩ := follows.content
  dsimp only at presents
  rw [shown] at presents
  cases first
  exact ⟨sound, built, outcomes, follows.policy.trans policy, items, now, presents⟩

end JsonMarkup.Web
