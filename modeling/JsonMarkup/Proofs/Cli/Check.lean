import JsonMarkup.Cli.Folder
import JsonMarkup.Proofs.Node.Located
import JsonMarkup.Proofs.Render.Unambiguous

/-!
# Checking a document

A check and a rendering read the same policy and the same document, and so they speak of the same
nodes.

**Theorem (`diagnostics_located`).** Diagnostics list all error nodes in document order, each with
the tags that it stands in. The path of an error node that has been rendered names these tags: none
of them holds a blank, so splitting it at the arrows gives them back. A check succeeds just if there
is no error node anywhere, and otherwise prints all diagnostics and fails with their number; a
rendering warns of the same number.
-/

namespace JsonMarkup.Cli

open Render

/-! ## What is read -/

namespace Folder

/-- The policy that is asked for, if its file is there and can be read. -/
def policy? (f : Folder) (o : PolicyOptions) : Option Policy :=
  match o.file? with
  | some path => ((f.read path).bind (readPolicy? path)).map o.overlay
  | none => some (o.overlay .standard)

/-- The document at a path or on standard input, if it is there and can be read. -/
def document? (f : Folder) (input path : String) : Option Source :=
  (if Path.isStandardInput path then some input else f.read path).bind fun text =>
    (Source.read text).toOption

variable {f : Folder} {input path : String}

theorem run_bind_of_ok {α β : Type} {x : ExceptT Failure (StateM Folder) α}
    {k : α → ExceptT Failure (StateM Folder) β} {a : α} {f' : Folder}
    (h : x.run.run f = (.ok a, f')) : (x >>= k).run.run f = (k a).run.run f' := by
  rw [ExceptT.run_bind, StateT.run_bind, h]
  rfl

theorem run_policyFile {policy : Policy} (h : (f.read path).bind (readPolicy? path) = some policy) :
    (policyFile (host input) path).run.run f = (.ok policy, f) := by
  obtain ⟨text, found, parsed⟩ := Option.bind_eq_some_iff.mp h
  have read : (ExceptT.lift ((host input).readFile path) : ExceptT Failure _ _).run.run f =
      (.ok (some text), f) := by
    rw [← found]
    rfl
  rw [policyFile, run_bind_of_ok read]
  dsimp only
  rw [parsed]
  rfl

theorem run_resolve {o : PolicyOptions} {policy : Policy} (h : f.policy? o = some policy) :
    (o.resolve (host input)).run.run f = (.ok policy, f) := by
  rw [policy?] at h
  rw [PolicyOptions.resolve]
  cases file : o.file? with
  | some path =>
    rw [file] at h
    obtain ⟨asked, read, rfl⟩ := Option.map_eq_some_iff.mp h
    exact run_bind_of_ok (run_policyFile read)
  | none =>
    rw [file] at h
    cases h
    rfl

theorem run_documentText {text : String}
    (h : (if Path.isStandardInput path then some input else f.read path) = some text) :
    (documentText (host input) path).run.run f = (.ok text, f) := by
  rw [documentText]
  split at h
  · cases h
    rename_i standard
    rw [if_pos standard]
    rfl
  · rename_i file
    have read : (ExceptT.lift ((host input).readFile path) : ExceptT Failure _ _).run.run f =
        (.ok (some text), f) := by
      rw [← h]
      rfl
    rw [if_neg file, run_bind_of_ok read]
    rfl

theorem run_document {source : Source} (h : f.document? input path = some source) :
    (document (host input) path).run.run f = (.ok source, f) := by
  obtain ⟨text, found, parsed⟩ := Option.bind_eq_some_iff.mp h
  rw [document, run_bind_of_ok (run_documentText found)]
  cases read : Source.read text with
  | ok s =>
    rw [read] at parsed
    cases parsed
    rfl
  | error e =>
    rw [read] at parsed
    cases parsed

/-- What can be read is rendered, and the folder stays as it is. -/
theorem run_nodes {c : Command} {policy : Policy} {source : Source}
    (hpolicy : f.policy? c.policy = some policy)
    (hsource : f.document? input c.input = some source) :
    (c.nodes (host input)).run.run f = (.ok (renderNodes policy source), f) := by
  rw [Command.nodes, run_bind_of_ok (run_resolve hpolicy), run_bind_of_ok (run_document hsource)]
  rfl

end Folder

/-! ## What is reported -/

section

variable {f : Folder} {input path : String} {options : PolicyOptions} {policy : Policy}
  {source : Source}

/-- A check reports on what is rendered. -/
theorem run_check (hpolicy : f.policy? options = some policy)
    (hsource : f.document? input path = some source) :
    (Command.run (Folder.host input) ⟨path, options, .check⟩).run f =
      (checkReport (renderNodes policy source), f) := by
  have nodes := Folder.run_nodes (c := ⟨path, options, .check⟩) hpolicy hsource
  rw [Command.run, StateT.run_bind, nodes]
  rfl

/-- Nodes are written with a warning of the error nodes among them, whether or not there is a way to
the file. -/
theorem errorNodes?_write (nodes : List Node) (format : Format) (output? : Option String) :
    ((write (Folder.host input) nodes format output?).run f).1.errorNodes? =
      errorCount? nodes := by
  cases output? with
  | none => rfl
  | some file =>
    have written : ((Folder.host input).writeFile file (format.write nodes)).run f =
        (f.write file (format.write nodes)).elim (false, f) (true, ·) := by
      simp only [Folder.host, StateT.run_bind, StateT.run_get, pure_bind]
      cases f.write file (format.write nodes) <;> rfl
    rw [write, StateT.run_bind, written]
    cases f.write file (format.write nodes) <;> rfl

/-- A rendering warns of the error nodes among what it renders. -/
theorem run_render (hpolicy : f.policy? options = some policy)
    (hsource : f.document? input path = some source) (format : Format) (output? : Option String) :
    ((Command.run (Folder.host input)
        ⟨path, options, .render format output?⟩).run f).1.errorNodes? =
      errorCount? (renderNodes policy source) := by
  have nodes := Folder.run_nodes (c := ⟨path, options, .render format output?⟩) hpolicy hsource
  rw [Command.run, StateT.run_bind, nodes]
  exact errorNodes?_write _ format output?

end

/-- A check fails just if there are diagnostics, prints them all and gives their number. -/
theorem checkReport_cases (nodes : List Node) :
    (diagnosticsOf nodes = [] ∧ (checkReport nodes).status = .success) ∨
      (diagnosticsOf nodes ≠ [] ∧
        (checkReport nodes).output = String.join ((diagnosticsOf nodes).map diagnosticLine) ∧
        (checkReport nodes).status = .failed (.fragments (diagnosticsOf nodes).length)) := by
  rw [checkReport]
  split
  · rename_i none
    exact .inl ⟨none, rfl⟩
  · rename_i some
    exact .inr ⟨some, rfl, rfl⟩

theorem errorCount?_eq (nodes : List Node) : errorCount? nodes =
    if diagnosticsOf nodes = [] then none else some (diagnosticsOf nodes).length := by
  rw [errorCount?]
  split
  · rename_i none
    rw [if_pos none]
  · rename_i some
    rw [if_neg some]

/-! ## The theorem -/

/-- **Diagnostics are complete, in order and located.** Those of a node list its error nodes. The
path of an error node in a rendering tells the tags around it, and is empty just at the top level. A
check that can read its policy and its document changes nothing, succeeds just if no error node has
been rendered, and otherwise prints all diagnostics and fails with their number, of which every
rendering warns. -/
theorem diagnostics_located :
    (∀ n : Node, ListsInOrder n.ErrorAt n.diagnostics) ∧
    (∀ policy source n, Rendered policy source n → ∀ place ancestors message,
      n.ErrorAt place ancestors message →
        (place = [] ↔ " > ".intercalate ancestors = "") ∧
        (place ≠ [] → splitPath (" > ".intercalate ancestors) = ancestors)) ∧
    ∀ f input path options policy source, Folder.policy? f options = some policy →
      f.document? input path = some source →
      ∃ ds check, ListsInOrder (ErrorAmong (renderNodes policy source)) ds ∧
        (Command.run (Folder.host input) ⟨path, options, .check⟩).run f = (check, f) ∧
        (check.status = .success ↔ ∀ place ancestors message,
          ¬ ErrorAmong (renderNodes policy source) place ancestors message) ∧
        (check.status ≠ .success → check.output = String.join (ds.map diagnosticLine) ∧
          check.status = .failed (.fragments ds.length)) ∧
        ∀ format output?, ((Command.run (Folder.host input)
          ⟨path, options, .render format output?⟩).run f).1.errorNodes? =
            if ds = [] then none else some ds.length := by
  refine ⟨lists_diagnostics, ?_, ?_⟩
  · intro policy source n rendered place ancestors message h
    have named := isName_of_errorAt h (wellNamed_of_soundAt rendered.sound)
    have top := ancestors_eq_nil_iff h
    refine ⟨top.symm.trans (intercalate_eq_empty_iff named).symm, fun below => ?_⟩
    exact splitPath_intercalate named (top.not.mpr below)
  · intro f input path options policy source hpolicy hsource
    have listed := lists_diagnosticsAmong (renderNodes policy source)
    refine ⟨_, _, listed, run_check hpolicy hsource, ?_, ?_, ?_⟩
    · rw [← listed.eq_nil_iff]
      rcases checkReport_cases (renderNodes policy source) with ⟨none, passed⟩ | ⟨some, -, failed⟩
      · exact iff_of_true passed none
      · rw [failed]
        exact iff_of_false nofun some
    · intro fails
      rcases checkReport_cases (renderNodes policy source) with ⟨-, passed⟩ | ⟨-, printed⟩
      · exact absurd passed fails
      · exact printed
    · intro format output?
      exact (run_render hpolicy hsource format output?).trans (errorCount?_eq _)

/-- A list with something in it that cannot be rendered. -/
def brokenList : String := "\x7b\"ul\":\x7b\"li\":\x7b\"b\":null\x7d\x7d\x7d"

/-- What is rendered of it. -/
def brokenNode : Node := .element "ul" .empty .empty
  [.element "li" .empty .empty [.error "Cannot render 'null' as content of tag 'b'"]]

/-- The error node is found, its path is split again, and the check fails. -/
theorem check_brokenList :
    let source := Source.mapping [("ul", .mapping [("li", .mapping [("b", .ready .null)])])]
    Folder.policy? ⟨[]⟩ {} = some .standard ∧
      Folder.document? ⟨[]⟩ brokenList "-" = some source ∧
      Rendered .standard source brokenNode ∧
      brokenNode.ErrorAt [0, 0] ["ul", "li"]
        "Cannot render 'null' as content of tag 'b'" ∧
      splitPath "ul > li" = ["ul", "li"] ∧
      ∃ check, (Command.run (Folder.host brokenList) ⟨"-", {}, .check⟩).run ⟨[]⟩ = (check, ⟨[]⟩) ∧
        ∃ k, check.status = .failed (.fragments k) := by
  intro source
  have scanned : Json.scan brokenList = [.objectOpen, .scalar (.string "ul"), .colon, .objectOpen,
      .scalar (.string "li"), .colon, .objectOpen, .scalar (.string "b"), .colon, .scalar .null,
      .objectClose, .objectClose, .objectClose] := by
    decide +kernel
  have read : Folder.document? ⟨[]⟩ brokenList "-" = some source := by
    have parsed : Source.read brokenList = .ok source := by
      rw [Source.read, Json.readWith, scanned]
      rfl
    have standard : Path.isStandardInput "-" = true := by decide
    rw [Folder.document?, if_pos standard, Option.bind_some, parsed]
    rfl
  have nodes : renderNodes .standard source = [brokenNode] := by
    rw [renderNodes_eq_fragment fun _ => rfl]
    rfl
  have rendered : Rendered .standard source brokenNode := by
    refine .inr ?_
    rw [nodes]
    exact List.mem_singleton_self _
  have found : brokenNode.ErrorAt [0, 0] ["ul", "li"] _ := .within rfl (.within rfl .here)
  obtain ⟨-, located, checked⟩ := diagnostics_located
  obtain ⟨-, back⟩ := located _ _ _ rendered _ _ _ found
  obtain ⟨ds, check, -, run, passes, failed, -⟩ :=
    checked ⟨[]⟩ brokenList "-" {} .standard source rfl read
  have fails : check.status ≠ .success := by
    rw [Ne, passes, nodes]
    exact fun none => none _ _ _ ⟨0, _, _, rfl, rfl, found⟩
  exact ⟨rfl, read, rendered, found, back (by simp), check, run, _, (failed fails).2⟩

end JsonMarkup.Cli
