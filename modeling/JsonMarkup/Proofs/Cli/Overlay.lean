import JsonMarkup.Proofs.Cli.Check
import JsonMarkup.Proofs.Cli.Words
import JsonMarkup.Proofs.Policy.Sets

/-!
# The policy of a command

What is said on a command line is laid over the policy of a file, or over the standard one. Tags are
added to the lists, and an include list comes to be with the first tag on it; what is said about
depth takes the place of the level that was there.

**Theorem (`effective_policy`).** The policy of a command lets a tag through just if neither the
file nor the command line excludes it, one of them includes it or neither includes anything, and it
does not stand too deep. The order of the arguments and repetitions among them make no difference.
-/

namespace JsonMarkup.Cli

open Policy (listed)

/-! ## Lists laid over each other -/

section

variable {tags? : Option TagSet} {more : List String} {tag : String}

theorem mem_listed_extendTags :
    tag ∈ listed (extendTags tags? more) ↔ tag ∈ listed tags? ∨ tag ∈ more := by
  rw [extendTags]
  cases more with
  | nil => simp
  | cons first rest =>
    have before : tag ∈ (tags?.getD .empty).tags ↔ tag ∈ listed tags? := by
      cases tags? <;> exact Iff.rfl
    rw [← before]
    exact TagSet.mem_insertAll

theorem listed_extendTags_eq_nil :
    listed (extendTags tags? more) = [] ↔ listed tags? = [] ∧ more = [] := by
  simp only [List.eq_nil_iff_forall_not_mem, mem_listed_extendTags, not_or, forall_and]

/-- Which tags are put on a list decides what it becomes. -/
theorem extendTags_congr {more' : List String} (same : ∀ tag, tag ∈ more ↔ tag ∈ more') :
    extendTags tags? more = extendTags tags? more' := by
  have nothing : more = [] ↔ more' = [] := by
    simp only [List.eq_nil_iff_forall_not_mem, same]
  simp only [extendTags, List.isEmpty_iff, nothing]
  split
  · rfl
  · exact congrArg some (TagSet.ext_of_mem fun t => by simp only [TagSet.mem_insertAll, same])

end

/-! ## What the policy of a command says -/

/-- The deepest level that renders: the one that is said, or the one of the policy below. -/
inductive Deepest (c : Policy) : DepthOption → Nat → Prop
  | said {n : Nat} : Deepest c (.limit n) n
  | unsaid {n : Nat} (below : c.maxDepth = some n) : Deepest c .unsaid n

/-- The tag is excluded in the policy below or by what is said. -/
def Excluded (c : Policy) (o : PolicyOptions) (tag : String) : Prop :=
  tag ∈ listed c.excluded ∨ tag ∈ o.excluded

/-- No tag is included anywhere, or this one is. -/
def Included (c : Policy) (o : PolicyOptions) (tag : String) : Prop :=
  (listed c.included = [] ∧ o.included = []) ∨ tag ∈ listed c.included ∨ tag ∈ o.included

/-- The policy `p` judges as `c` does with `o` laid over it. -/
structure Governs (c : Policy) (o : PolicyOptions) (p : Policy) : Prop where
  accepts : ∀ tag depth, p.check tag depth = .ok () ↔
    ¬ Excluded c o tag ∧ Included c o tag ∧ ∀ n, Deepest c o.depth n → depth ≤ n
  excludes : ∀ tag depth, p.check tag depth = .error (.excluded tag) ↔ Excluded c o tag
  omits : ∀ tag depth, p.check tag depth = .error (.notIncluded tag) ↔
    ¬ Excluded c o tag ∧ ¬ Included c o tag
  limits : ∀ tag depth n, p.check tag depth = .error (.tooDeep depth n) ↔
    ¬ Excluded c o tag ∧ Included c o tag ∧ Deepest c o.depth n ∧ n < depth

/-- The same is said about everything, in whatever order and however often. -/
structure SameFlags (o o' : PolicyOptions) : Prop where
  file : o.file? = o'.file?
  included : ∀ tag, tag ∈ o.included ↔ tag ∈ o'.included
  excluded : ∀ tag, tag ∈ o.excluded ↔ tag ∈ o'.excluded
  depth : o.depth = o'.depth

section

variable {c : Policy} {o o' : PolicyOptions} {tag : String} {n : Nat}

theorem excludes_overlay : (o.overlay c).excludes tag = true ↔ Excluded c o tag := by
  rw [Policy.excludes_iff]
  exact mem_listed_extendTags

theorem omits_overlay : (o.overlay c).omits tag = true ↔ ¬ Included c o tag := by
  rw [Policy.omits_iff, Included, ← mem_listed_extendTags, ← listed_extendTags_eq_nil, not_or]
  rfl

theorem maxDepth_overlay : (o.overlay c).maxDepth = some n ↔ Deepest c o.depth n := by
  rw [PolicyOptions.overlay]
  dsimp only
  cases o.depth with
  | unsaid =>
    constructor
    · exact .unsaid
    · rintro ⟨⟩
      assumption
  | limit maxDepth =>
    constructor
    · rintro ⟨⟩
      exact .said
    · rintro ⟨⟩
      rfl
  | unlimited => exact iff_of_false nofun nofun

theorem governs_overlay (c : Policy) (o : PolicyOptions) : Governs c o (o.overlay c) := by
  have passes : ∀ tag, (o.overlay c).excludes tag = false ↔ ¬ Excluded c o tag := fun tag => by
    rw [← Bool.not_eq_true, excludes_overlay]
  have listed : ∀ tag, (o.overlay c).omits tag = false ↔ Included c o tag := fun tag => by
    rw [← Bool.not_eq_true, omits_overlay, not_not]
  constructor
  · intro tag depth
    simp only [Policy.check_eq_ok, passes, listed, maxDepth_overlay]
  · intro tag depth
    rw [Policy.check_eq_excluded, excludes_overlay]
  · intro tag depth
    rw [Policy.check_eq_notIncluded, passes, omits_overlay]
  · intro tag depth n
    rw [Policy.check_eq_tooDeep, passes, listed, maxDepth_overlay]

theorem SameFlags.overlay_eq (same : SameFlags o o') : o.overlay = o'.overlay := by
  funext c
  rw [PolicyOptions.overlay, PolicyOptions.overlay, extendTags_congr same.included,
    extendTags_congr same.excluded, same.depth]

/-- What is said decides about the policy, and about whether there is one. -/
theorem SameFlags.resolve_eq {m : Type → Type} [Monad m] (same : SameFlags o o') (host : Host m) :
    o.resolve host = o'.resolve host := by
  rw [PolicyOptions.resolve, PolicyOptions.resolve, same.file, same.overlay_eq]

theorem Asks.sameFlags {said said' : List Said} (asks : Asks said o) (asks' : Asks said' o')
    (same : ∀ s, s ∈ said' ↔ s ∈ said) : SameFlags o o' where
  file := Option.ext fun path => by rw [asks.file, asks'.file, same]
  included tag := by rw [asks.included, asks'.included, same]
  excluded tag := by rw [asks.excluded, asks'.excluded, same]
  depth := by
    have limit : ∀ n, o.depth = .limit n ↔ o'.depth = .limit n := fun n => by
      rw [asks.limit, asks'.limit, same]
    have unlimited : o.depth = .unlimited ↔ o'.depth = .unlimited := by
      rw [asks.unlimited, asks'.unlimited, same]
    cases depth : o'.depth with
    | limit n => exact (limit n).mpr depth
    | unlimited => exact unlimited.mpr depth
    | unsaid =>
      rw [depth] at limit unlimited
      cases said : o.depth with
      | limit n => cases (limit n).mp said
      | unlimited => cases unlimited.mp said
      | unsaid => rfl

/-- The policy below what is said: that of the file, if there is one and it can be read. -/
def Folder.base? (f : Folder) (o : PolicyOptions) : Option Policy :=
  match o.file? with
  | some path => (f.read path).bind (readPolicy? path)
  | none => some .standard

theorem Folder.policy?_of_base? {f : Folder} (h : f.base? o = some c) :
    f.policy? o = some (o.overlay c) := by
  rw [base?] at h
  rw [policy?]
  cases file : o.file? with
  | some path =>
    rw [file] at h
    dsimp only at h ⊢
    rw [h]
    rfl
  | none =>
    rw [file] at h
    cases h
    rfl

end

/-! ## The theorem -/

/-- **The effective policy.** What a command's policy lets through and why it refuses what it
refuses, what of the options it depends on, and how the options come from the command line. -/
theorem effective_policy :
    (∀ (f : Folder) (input : String) (o : PolicyOptions) (c : Policy), f.base? o = some c →
      ∃ p, (o.resolve (Folder.host input)).run.run f = (.ok p, f) ∧ Governs c o p) ∧
    (∀ (f : Folder) (input : String) (o o' : PolicyOptions), SameFlags o o' →
      (o.resolve (Folder.host input)).run.run f = (o'.resolve (Folder.host input)).run.run f) ∧
    (∀ (verb : Verb) (said : List Said) (args : List String), Sensible said → Words said args →
      ∃ c, Request.ofArguments (verb.name :: args) = .ok (.run c) ∧ Asks said c.policy ∧
        ∀ (verb' : Verb) (said' : List Said) (args' : List String), Sensible said' →
          Words said' args' → (∀ s, s ∈ said' ↔ s ∈ said) →
          ∃ c', Request.ofArguments (verb'.name :: args') = .ok (.run c') ∧
            SameFlags c.policy c'.policy) ∧
    ∀ (verb : Verb) (said : List Said) (args : List String) (n : Nat),
      (said.Pairwise fun s t => ¬ s.Rivals t) → (∃ path, .input path ∈ said) → .limit n ∈ said →
      .unlimited ∈ said → Words said args →
      Request.ofArguments (verb.name :: args) = .error .conflictingDepths := by
  refine ⟨?_, ?_, ?_, ?_⟩
  · intro f input o c base
    exact ⟨_, Folder.run_resolve (Folder.policy?_of_base? base), governs_overlay c o⟩
  · intro f input o o' same
    rw [same.resolve_eq]
  · intro verb said args sensible words
    obtain ⟨c, read, asks⟩ := ofArguments_words verb sensible words
    refine ⟨c, read, asks, fun verb' said' args' sensible' words' same => ?_⟩
    obtain ⟨c', read', asks'⟩ := ofArguments_words verb' sensible' words'
    exact ⟨c', read', asks.sameFlags asks' same⟩
  · intro verb said args n once document limited unlimited words
    exact ofArguments_conflict verb once document limited unlimited words

/-- A folder with a policy that excludes scripts, includes nothing and limits no depth. -/
def siteFolder : Folder :=
  .ofList [("site.json",
    "\x7b\"includedTags\":[],\"excludedTags\":[\"script\"],\"maxDepth\":null\x7d")]

def sitePolicy : Policy where
  included := some .empty
  excluded := some (.ofList ["script"])
  maxDepth := none

/-- What is said about a page, with a repetition. -/
def saidOfPage : List Said :=
  [.excluded "iframe", .included "p", .file "site.json", .limit 2, .input "page.json",
    .included "p"]

/-- The same in another order and without the repetition. -/
def saidAgain : List Said :=
  [.input "page.json", .limit 2, .included "p", .file "site.json", .excluded "iframe"]

theorem sensible_saidOfPage : Sensible saidOfPage where
  once := by simp [saidOfPage, Said.Rivals]
  document := ⟨"page.json", by simp [saidOfPage]⟩
  oneDepth := by simp [saidOfPage]

theorem sensible_saidAgain : Sensible saidAgain where
  once := by simp [saidAgain, Said.Rivals]
  document := ⟨"page.json", by simp [saidAgain]⟩
  oneDepth := by simp [saidAgain]

theorem words_saidOfPage : Words saidOfPage ["--exclude=iframe", "--include", "p", "--config",
    "site.json", "--max-depth=+2", "page.json", "--include=p"] := by
  have signed : depth? "+2" = some 2 := by decide
  exact .cons (.excluded .joined) <| .cons (.included (.apart (by decide))) <|
    .cons (.file (by decide) (.apart (by decide))) <| .cons (.limit signed .joined) <|
    .cons (.input (by decide) (by decide)) <| .cons (.included .joined) .nil

theorem words_saidAgain : Words saidAgain ["page.json", "--max-depth", "2", "--include=p",
    "--config=site.json", "--exclude", "iframe"] := by
  have plain : depth? "2" = some 2 := by decide
  exact .cons (.input (by decide) (by decide)) <| .cons (.limit plain (.apart (by decide))) <|
    .cons (.included .joined) <| .cons (.file (by decide) .joined) <|
    .cons (.excluded (.apart (by decide))) .nil

/-- Both command lines are read, and the policy refuses for each of its reasons. Without limit and
with one at once, the command line is refused. -/
theorem effective_site :
    (∃ c c' p, Request.ofArguments ["check", "--exclude=iframe", "--include", "p", "--config",
        "site.json", "--max-depth=+2", "page.json", "--include=p"] = .ok (.run c) ∧
      Request.ofArguments ["render", "page.json", "--max-depth", "2", "--include=p",
        "--config=site.json", "--exclude", "iframe"] = .ok (.run c') ∧
      (c.policy.resolve (Folder.host "")).run.run siteFolder = (.ok p, siteFolder) ∧
      (c'.policy.resolve (Folder.host "")).run.run siteFolder = (.ok p, siteFolder) ∧
      p.check "p" 2 = .ok () ∧ p.check "script" 3 = .error (.excluded "script") ∧
      p.check "div" 3 = .error (.notIncluded "div") ∧ p.check "p" 3 = .error (.tooDeep 3 2)) ∧
    Request.ofArguments ["check", "page.json", "--max-depth=2", "--unlimited-depth"] =
      .error .conflictingDepths := by
  obtain ⟨governed, sameFlags, read, conflict⟩ := effective_policy
  have same : ∀ s, s ∈ saidAgain ↔ s ∈ saidOfPage := by
    intro s
    simp only [saidAgain, saidOfPage, List.mem_cons, List.not_mem_nil, or_false]
    tauto
  obtain ⟨c, command, asks, others⟩ := read .check _ _ sensible_saidOfPage words_saidOfPage
  obtain ⟨c', command', flags⟩ := others .render _ _ sensible_saidAgain words_saidAgain same
  have file : c.policy.file? = some "site.json" := (asks.file _).mpr (by simp [saidOfPage])
  have base : siteFolder.base? c.policy = some sitePolicy := by
    rw [Folder.base?, file]
    decide +kernel
  obtain ⟨p, resolved, governs⟩ := governed siteFolder "" c.policy sitePolicy base
  have resolved' := (sameFlags siteFolder "" _ _ flags).symm.trans resolved
  have limit : c.policy.depth = .limit 2 := (asks.limit 2).mpr (by simp [saidOfPage])
  have deepest : ∀ n, Deepest sitePolicy c.policy.depth n ↔ n = 2 := by
    intro n
    rw [limit]
    constructor
    · rintro ⟨⟩
      rfl
    · rintro rfl
      exact .said
  have excluded : ∀ tag, Excluded sitePolicy c.policy tag ↔ tag = "script" ∨ tag = "iframe" := by
    intro tag
    rw [Excluded, asks.excluded]
    simp [saidOfPage, sitePolicy, listed, TagSet.ofList, TagSet.insertAll, TagSet.insert,
      insertTag, TagSet.empty]
  have included : ∀ tag, Included sitePolicy c.policy tag ↔ tag = "p" := by
    intro tag
    have some : c.policy.included ≠ [] :=
      List.ne_nil_of_mem ((asks.included "p").mpr (by simp [saidOfPage]))
    rw [Included, asks.included]
    simp [saidOfPage, sitePolicy, listed, TagSet.empty, some]
  refine ⟨⟨c, c', p, command, command', resolved, resolved', ?_, ?_, ?_, ?_⟩, ?_⟩
  · simp [governs.accepts, excluded, included, deepest]
  · simp [governs.excludes, excluded]
  · simp [governs.omits, excluded, included]
  · simp [governs.limits, excluded, included, deepest]
  · refine conflict .check [.input "page.json", .limit 2, .unlimited] _ 2 ?_ ?_ ?_ ?_ ?_
    · simp [Said.Rivals]
    · exact ⟨"page.json", by simp⟩
    · simp
    · simp
    · have plain : depth? "2" = some 2 := by decide
      exact .cons (.input (by decide) (by decide)) <| .cons (.limit plain .joined) <|
        .cons .unlimited .nil

end JsonMarkup.Cli
