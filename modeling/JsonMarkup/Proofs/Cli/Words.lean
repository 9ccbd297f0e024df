import JsonMarkup.Cli.Arguments
import Mathlib.Data.List.TakeWhile

/-!
# What is said on a command line

Behind its verb a command line says things about the policy and names the document, each in one
argument or in two. `Words` is the relation between what is said and the arguments; it says nothing
about how arguments are read.

**Theorem** (`ofArguments_words`). Arguments in which nothing is said twice that may be said once,
and depth is not both limited and unlimited, are read as the command that was asked for, in
whatever order they stand (`ofArguments_conflict` for both).
-/

namespace JsonMarkup.Cli

/-! ## Words -/

/-- Something that is said behind the verb. -/
inductive Said where
  | included (tag : String)
  | excluded (tag : String)
  | limit (maxDepth : Nat)
  | unlimited
  /-- The path of the policy. -/
  | file (path : String)
  /-- The path of the document. -/
  | input (path : String)

/-- How an option may be given a value. -/
inductive Gives (o : Flag) (value : String) : List String → Prop
  | joined : Gives o value ["--" ++ o.name ++ "=" ++ value]
  | apart (plain : Stage.looksLikeOption value = false) : Gives o value ["--" ++ o.name, value]

/-- How something may be said. -/
inductive Spells : Said → List String → Prop
  | included {tag : String} {args : List String} (given : Gives .included tag args) :
    Spells (.included tag) args
  | excluded {tag : String} {args : List String} (given : Gives .excluded tag args) :
    Spells (.excluded tag) args
  | limit {n : Nat} {text : String} {args : List String} (value : depth? text = some n)
    (given : Gives .maxDepth text args) : Spells (.limit n) args
  | unlimited : Spells .unlimited ["--unlimited-depth"]
  | file {path : String} {args : List String} (named : path ≠ "")
      (given : Gives .config path args) :
    Spells (.file path) args
  | input {path : String} (named : path ≠ "") (plain : Stage.looksLikeOption path = false) :
    Spells (.input path) [path]

/-- How things may be said one after the other. -/
inductive Words : List Said → List String → Prop
  | nil : Words [] []
  | cons {s : Said} {said : List Said} {word args : List String} (first : Spells s word)
    (rest : Words said args) : Words (s :: said) (word ++ args)

/-- Both say something of which there may be one. -/
def Said.Rivals : Said → Said → Prop
  | .limit _, .limit _ => True
  | .unlimited, .unlimited => True
  | .file _, .file _ => True
  | .input _, .input _ => True
  | _, _ => False

/-- The things may be said together: a document is named, and depth is not both limited and
unlimited. -/
structure Sensible (said : List Said) : Prop where
  once : said.Pairwise fun s t => ¬ s.Rivals t
  document : ∃ path, .input path ∈ said
  oneDepth : ∀ n, .limit n ∈ said → .unlimited ∉ said

/-- The options are those that were asked for. -/
structure Asks (said : List Said) (o : PolicyOptions) : Prop where
  file : ∀ path, o.file? = some path ↔ .file path ∈ said
  included : ∀ tag, tag ∈ o.included ↔ .included tag ∈ said
  excluded : ∀ tag, tag ∈ o.excluded ↔ .excluded tag ∈ said
  limit : ∀ n, o.depth = .limit n ↔ .limit n ∈ said
  unlimited : o.depth = .unlimited ↔ .unlimited ∈ said

/-! ## Reading one of them -/

section

variable {d : Draft} {o : Flag} {arg value : String} {args text : List String}

theorem advance_long {name : List Char} (some : name ≠ [])
    (dashes : arg.toList = '-' :: '-' :: name) :
    Stage.advance (.options d) arg = Stage.longOption d name := by
  cases name with
  | nil => exact absurd rfl some
  | cons c rest =>
    rw [Stage.advance, dashes]
    rfl

theorem noEquals (o : Flag) : ∀ c ∈ o.name.toList, decide (c ≠ '=') = true := by
  have all : o.name.toList.all (fun c => decide (c ≠ '=')) = true := by cases o <;> rfl
  exact List.all_eq_true.mp all

theorem longOption_joined (known : Flag.ofName? d.verb o.name = some o)
    (valued : o.hasValue = true) :
    Stage.longOption d (o.name.toList ++ '=' :: value.toList) = .options <$> d.give o value := by
  have name : (o.name.toList ++ '=' :: value.toList).takeWhile (· ≠ '=') = o.name.toList := by
    rw [List.takeWhile_append_of_pos (noEquals o), List.takeWhile_cons_of_neg (by decide),
      List.append_nil]
  have given :
      (o.name.toList ++ '=' :: value.toList).dropWhile (· ≠ '=') = '=' :: value.toList := by
    rw [List.dropWhile_append_of_pos (noEquals o), List.dropWhile_cons_of_neg (by decide)]
  rw [Stage.longOption, name, given, String.ofList_toList, known]
  simp only [valued, if_true, String.ofList_toList]

theorem longOption_apart (known : Flag.ofName? d.verb o.name = some o) :
    Stage.longOption d o.name.toList =
      if o.hasValue then .ok (.value d o) else .options <$> d.raise o := by
  have name : o.name.toList.takeWhile (· ≠ '=') = o.name.toList :=
    List.takeWhile_eq_self_iff.mpr (noEquals o)
  have given : o.name.toList.dropWhile (· ≠ '=') = [] := List.dropWhile_eq_nil_iff.mpr (noEquals o)
  rw [Stage.longOption, name, given, String.ofList_toList, known]

theorem name_ne_nil (o : Flag) : o.name.toList ≠ [] := by
  cases o <;> decide

/-- An option that is given a value takes it, in whichever way. -/
theorem foldlM_gives (given : Gives o value args) (known : Flag.ofName? d.verb o.name = some o)
    (valued : o.hasValue = true) :
    args.foldlM Stage.advance (.options d) = .options <$> d.give o value := by
  cases given with
  | joined =>
    have dashes : ("--" ++ o.name ++ "=" ++ value).toList =
        '-' :: '-' :: (o.name.toList ++ '=' :: value.toList) := by
      simp only [String.toList_append, List.append_assoc]
      rfl
    have some : o.name.toList ++ '=' :: value.toList ≠ [] :=
      List.append_ne_nil_of_left_ne_nil (name_ne_nil o) _
    rw [List.foldlM_cons, advance_long some dashes, longOption_joined known valued]
    simp
  | apart plain =>
    have dashes : ("--" ++ o.name).toList = '-' :: '-' :: o.name.toList := by
      rw [String.toList_append]
      rfl
    rw [List.foldlM_cons, advance_long (name_ne_nil o) dashes, longOption_apart known,
      if_pos valued]
    show [value].foldlM Stage.advance (.value d o) = _
    rw [List.foldlM_cons, Stage.advance, if_neg (by rw [plain]; decide)]
    simp

theorem advance_unlimited (d : Draft) :
    Stage.advance (.options d) "--unlimited-depth" = .options <$> d.raise .unlimitedDepth := by
  have known : Flag.ofName? d.verb Flag.unlimitedDepth.name = some .unlimitedDepth := by
    cases d.verb <;> decide
  exact (advance_long (by decide) rfl).trans (longOption_apart known)

theorem advance_input (plain : Stage.looksLikeOption arg = false) :
    Stage.advance (.options d) arg = .options <$> d.giveInput arg := by
  -- What begins with a dash is a dash alone.
  have noOption : ∀ c rest, arg.toList ≠ '-' :: c :: rest := by
    intro c rest dashes
    obtain rfl : arg = "-" := by simpa [Stage.looksLikeOption, dashes] using plain
    cases dashes
  rw [Stage.advance]
  split
  · rename_i dashes
    exact absurd dashes (noOption _ _)
  · rename_i dashes
    exact absurd dashes (noOption _ _)
  · rename_i dashes
    exact absurd dashes (noOption _ _)
  · rfl

/-! ## What has been heard -/

/-- What is in a draft has been said, and what has been said is in it. -/
structure Heard (d : Draft) (said : List Said) : Prop where
  file : ∀ path, d.file? = some path ↔ .file path ∈ said
  included : ∀ tag, tag ∈ d.included ↔ .included tag ∈ said
  excluded : ∀ tag, tag ∈ d.excluded ↔ .excluded tag ∈ said
  limit : ∀ n, d.maxDepth? = some n ↔ .limit n ∈ said
  unlimited : d.unlimited = true ↔ .unlimited ∈ said
  input : ∀ path, d.input? = some path ↔ .input path ∈ said

theorem heard_nothing (verb : Verb) : Heard { verb } [] := by
  constructor <;> simp

theorem eq_none_of_unsaid {α : Type} {x? : Option α} {P : α → Prop} (heard : ∀ x, x? = some x ↔ P x)
    (unsaid : ∀ x, ¬ P x) : x? = none :=
  Option.eq_none_iff_forall_ne_some.mpr fun x found => unsaid x ((heard x).mp found)

theorem give_single {α : Type} {x? : Option α} {meaning : String → Option α} {x : α}
    (unsaid : x? = none) (value : meaning arg = some x) :
    Draft.single o x? meaning arg = .ok (some x) := by
  rw [Draft.single, unsaid, value]
  rfl

theorem path?_of_ne (named : arg ≠ "") : path? arg = some arg := if_neg named

/-- One more thing is heard, unless it has a rival. -/
theorem Heard.spells {said : List Said} {s : Said} (heard : Heard d said) (spelled : Spells s args)
    (fresh : ∀ t ∈ said, ¬ t.Rivals s) :
    ∃ d', args.foldlM Stage.advance (.options d) = .ok (.options d') ∧ d'.verb = d.verb ∧
      Heard d' (said ++ [s]) := by
  obtain ⟨file, included, excluded, limit, unlimited, input⟩ := heard
  cases spelled with
  | included given =>
    refine ⟨_, foldlM_gives given (by cases d.verb <;> decide) rfl, rfl, ?_⟩
    constructor <;> simp [file, included, excluded, limit, unlimited, input, or_comm]
  | excluded given =>
    refine ⟨_, foldlM_gives given (by cases d.verb <;> decide) rfl, rfl, ?_⟩
    constructor <;> simp [file, included, excluded, limit, unlimited, input, or_comm]
  | limit value given =>
    rename_i n text
    have others : ∀ m, .limit m ∉ said := fun m mem => fresh (.limit m) mem trivial
    have taken : d.give .maxDepth text = .ok { d with maxDepth? := some n } := by
      rw [Draft.give, give_single (eq_none_of_unsaid limit others) value]
      rfl
    have ran := foldlM_gives given (by cases d.verb <;> decide) rfl
    rw [taken] at ran
    refine ⟨_, ran, rfl, ?_⟩
    constructor <;> simp [file, included, excluded, others, unlimited, input]
    exact fun m => eq_comm
  | unlimited =>
    have others : .unlimited ∉ said := fun mem => fresh .unlimited mem trivial
    have unsaid : ¬ d.unlimited = true := unlimited.not.mpr others
    have ran : ["--unlimited-depth"].foldlM Stage.advance (.options d) =
        .ok (.options { d with unlimited := true }) := by
      rw [List.foldlM_cons, advance_unlimited, Draft.raise, if_neg unsaid]
      rfl
    refine ⟨_, ran, rfl, ?_⟩
    constructor <;> simp [file, included, excluded, limit, input]
  | file named given =>
    rename_i path
    have others : ∀ p, .file p ∉ said := fun p mem => fresh (.file p) mem trivial
    have taken : d.give .config path = .ok { d with file? := some path } := by
      rw [Draft.give, give_single (eq_none_of_unsaid file others) (path?_of_ne named)]
      rfl
    have ran := foldlM_gives given (by cases d.verb <;> decide) rfl
    rw [taken] at ran
    refine ⟨_, ran, rfl, ?_⟩
    constructor <;> simp [others, included, excluded, limit, unlimited, input]
    exact fun p => eq_comm
  | input named plain =>
    rename_i path
    have others : ∀ p, .input p ∉ said := fun p mem => fresh (.input p) mem trivial
    have ran : [path].foldlM Stage.advance (.options d) =
        .ok (.options { d with input? := some path }) := by
      rw [List.foldlM_cons, advance_input plain, Draft.giveInput,
        eq_none_of_unsaid input others, path?_of_ne named]
      rfl
    refine ⟨_, ran, rfl, ?_⟩
    constructor <;> simp [file, included, excluded, limit, unlimited, others]
    exact fun p => eq_comm

/-- Words are heard one after the other. -/
theorem heard_words {before said : List Said} (heard : Heard d before) (words : Words said args)
    (once : (before ++ said).Pairwise fun s t => ¬ s.Rivals t) :
    ∃ d', args.foldlM Stage.advance (.options d) = .ok (.options d') ∧ d'.verb = d.verb ∧
      Heard d' (before ++ said) := by
  induction words generalizing before d with
  | nil => exact ⟨d, rfl, rfl, by rwa [List.append_nil]⟩
  | cons first rest ih =>
    rw [List.append_cons] at once ⊢
    have fresh := (List.pairwise_append.mp (List.pairwise_append.mp once).1).2.2
    obtain ⟨d₁, ran, verb, heard₁⟩ := heard.spells first
      fun t mem => fresh t mem _ (List.mem_singleton_self _)
    obtain ⟨d₂, ran', verb', heard₂⟩ := ih heard₁ once
    refine ⟨d₂, ?_, verb'.trans verb, heard₂⟩
    rw [List.foldlM_append, ran]
    exact ran'

end

/-! ## Reading all of them -/

theorem ofName?_verb (verb : Verb) : Verb.ofName? verb.name = some verb := by
  cases verb <;> decide

/-- The command that is asked for, or what is wrong with the draft of it. -/
theorem ofArguments_of_heard (verb : Verb) {args : List String} {said : List Said}
    (words : Words said args) (once : said.Pairwise fun s t => ¬ s.Rivals t) :
    ∃ d, Heard d said ∧ Request.ofArguments (verb.name :: args) = .run <$> d.command := by
  obtain ⟨d, ran, -, heard⟩ := heard_words (heard_nothing verb) words once
  refine ⟨d, heard, ?_⟩
  rw [Request.ofArguments, ofName?_verb]
  dsimp only
  rw [ran]
  show (do let c ← d.command; return Request.run c) = _
  cases d.command <;> rfl

/-- What has been said about depth. -/
theorem Heard.depth {d : Draft} {said : List Said} (heard : Heard d said)
    (oneDepth : ∀ n, .limit n ∈ said → .unlimited ∉ said) :
    ∃ depth, d.depth = .ok depth ∧ (∀ n, depth = .limit n ↔ .limit n ∈ said) ∧
      (depth = .unlimited ↔ .unlimited ∈ said) := by
  rw [Draft.depth, ← heard.unlimited]
  simp only [← heard.limit]
  cases limit : d.maxDepth? with
  | none => cases d.unlimited <;> exact ⟨_, rfl, by simp, by simp⟩
  | some n =>
    have limited := (heard.limit n).mp limit
    have unsaid : ¬ d.unlimited = true := heard.unlimited.not.mpr (oneDepth n limited)
    rw [Bool.not_eq_true] at unsaid
    rw [unsaid]
    exact ⟨_, rfl, by simp, by simp⟩

/-- **What is said is asked for**, in whatever order it is said. -/
theorem ofArguments_words {args : List String} {said : List Said} (verb : Verb)
    (sensible : Sensible said) (words : Words said args) :
    ∃ c, Request.ofArguments (verb.name :: args) = .ok (.run c) ∧ Asks said c.policy := by
  obtain ⟨d, heard, read⟩ := ofArguments_of_heard verb words sensible.once
  obtain ⟨path, named⟩ := sensible.document
  obtain ⟨depth, asked, limit, unlimited⟩ := heard.depth sensible.oneDepth
  rw [Draft.command, (heard.input path).mpr named, asked] at read
  refine ⟨_, read, ?_⟩
  exact {
    file := heard.file
    included := fun tag => List.mem_reverse.trans (heard.included tag)
    excluded := fun tag => List.mem_reverse.trans (heard.excluded tag)
    limit := limit
    unlimited := unlimited }

/-- Depth cannot be limited and unlimited at once. -/
theorem ofArguments_conflict {args : List String} {said : List Said} {n : Nat} (verb : Verb)
    (once : said.Pairwise fun s t => ¬ s.Rivals t) (document : ∃ path, .input path ∈ said)
    (limited : .limit n ∈ said) (unlimited : .unlimited ∈ said) (words : Words said args) :
    Request.ofArguments (verb.name :: args) = .error .conflictingDepths := by
  obtain ⟨d, heard, read⟩ := ofArguments_of_heard verb words once
  obtain ⟨path, named⟩ := document
  rw [read, Draft.command, (heard.input path).mpr named]
  dsimp only
  rw [Draft.depth, (heard.limit n).mpr limited, heard.unlimited.mpr unlimited]
  rfl

end JsonMarkup.Cli
