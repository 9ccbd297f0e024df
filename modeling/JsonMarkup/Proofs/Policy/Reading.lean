import JsonMarkup.Policy.Json
import JsonMarkup.Proofs.Json.Writing
import JsonMarkup.Proofs.Json.Yield
import JsonMarkup.Proofs.Policy.Grammar
import JsonMarkup.Proofs.Policy.Sets

/-!
# Policies as they are written

A policy is read from the tokens of a text while they come in. What comes out is said here in terms
of the members that are written (`Given`): each has its value, in any order, and those that are
missing have their default.

**Theorem** (`reading_policies`). A policy that is written is read back. Of members that are given
each has its value, and the others are those of the standard policy. An object with any other
member, or with one of them twice, is rejected, and so is whatever is no document at all.

The tokens of a text that is a document are those of its tree (`Json.scan_of_read`), and other texts
are no policies (`document_of_read`). So the runs that count are over the tokens of an object, and
they go member by member.
-/

namespace JsonMarkup

namespace Policy

open Json (Token memberWord)

/-! ## Members as they are written -/

/-- A member and what is given for it, where `none` is written `null`. -/
inductive Given where
  | included (tags : Option (List String))
  | excluded (tags : Option (List String))
  | maxDepth (level : Option Nat)

namespace Given

def field : Given → Field
  | .included _ => .included
  | .excluded _ => .excluded
  | .maxDepth _ => .maxDepth

def json : Given → Json
  | .included tags | .excluded tags => tags.elim .null fun tags => .array (tags.map .string)
  | .maxDepth level => level.elim .null Json.nat

/-- The member of an object that is written. -/
def member (g : Given) : String × Json := (g.field.name, g.json)

end Given

/-- The policy has what is given. Tags may be given in any order, and more than once. -/
def Follows (p : Policy) : Given → Prop
  | .included tags => p.included = tags.map TagSet.ofList
  | .excluded tags => p.excluded = tags.map TagSet.ofList
  | .maxDepth level => p.maxDepth = level

/-- The member has the same value in both policies. -/
def Shares (p q : Policy) : Field → Prop
  | .included => p.included = q.included
  | .excluded => p.excluded = q.excluded
  | .maxDepth => p.maxDepth = q.maxDepth

theorem name_injective : Function.Injective Field.name := by
  intro f f' same
  cases f <;> cases f' <;> first | rfl | exact absurd same (by decide)

theorem ofName?_name (f : Field) : Field.ofName? f.name = some f := by
  cases f <;> decide

theorem name_of_ofName? {name : String} {f : Field} (known : Field.ofName? name = some f) :
    name = f.name := by
  have same := List.find?_some known
  exact (of_decide_eq_true same).symm

/-! ## Drafts -/

namespace Draft

/-- Note what is given. -/
def take (d : Draft) : Given → Draft
  | .included tags => { d with included := some (tags.map TagSet.ofList) }
  | .excluded tags => { d with excluded := some (tags.map TagSet.ofList) }
  | .maxDepth level => { d with maxDepth := some level }

variable {d : Draft} {g : Given} {given : List Given} {f : Field}

theorem has_take : (d.take g).has f = false ↔ f ≠ g.field ∧ d.has f = false := by
  cases g <;> cases f <;> simp [take, has, Given.field]

/-- The draft has what is given. -/
def Holds (d : Draft) : Given → Prop
  | .included tags => d.included = some (tags.map TagSet.ofList)
  | .excluded tags => d.excluded = some (tags.map TagSet.ofList)
  | .maxDepth level => d.maxDepth = some level

theorem holds_take (d : Draft) (g : Given) : (d.take g).Holds g := by
  cases g <;> rfl

/-- What is given for one member leaves the others alone. -/
theorem holds_take_of_ne {g' : Given} (other : g.field ≠ g'.field) (holds : d.Holds g) :
    (d.take g').Holds g := by
  cases g <;> cases g' <;> first | exact holds | exact absurd rfl other

theorem holds_foldl (others : g.field ∉ given.map Given.field) (holds : d.Holds g) :
    (given.foldl take d).Holds g := by
  induction given generalizing d with
  | nil => exact holds
  | cons g' rest ih =>
    rw [List.map_cons, List.mem_cons, not_or] at others
    exact ih others.2 (holds_take_of_ne others.1 holds)

/-- Members that are given once each are all in the draft. -/
theorem holds_of_mem (distinct : (given.map Given.field).Nodup) (mem : g ∈ given) :
    (given.foldl take d).Holds g := by
  induction given generalizing d with
  | nil => cases mem
  | cons g' rest ih =>
    rw [List.map_cons, List.nodup_cons] at distinct
    rcases List.mem_cons.mp mem with rfl | mem
    · rw [List.foldl_cons]
      exact holds_foldl distinct.1 (holds_take d g)
    · exact ih distinct.2 mem

theorem has_foldl (missing : f ∉ given.map Given.field) (new : d.has f = false) :
    (given.foldl take d).has f = false := by
  induction given generalizing d with
  | nil => exact new
  | cons g rest ih =>
    rw [List.map_cons, List.mem_cons, not_or] at missing
    exact ih missing.2 (has_take.mpr ⟨missing.1, new⟩)

theorem follows_finish (holds : d.Holds g) : d.finish.Follows g := by
  cases g <;> exact congrArg (Option.getD · _) holds

theorem shares_finish (missing : d.has f = false) : d.finish.Shares standard f := by
  cases f
  all_goals
    rw [has, Option.isSome_eq_false_iff, Option.isNone_iff_eq_none] at missing
    exact congrArg (Option.getD · _) missing

end Draft

/-! ## The tokens of an object -/

theorem intercalate_cons (part : List Token) (parts : List (List Token)) :
    [Token.comma].intercalate (part :: parts) = part ++ parts.flatMap (.comma :: ·) := by
  induction parts generalizing part with
  | nil => rw [List.intercalate_singleton, List.flatMap_nil, List.append_nil]
  | cons next parts ih =>
    rw [List.intercalate_cons_cons, ih, List.flatMap_cons, List.append_assoc]
    rfl

/-- The tokens of the items of an array behind the first one. -/
def moreItems (items : List Json) : List Token := items.flatMap (.comma :: ·.tokens)

def moreMembers (members : List (String × Json)) : List Token :=
  members.flatMap (.comma :: memberWord ·)

theorem tokens_array_cons (j : Json) (items : List Json) :
    (Json.array (j :: items)).tokens =
      .listOpen :: (j.tokens ++ (moreItems items ++ [.listClose])) := by
  rw [Json.tokens, Json.itemTokens_eq_map, List.map_cons, intercalate_cons, List.flatMap_map,
    List.append_assoc, moreItems]

theorem tokens_object_cons (m : String × Json) (members : List (String × Json)) :
    (Json.object (m :: members)).tokens =
      .objectOpen :: (memberWord m ++ (moreMembers members ++ [.objectClose])) := by
  rw [Json.tokens, Json.memberTokens_eq_map, List.map_cons, intercalate_cons, List.flatMap_map,
    List.append_assoc, moreMembers]

namespace Reader

variable {d : Draft} {f : Field} {inArray : Bool} {s : TagSet}

theorem run_of_ok {r r' : Reader} {t : Token} (moved : r.advance t = .ok r') (rest : List Token) :
    run r (t :: rest) = run r' rest := by
  rw [run, moved]

theorem run_of_error {r : Reader} {t : Token} {e : ReadError} (refused : r.advance t = .error e)
    (rest : List Token) : run r (t :: rest) = .error e := by
  rw [run, refused]

/-! ## Values -/

theorem run_moreTags (tags : List String) (rest : List Token) :
    run ⟨d, .afterTag f inArray s⟩ (moreItems (tags.map .string) ++ .listClose :: rest) =
      run (closeTags d f inArray (s.insertAll tags)) rest := by
  induction tags generalizing s with
  | nil => rfl
  | cons tag tags ih => exact ih

theorem run_listOpen (isSet : f ≠ .maxDepth) (rest : List Token) :
    run ⟨d, .value f⟩ (.listOpen :: rest) = run ⟨d, .firstTag f false⟩ rest := by
  cases f with
  | maxDepth => exact absurd rfl isSet
  | _ => rfl

theorem run_tags (isSet : f ≠ .maxDepth) (tags : List String) (rest : List Token) :
    run ⟨d, .value f⟩ ((Json.array (tags.map .string)).tokens ++ rest) =
      run (closeTags d f false (TagSet.ofList tags)) rest := by
  cases tags with
  | nil => exact run_listOpen isSet _
  | cons tag tags =>
    rw [List.map_cons, tokens_array_cons, List.cons_append, run_listOpen isSet, List.append_assoc,
      List.append_assoc]
    exact run_moreTags tags rest

/-- What is given for a member goes into the draft. -/
theorem run_given (g : Given) (rest : List Token) :
    run ⟨d, .value g.field⟩ (g.json.tokens ++ rest) = run ⟨d.take g, .afterMember⟩ rest := by
  cases g with
  | included tags =>
    cases tags with
    | none => rfl
    | some tags => exact run_tags (f := .included) (by decide) tags rest
  | excluded tags =>
    cases tags with
    | none => rfl
    | some tags => exact run_tags (f := .excluded) (by decide) tags rest
  | maxDepth level =>
    cases level with
    | none => rfl
    | some n => rfl

theorem moreTags_or_refused (items : List Json) :
    (∃ tags : List String, items = tags.map .string) ∨
    ∀ d s rest, ∃ e, run ⟨d, .afterTag f inArray s⟩ (moreItems items ++ rest) = .error e := by
  induction items with
  | nil => exact .inl ⟨[], rfl⟩
  | cons j items ih =>
    cases j with
    | string tag =>
      refine ih.imp ?_ fun refused d s rest => refused d (s.insert tag) rest
      rintro ⟨tags, rfl⟩
      exact ⟨tag :: tags, rfl⟩
    | _ => exact .inr fun d s rest => ⟨_, rfl⟩

theorem tags_or_refused (isSet : f ≠ .maxDepth) (items : List Json) :
    (∃ tags : List String, items = tags.map .string) ∨
    ∀ d rest, ∃ e, run ⟨d, .value f⟩ ((Json.array items).tokens ++ rest) = .error e := by
  cases items with
  | nil => exact .inl ⟨[], rfl⟩
  | cons j items =>
    simp only [tokens_array_cons, List.cons_append, run_listOpen isSet, List.append_assoc]
    cases j with
    | string tag =>
      refine (moreTags_or_refused items).imp ?_ fun refused d rest =>
        refused d (TagSet.empty.insert tag) _
      rintro ⟨tags, rfl⟩
      exact ⟨tag :: tags, rfl⟩
    | _ => exact .inr fun d rest => ⟨_, rfl⟩

theorem set_or_refused (isSet : f ≠ .maxDepth) (j : Json) :
    (∃ tags : Option (List String), j = tags.elim .null fun tags => .array (tags.map .string)) ∨
    ∀ d rest, ∃ e, run ⟨d, .value f⟩ (j.tokens ++ rest) = .error e := by
  cases j with
  | null => exact .inl ⟨none, rfl⟩
  | array items =>
    refine (tags_or_refused isSet items).imp_left ?_
    rintro ⟨tags, rfl⟩
    exact ⟨some tags, rfl⟩
  | number n =>
    cases n with
    | integer n =>
      have refused : ∀ d : Draft, advance ⟨d, .value f⟩ (.scalar (.number (.integer n))) =
          .error (.wrongType (.scalar (.number (.integer n))) .tags) := fun d => if_neg isSet
      exact .inr fun d rest => ⟨_, run_of_error (refused d) rest⟩
    | double x => exact .inr fun d rest => ⟨_, rfl⟩
  | _ => exact .inr fun d rest => ⟨_, rfl⟩

theorem level_or_refused (j : Json) :
    (∃ level : Option Nat, j = level.elim .null Json.nat) ∨
    ∀ d rest, ∃ e, run ⟨d, .value .maxDepth⟩ (j.tokens ++ rest) = .error e := by
  cases j with
  | null => exact .inl ⟨none, rfl⟩
  | number n =>
    cases n with
    | integer n =>
      cases n with
      | ofNat n => exact .inl ⟨some n, rfl⟩
      | negSucc n =>
        have refused : ∀ d : Draft, advance ⟨d, .value .maxDepth⟩
            (.scalar (.number (.integer (.negSucc n)))) = .error (.negativeDepth (.negSucc n)) :=
          fun d => if_pos (Int.negSucc_lt_zero n)
        exact .inr fun d rest => ⟨_, run_of_error (refused d) rest⟩
    | double x => exact .inr fun d rest => ⟨_, rfl⟩
  | _ => exact .inr fun d rest => ⟨_, rfl⟩

/-- A value is one that may be given for the member, or it is refused. -/
theorem value_or_refused (f : Field) (j : Json) :
    (∃ g : Given, g.field = f ∧ g.json = j) ∨
    ∀ d rest, ∃ e, run ⟨d, .value f⟩ (j.tokens ++ rest) = .error e := by
  cases f with
  | included =>
    refine (set_or_refused (by decide) j).imp_left ?_
    rintro ⟨tags, rfl⟩
    exact ⟨.included tags, rfl, rfl⟩
  | excluded =>
    refine (set_or_refused (by decide) j).imp_left ?_
    rintro ⟨tags, rfl⟩
    exact ⟨.excluded tags, rfl, rfl⟩
  | maxDepth =>
    refine (level_or_refused j).imp_left ?_
    rintro ⟨level, rfl⟩
    exact ⟨.maxDepth level, rfl, rfl⟩

/-! ## Members -/

theorem advance_name (d : Draft) (name : String) :
    advance ⟨d, .nextName⟩ (.scalar (.string name)) = takeName d (.scalar (.string name)) := rfl

/-- A known name is taken while the draft has no value for it. -/
theorem run_name (new : d.has f = false) (j : Json) (rest : List Token) :
    run ⟨d, .nextName⟩ (memberWord (f.name, j) ++ rest) = run ⟨d, .value f⟩ (j.tokens ++ rest) := by
  have named : advance ⟨d, .nextName⟩ (.scalar (.string f.name)) = .ok ⟨d, .afterName f⟩ := by
    rw [advance_name, takeName, ofName?_name]
    exact if_neg (Bool.eq_false_iff.mp new)
  exact run_of_ok named _

theorem run_moreMembers (m : String × Json) (members : List (String × Json)) (rest : List Token) :
    run ⟨d, .afterMember⟩ (moreMembers (m :: members) ++ rest) =
      run ⟨d, .nextName⟩ (memberWord m ++ (moreMembers members ++ rest)) := by
  rw [moreMembers, List.flatMap_cons, ← moreMembers, List.append_assoc]
  rfl

/-- Members that are given once each all go into the draft. -/
theorem run_members {given : List Given} (distinct : (given.map Given.field).Nodup)
    (new : ∀ g ∈ given, d.has g.field = false) :
    run ⟨d, .afterMember⟩ (moreMembers (given.map Given.member) ++ [.objectClose]) =
      .ok ⟨given.foldl Draft.take d, .done⟩ := by
  induction given generalizing d with
  | nil => rfl
  | cons g rest ih =>
    rw [List.map_cons, List.nodup_cons] at distinct
    obtain ⟨newFirst, newRest⟩ := List.forall_mem_cons.mp new
    have newRest : ∀ g' ∈ rest, (d.take g).has g'.field = false := by
      intro g' mem
      refine Draft.has_take.mpr ⟨?_, newRest g' mem⟩
      exact fun same => distinct.1 (same ▸ List.mem_map_of_mem mem)
    rw [List.map_cons, run_moreMembers, Given.member, run_name newFirst, run_given,
      ih distinct.2 newRest, List.foldl_cons]

theorem member_or_refused (m : String × Json) (d : Draft) :
    (∃ g : Given, m = g.member ∧ d.has g.field = false) ∨
    ∀ rest, ∃ e, run ⟨d, .nextName⟩ (memberWord m ++ rest) = .error e := by
  obtain ⟨name, j⟩ := m
  cases known : Field.ofName? name with
  | none =>
    refine .inr fun rest => ⟨.unknownField name, ?_⟩
    have unnamed : advance ⟨d, .nextName⟩ (.scalar (.string name)) =
        .error (.unknownField name) := by
      rw [advance_name, takeName, known]
    exact run_of_error unnamed _
  | some f =>
    obtain rfl := name_of_ofName? known
    cases new : d.has f with
    | true =>
      refine .inr fun rest => ⟨.duplicateField f, ?_⟩
      have again : advance ⟨d, .nextName⟩ (.scalar (.string f.name)) =
          .error (.duplicateField f) := by
        rw [advance_name, takeName, known]
        exact if_pos new
      exact run_of_error again _
    | false =>
      refine (value_or_refused f j).imp ?_ ?_
      · rintro ⟨g, rfl, rfl⟩
        exact ⟨g, rfl, new⟩
      · intro refused rest
        rw [run_name new]
        exact refused d rest

/-- Members are given once each, or one of them is refused. -/
theorem members_or_refused (members : List (String × Json)) (d : Draft) :
    (∃ given : List Given, members = given.map Given.member ∧ (given.map Given.field).Nodup ∧
      ∀ g ∈ given, d.has g.field = false) ∨
    ∀ rest, ∃ e, run ⟨d, .afterMember⟩ (moreMembers members ++ rest) = .error e := by
  induction members generalizing d with
  | nil => exact .inl ⟨[], rfl, List.nodup_nil, nofun⟩
  | cons m members ih =>
    simp only [run_moreMembers]
    rcases member_or_refused m d with ⟨g, rfl, new⟩ | refused
    · refine (ih (d.take g)).imp ?_ ?_
      · rintro ⟨given, rfl, distinct, others⟩
        refine ⟨g :: given, rfl, List.nodup_cons.mpr ⟨?_, distinct⟩,
          List.forall_mem_cons.mpr ⟨new, fun g' mem => (Draft.has_take.mp (others g' mem)).2⟩⟩
        intro mem
        obtain ⟨g', mem, same⟩ := List.mem_map.mp mem
        exact (Draft.has_take.mp (others g' mem)).1 same
      · intro refused rest
        rw [Given.member, run_name new, run_given]
        exact refused rest
    · exact .inr fun rest => refused _

/-- An object begins as if there were a member before it. -/
theorem run_object (members : List (String × Json)) :
    run ⟨d, .start⟩ (Json.object members).tokens =
      run ⟨d, .afterMember⟩ (moreMembers members ++ [.objectClose]) := by
  cases members with
  | nil => rfl
  | cons m members =>
    rw [tokens_object_cons, run_moreMembers]
    rfl

end Reader

/-! ## Texts -/

variable {text : String} {given : List Given} {members : List (String × Json)} {p : Policy}

theorem read_given (distinct : (given.map Given.field).Nodup)
    (tree : Json.read text = .ok (.object (given.map Given.member))) :
    read text = .ok (given.foldl Draft.take {}).finish := by
  have new : ∀ g ∈ given, Draft.has {} g.field = false := by
    intro g _
    cases g.field <;> rfl
  rw [read, Json.scan_of_read tree, Reader.run_object, Reader.run_members distinct new]
  rfl

/-- Of members that are given once each, every one has its value and the others have the default. -/
theorem follows_of_given (distinct : (given.map Given.field).Nodup)
    (tree : Json.read text = .ok (.object (given.map Given.member))) :
    ∃ p, read text = .ok p ∧ (∀ g ∈ given, p.Follows g) ∧
      ∀ f, f ∉ given.map Given.field → p.Shares standard f := by
  refine ⟨_, read_given distinct tree, ?_, ?_⟩
  · intro g mem
    exact Draft.follows_finish (Draft.holds_of_mem distinct mem)
  · intro f missing
    have new : Draft.has {} f = false := by cases f <;> rfl
    exact Draft.shares_finish (Draft.has_foldl missing new)

/-- The members of an object that is accepted are given once each. -/
theorem given_of_read (tree : Json.read text = .ok (.object members))
    (accepted : read text = .ok p) :
    ∃ given : List Given, members = given.map Given.member ∧ (given.map Given.field).Nodup := by
  obtain ⟨r, ran, -⟩ := read_eq_ok accepted
  rw [Json.scan_of_read tree, Reader.run_object] at ran
  rcases Reader.members_or_refused members {} with ⟨given, same, distinct, -⟩ | refused
  · exact ⟨given, same, distinct⟩
  · obtain ⟨e, refused⟩ := refused [.objectClose]
    rw [refused] at ran
    cases ran

/-- What is written of a policy: all its members. -/
def written (p : Policy) : List Given :=
  [.included (p.included.map TagSet.tags), .excluded (p.excluded.map TagSet.tags),
    .maxDepth p.maxDepth]

theorem toJson_eq (p : Policy) : p.toJson = .object (p.written.map Given.member) := by
  obtain ⟨included, excluded, maxDepth⟩ := p
  cases included <;> cases excluded <;> cases maxDepth <;> rfl

/-- A policy that follows what is written of another one is the same. -/
theorem eq_of_follows {q : Policy} (follows : ∀ g ∈ p.written, q.Follows g) : q = p := by
  have sets : ∀ tags? : Option TagSet, (tags?.map TagSet.tags).map TagSet.ofList = tags? := by
    intro tags?
    cases tags? with
    | none => rfl
    | some s => exact congrArg some s.ofList_tags
  simp only [written, List.forall_mem_cons] at follows
  obtain ⟨included, excluded, maxDepth, -⟩ := follows
  replace included : q.included = p.included := included.trans (sets _)
  replace excluded : q.excluded = p.excluded := excluded.trans (sets _)
  obtain ⟨_, _, _⟩ := p
  obtain ⟨_, _, _⟩ := q
  cases included
  cases excluded
  cases maxDepth
  rfl

/-- A text with the tree of a policy is read as the policy. -/
theorem read_of_toJson (tree : Json.read text = .ok p.toJson) : read text = .ok p := by
  rw [toJson_eq] at tree
  have distinct : (p.written.map Given.field).Nodup := by
    show [Field.included, .excluded, .maxDepth].Nodup
    decide
  obtain ⟨q, accepted, follows, -⟩ := follows_of_given distinct tree
  rw [eq_of_follows follows] at accepted
  exact accepted

theorem exact_tags (tags : List String) : Json.ItemsExact (tags.map .string) := by
  induction tags with
  | nil => trivial
  | cons tag rest ih => exact ⟨trivial, ih⟩

theorem exact_tagsJson (tags? : Option TagSet) : (tagsJson tags?).Exact := by
  cases tags? with
  | none => trivial
  | some s => exact exact_tags s.tags

theorem exact_toJson (bounded : ∀ n, p.maxDepth = some n → n < depthBound) : p.toJson.Exact := by
  refine ⟨exact_tagsJson _, exact_tagsJson _, ?_, trivial⟩
  cases limit : p.maxDepth with
  | none => trivial
  | some n =>
    have bound : (n : Int) < Number.bound := Int.ofNat_lt.mpr (bounded n limit)
    have least : Number.least ≤ (n : Int) := by
      have : Number.least ≤ 0 := by decide
      omega
    exact ⟨least, bound⟩

/-- **Policies are read as they are written.** What is written of a policy is read as the policy.
Of members that are given once each, in any order, every one has its value and the others have their
default. An object that has any other member, or one of them twice, is rejected, and so is whatever
is no document at all. -/
theorem reading_policies :
    (∀ p : Policy, (∀ n, p.maxDepth = some n → n < depthBound) →
      read p.toJson.compact = .ok p ∧ read p.toJson.pretty = .ok p) ∧
    (∀ (given : List Given) (text : String), (given.map Given.field).Nodup →
      Json.read text = .ok (.object (given.map Given.member)) →
      ∃ p, read text = .ok p ∧ (∀ g ∈ given, p.Follows g) ∧
        ∀ f, f ∉ given.map Given.field → p.Shares standard f) ∧
    (∀ (members : List (String × Json)) (text : String), Json.read text = .ok (.object members) →
      ((∃ m ∈ members, ∀ f : Field, m.1 ≠ f.name) ∨
        ∃ f : Field, 2 ≤ (members.map Prod.fst).count f.name) → ∃ e, read text = .error e) ∧
    ∀ (text : String) (e : Json.Error), Json.read text = .error e →
      ∃ e', read text = .error e' := by
  refine ⟨?_, fun given text => follows_of_given, ?_, ?_⟩
  · intro p bounded
    have exact := exact_toJson bounded
    exact ⟨read_of_toJson (Json.read_compact exact), read_of_toJson (Json.read_pretty exact)⟩
  · intro members text tree offence
    cases accepted : read text with
    | error e => exact ⟨e, rfl⟩
    | ok p =>
      exfalso
      obtain ⟨given, rfl, distinct⟩ := given_of_read tree accepted
      rcases offence with ⟨m, mem, unknown⟩ | ⟨f, twice⟩
      · obtain ⟨g, -, rfl⟩ := List.mem_map.mp mem
        exact unknown g.field rfl
      · have names : (given.map Given.member).map Prod.fst =
            (given.map Given.field).map Field.name := by
          rw [List.map_map, List.map_map]
          rfl
        have once := List.nodup_iff_count_le_one.mp (distinct.map name_injective) f.name
        rw [← names] at once
        omega
  · intro text e rejected
    cases accepted : read text with
    | error e' => exact ⟨e', rfl⟩
    | ok p =>
      obtain ⟨j, tree⟩ := document_of_read accepted
      rw [rejected] at tree
      cases tree

/-- A policy with tags to keep, with nothing to leave out and with a depth. -/
def restricted : Policy := ⟨some (TagSet.ofList ["p", "span"]), some .empty, some 4⟩

/-- The reader of policies at work: tags that are given twice count once, `null` is no default, and
neither a member that comes again nor an unknown one is passed over. -/
theorem reading_restricted :
    read "\x7b\"includedTags\":[\"p\",\"span\"],\"excludedTags\":[],\"maxDepth\":4\x7d" =
      .ok restricted ∧
    (∃ p, read "\x7b\"maxDepth\":null,\"includedTags\":[\"b\",\"a\",\"b\"]\x7d" = .ok p ∧
      p.maxDepth = none ∧ p.included = some (TagSet.ofList ["a", "b"]) ∧ p.excluded = none) ∧
    (∃ e, read "\x7b\"maxDepth\":4,\"maxDepth\":4\x7d" = .error e) ∧
    (∃ e, read "\x7b\"maxDepht\":3\x7d" = .error e) ∧ ∃ e, read "\x7b" = .error e := by
  have tree {j : Json} {text : String} (exact : j.Exact) (same : j.compact = text) :
      Json.read text = .ok j := same ▸ Json.read_compact exact
  have small : Number.least ≤ 4 ∧ 4 < Number.bound := by decide
  refine ⟨?_, ?_, ?_, ?_, ?_⟩
  · have compact : restricted.toJson.compact =
        "\x7b\"includedTags\":[\"p\",\"span\"],\"excludedTags\":[],\"maxDepth\":4\x7d" := by
      decide +kernel
    exact compact ▸ (reading_policies.1 restricted (by rintro _ ⟨⟩; decide)).1
  · obtain ⟨p, accepted, follows, shares⟩ := reading_policies.2.1
      [.maxDepth none, .included (some ["b", "a", "b"])]
      "\x7b\"maxDepth\":null,\"includedTags\":[\"b\",\"a\",\"b\"]\x7d" (by decide)
      (tree ⟨trivial, ⟨trivial, trivial, trivial, trivial⟩, trivial⟩ (by decide +kernel))
    simp only [List.forall_mem_cons] at follows
    obtain ⟨unlimited, included, -⟩ := follows
    exact ⟨p, accepted, unlimited, included.trans (by decide +kernel),
      shares .excluded (by decide)⟩
  · refine reading_policies.2.2.1 [("maxDepth", .nat 4), ("maxDepth", .nat 4)] _ (tree ?_ ?_)
      (.inr ⟨.maxDepth, by decide⟩)
    · exact ⟨small, small, trivial⟩
    · decide +kernel
  · refine reading_policies.2.2.1 [("maxDepht", .nat 3)] _ (tree ?_ ?_)
      (.inl ⟨_, List.mem_singleton_self _, fun f => by cases f <;> decide⟩)
    · exact ⟨⟨by decide, by decide⟩, trivial⟩
    · decide +kernel
  · have rejected : (Json.read "\x7b").isOk = false := by decide +kernel
    cases read : Json.read "\x7b" with
    | error e => exact reading_policies.2.2.2 _ e read
    | ok j =>
      rw [read] at rejected
      cases rejected

end Policy

end JsonMarkup
