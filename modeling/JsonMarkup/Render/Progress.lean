import JsonMarkup.Render.Step

/-!
# Every step makes progress

The weight of a state bounds the work that is left. A step that goes on or that yields a node
lowers it, and so does a poll in vain, unless the walk waits for a gate.

**Main statement.** `step_below`.
-/

namespace JsonMarkup.Render

/-- An outcome leaves less than `n` to do; waiting for a gate may leave everything. -/
def Outcome.Below (n : Nat) : Outcome → Prop
  | .goOn s => s.weight < n
  | .yield _ s => s.weight < n
  | .suspend s => s.weight < n ∨ s.blockedOn?.isSome
  | .stop => True

theorem deliver_below {node : Node} {a : Around} {n : Nat} (h : a.weight < n) :
    (deliver node a).Below n := by
  obtain ⟨frames, rest⟩ := a
  unfold deliver
  split <;> simp_all [Outcome.Below, State.weight, Around.weight, framesWeight, Frame.weight]

theorem reject_below {goal : Goal} {error : RenderError} {a : Around} {n : Nat}
    (h : goal.weight + a.weight < n) : (reject goal error a).outcome.Below n := by
  unfold reject
  cases goal <;> dsimp only
  case document => simp only [Outcome.Below, State.weight]; omega
  case item =>
    simp only [Outcome.Below, State.weight, Around.weight, framesWeight, Frame.weight,
      entriesWeight, Goal.weight] at h ⊢
    omega
  all_goals exact deliver_below (by simp only [Goal.weight] at h; omega)

theorem enter_below {policy : Policy} {tag : String} {value : Source} {a : Around} {n : Nat}
    (h : value.weight + 1 + a.weight < n) : (enter policy tag value a).outcome.Below n := by
  have refuse : ∀ error, (reject (.content tag) error a).outcome.Below n :=
    fun error => reject_below (by simp only [Goal.weight]; omega)
  unfold enter
  dsimp only
  split
  · exact refuse _
  · split
    · simp only [Outcome.Below, State.weight, Goal.weight]; omega
    · exact refuse _

theorem resume_below {element : Element} {entries : List (String × Source)} {a : Around} {n : Nat}
    (h : entriesWeight entries + 1 + a.weight < n) : (resume element entries a).Below n := by
  simp only [resume, Outcome.Below, State.weight, Around.weight, framesWeight, Frame.weight] at h ⊢
  omega

theorem merge_below {element : Element} {entries props : List (String × Source)} {a : Around}
    {n : Nat} (h : entriesWeight props + (entriesWeight entries + 1) + a.weight < n) :
    (merge element entries a props).outcome.Below n := by
  unfold merge
  split
  · exact resume_below (by simp only [entriesWeight] at h; omega)
  · simp only [entriesWeight] at h
    dsimp only
    split
    · exact reject_below (by simp only [Goal.weight]; omega)
    · simp only [quietly, Outcome.Below, State.weight, Goal.weight]
      omega

theorem apply_below {element : Element} {name : String} {entries : List (String × Source)}
    {a : Around} {value : Value} {n : Nat}
    (h : entriesWeight entries + 1 + value.weight + a.weight < n) :
    (apply element name entries a value).outcome.Below n := by
  have hr : entriesWeight entries + 1 + a.weight < n := by omega
  refine apply_cases (P := fun s => s.outcome.Below n) (fun _ _ _ => resume_below hr)
    (fun props mapping => merge_below ?_)
    (fun error => reject_below (by simp only [Goal.weight]; omega))
  rw [mapping] at h
  simp only [Value.weight] at h
  omega

theorem conclude_below {goal : Goal} {a : Around} {value : Value} {n : Nat}
    (h : goal.weight + value.weight + a.weight + 1 < n) :
    (conclude goal a value).outcome.Below n := by
  have refuse : ∀ error, (reject goal error a).outcome.Below n :=
    fun error => reject_below (by omega)
  unfold conclude
  split
  · split
    · simp only [quietly, Outcome.Below, State.weight]; omega
    · simp only [Value.weight, Goal.weight] at h
      simp only [quietly, Outcome.Below, State.weight, Around.weight, framesWeight]
      omega
    · exact refuse _
  · split
    · simp only [Value.weight, Goal.weight, Around.weight] at h
      simp only [quietly, Outcome.Below, State.weight, Around.weight, framesWeight, Frame.weight,
        entriesWeight]
      omega
    · simp only [Value.weight, Goal.weight, Around.weight] at h
      simp only [quietly, Outcome.Below, State.weight, Around.weight, framesWeight, Frame.weight]
      omega
    · exact refuse _
  · split
    · exact deliver_below (by omega)
    · simp only [Value.weight, Goal.weight, Around.weight] at h
      simp only [quietly, Outcome.Below, State.weight, Around.weight, framesWeight, Frame.weight,
        entriesWeight]
      omega
    · simp only [Value.weight, Goal.weight, Around.weight] at h
      simp only [quietly, Outcome.Below, State.weight, Around.weight, framesWeight, Frame.weight]
      omega
    · exact refuse _
  · exact apply_below (by simp only [Goal.weight] at h; omega)
  · split
    · exact merge_below (by simp only [Goal.weight] at h; omega)
    · exact refuse _

theorem takeNext_below {policy : Policy} {a : Around} :
    (takeNext policy a).outcome.Below a.weight := by
  obtain ⟨frames, rest⟩ := a
  unfold takeNext
  dsimp only
  split
  · split
    · trivial
    · exact enter_below (by simp only [Around.weight, framesWeight, entriesWeight]; omega)
  · exact enter_below (by
      simp only [Around.weight, framesWeight, Frame.weight, entriesWeight]; omega)
  · simp only [quietly, Outcome.Below, State.weight, Goal.weight, Around.weight, framesWeight,
      Frame.weight, entriesWeight, itemsWeight]
    omega
  · exact deliver_below (by simp only [Around.weight, framesWeight, Frame.weight]; omega)
  · split
    · simp only [quietly, Outcome.Below, State.weight, Goal.weight, Around.weight, framesWeight,
        Frame.weight, entriesWeight]
      omega
    · exact enter_below (by
        simp only [Around.weight, framesWeight, Frame.weight, entriesWeight]; omega)
  · exact deliver_below (by simp only [Around.weight, framesWeight, Frame.weight]; omega)

theorem await_below {goal : Goal} {a : Around} {value : Pending} :
    (await goal a value).outcome.Below (goal.weight + value.weight + a.weight + 1) := by
  unfold await
  split
  · simp only [Outcome.Below, State.weight, Pending.weight]
    omega
  · simp only [quietly, Outcome.Below, State.weight, Pending.weight]
    omega
  · exact reject_below (by omega)
  · simp only [quietly, Outcome.Below, State.weight, Pending.weight]
    omega
  · simp [quietly, Outcome.Below, State.blockedOn?]

/-- Every step leaves less to do, except that waiting for a gate may leave everything. -/
theorem step_below (policy : Policy) (s : State) : (step policy s).outcome.Below s.weight := by
  unfold step
  split
  · exact conclude_below (by simp only [State.weight, Source.weight]; omega)
  · simp only [Outcome.Below, State.weight, Source.weight]
    omega
  · exact await_below
  · exact takeNext_below
  · trivial

end JsonMarkup.Render
