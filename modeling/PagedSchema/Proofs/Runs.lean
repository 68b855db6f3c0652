/-
Runs that may fail: what a run that succeeds went through.
-/

namespace PagedSchema

variable {ε α β σ : Type}

theorem exists_of_bind_eq_ok {x : Except ε α} {f : α → Except ε β} {b : β}
    (run : x >>= f = .ok b) : ∃ a, x = .ok a ∧ f a = .ok b := by
  cases x with
  | error e => cases run
  | ok a => exact ⟨a, rfl, run⟩

theorem guarded_eq_ok_iff {c : Prop} [Decidable c] {e : ε} {x : Except ε α} {a : α} :
    (if c then .error e else x) = .ok a ↔ ¬ c ∧ x = .ok a := by
  by_cases holds : c <;> simp [holds]

theorem eq_ok_of_toOption_eq_some {x : Except ε α} {a : α} (run : x.toOption = some a) :
    x = .ok a := by
  cases x with
  | error e => cases run
  | ok a => exact congrArg Except.ok (Option.some.inj run)

/-- What holds before a walk and is kept by each of its steps holds after it. -/
theorem of_foldlM_eq_ok {P : σ → Prop} {step : σ → α → Except ε σ}
    (each : ∀ s a t, P s → step s a = .ok t → P t) {l : List α} {s t : σ} (first : P s)
    (run : l.foldlM step s = .ok t) : P t := by
  induction l generalizing s with
  | nil =>
      cases run
      exact first
  | cons a rest ih =>
      rw [List.foldlM_cons] at run
      obtain ⟨u, stepped, run⟩ := exists_of_bind_eq_ok run
      exact ih (each s a u first stepped) run

/-- Where each step reads something and adds it, or fails, a walk reads all of it first or fails. -/
theorem toOption_foldlM {step : σ → α → Except ε σ} {reads : α → Option β} {put : σ → β → σ}
    (each : ∀ s a, (step s a).toOption = (reads a).map (put s)) (l : List α) (s : σ) :
    (l.foldlM step s).toOption = (l.mapM reads).map (·.foldl put s) := by
  induction l generalizing s with
  | nil => rfl
  | cons a rest ih =>
      have first := each s a
      rw [List.foldlM_cons, List.mapM_cons]
      cases read : reads a with
      | none =>
          rw [read] at first
          cases stepped : step s a with
          | error e => rfl
          | ok t =>
              rw [stepped] at first
              cases first
      | some b =>
          rw [read] at first
          rw [eq_ok_of_toOption_eq_some first]
          change (rest.foldlM step (put s b)).toOption = _
          rw [ih]
          cases rest.mapM reads <;> rfl

/-- Where a step fails on what it is given, whatever came before, a walk fails on the first thing
that a step fails on, with the same error. -/
theorem foldlM_eq_error_iff {step : σ → α → Except ε σ} {refuses : α → ε → Prop}
    (each : ∀ s a e, step s a = .error e ↔ refuses a e) {l : List α} {s : σ} {e : ε} :
    l.foldlM step s = .error e ↔
      ∃ before a after, l = before ++ a :: after ∧ (∀ b ∈ before, ∀ e', ¬ refuses b e') ∧
        refuses a e := by
  induction l generalizing s with
  | nil => simp [pure, Except.pure]
  | cons a rest ih =>
      rw [List.foldlM_cons]
      cases stepped : step s a with
      | error e' =>
          have refused := (each s a e').mp stepped
          constructor
          · rintro ⟨⟩
            exact ⟨[], a, rest, rfl, fun _ member => absurd member List.not_mem_nil, refused⟩
          · rintro ⟨before, b, after, split, passed, refused'⟩
            cases before with
            | nil =>
                cases split
                rw [← (each s a e).mpr refused', stepped]
                rfl
            | cons c before =>
                cases split
                exact absurd refused (passed a List.mem_cons_self e')
      | ok t =>
          have passes (e' : ε) : ¬ refuses a e' := by
            rw [← each s a e', stepped]
            exact nofun
          change rest.foldlM step t = .error e ↔ _
          rw [ih]
          constructor
          · rintro ⟨before, b, after, rfl, passed, refused⟩
            exact ⟨a :: before, b, after, rfl, List.forall_mem_cons.mpr ⟨passes, passed⟩, refused⟩
          · rintro ⟨before, b, after, split, passed, refused⟩
            cases before with
            | nil =>
                cases split
                exact absurd refused (passes e)
            | cons c before =>
                cases split
                exact ⟨before, b, after, rfl, (List.forall_mem_cons.mp passed).2, refused⟩

/-- A walk gives the result of each step, up to the first one that fails. -/
theorem mapM_cons_eq_ok_iff {f : α → Except ε β} {a : α} {rest : List α} {results : List β} :
    (a :: rest).mapM f = .ok results ↔
      ∃ b bs, f a = .ok b ∧ rest.mapM f = .ok bs ∧ results = b :: bs := by
  rw [List.mapM_cons]
  constructor
  · intro run
    obtain ⟨b, first, run⟩ := exists_of_bind_eq_ok run
    obtain ⟨bs, later, run⟩ := exists_of_bind_eq_ok run
    cases run
    exact ⟨b, bs, first, later, rfl⟩
  · rintro ⟨b, bs, first, later, rfl⟩
    rw [first]
    change rest.mapM f >>= _ = _
    rw [later]
    rfl

theorem exists_mapM_eq_error_iff {f : α → Except ε β} {l : List α} :
    (∃ e, l.mapM f = .error e) ↔ ∃ a ∈ l, ∃ e, f a = .error e := by
  induction l with
  | nil => simp [pure, Except.pure]
  | cons a rest ih =>
      rw [List.mapM_cons]
      simp only [List.mem_cons, exists_eq_or_imp, ← ih]
      cases f a with
      | error e => simp [bind, Except.bind]
      | ok b => cases rest.mapM f <;> simp [bind, Except.bind, pure, Except.pure]

theorem mapM_eq_none_iff {f : α → Option β} {l : List α} :
    l.mapM f = none ↔ ∃ a ∈ l, f a = none := by
  induction l with
  | nil => simp
  | cons a rest ih =>
      rw [List.mapM_cons]
      simp only [List.mem_cons, exists_eq_or_imp, ← ih]
      cases f a with
      | none => simp
      | some b => cases rest.mapM f <;> simp

/-- The results of a walk are those of its steps, one for each. -/
theorem of_mapM_eq_some {f : α → Option β} {l : List α} {results : List β}
    (run : l.mapM f = some results) :
    results.length = l.length ∧ ∀ b ∈ results, ∃ a ∈ l, f a = some b := by
  induction l generalizing results with
  | nil =>
      cases run
      exact ⟨rfl, fun _ member => absurd member List.not_mem_nil⟩
  | cons a rest ih =>
      rw [List.mapM_cons, Option.bind_eq_bind, Option.bind_eq_some_iff] at run
      obtain ⟨b, first, run⟩ := run
      rw [Option.bind_eq_bind, Option.bind_eq_some_iff] at run
      obtain ⟨bs, later, run⟩ := run
      cases run
      obtain ⟨length, each⟩ := ih later
      refine ⟨congrArg (· + 1) length, List.forall_mem_cons.mpr ⟨?_, ?_⟩⟩
      · exact ⟨a, List.mem_cons_self, first⟩
      · intro c member
        obtain ⟨d, present, same⟩ := each c member
        exact ⟨d, List.mem_cons_of_mem a present, same⟩

end PagedSchema
