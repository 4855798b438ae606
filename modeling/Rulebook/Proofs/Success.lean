import Mathlib.Data.List.Forall2

/-!
# Chains of steps that succeed

A chain of steps gives a result only if each of them does, and then the result is
that of the last one. Reading and compiling are such chains, so the lemmas here
take a document that compiled apart into parts that did.
-/

namespace List

variable {α β : Type}

/-- Of two lists that match item by item, an item of the second one has its match
in the first one. -/
theorem Forall₂.exists_left {R : α → β → Prop} {lefts : List α} {rights : List β}
    (h : Forall₂ R lefts rights) {right : β} (hmem : right ∈ rights) :
    ∃ left ∈ lefts, R left right := by
  induction h with
  | nil => exact absurd hmem not_mem_nil
  | cons hfirst _ ih =>
    rcases mem_cons.mp hmem with rfl | hmem
    · exact ⟨_, mem_cons_self, hfirst⟩
    · obtain ⟨left, hleft, hmatch⟩ := ih hmem
      exact ⟨left, mem_cons_of_mem _ hleft, hmatch⟩

/-- Of two lists that match item by item, an item of the first one has its match in
the second one. -/
theorem Forall₂.exists_right {R : α → β → Prop} {lefts : List α} {rights : List β}
    (h : Forall₂ R lefts rights) {left : α} (hmem : left ∈ lefts) :
    ∃ right ∈ rights, R left right :=
  h.flip.exists_left hmem

end List

namespace Except

variable {ε δ α β γ : Type}

theorem ok_bind (value : α) (next : α → Except ε β) : (.ok value >>= next) = next value := rfl

theorem bind_eq_ok_iff {first : Except ε α} {next : α → Except ε β} {result : β} :
    first >>= next = .ok result ↔ ∃ value, first = .ok value ∧ next value = .ok result := by
  cases first with
  | error error => simp [bind, Except.bind]
  | ok value => simp [bind, Except.bind]

theorem bind_eq_error_iff {first : Except ε α} {next : α → Except ε β} {error : ε} :
    first >>= next = .error error ↔
      first = .error error ∨ ∃ value, first = .ok value ∧ next value = .error error := by
  cases first with
  | error found => simp [bind, Except.bind]
  | ok value => simp [bind, Except.bind]

/-- A chain that ends with what its first step gives fails exactly when that step does. -/
theorem bind_pure_eq_error_iff {first : Except ε α} {change : α → β} {error : ε} :
    (first >>= fun value => pure (change value)) = .error error ↔ first = .error error := by
  cases first with
  | error found => simp [bind, Except.bind]
  | ok value => simp [bind, Except.bind, pure, Except.pure]

theorem map_eq_ok_iff {first : Except ε α} {change : α → β} {result : β} :
    first.map change = .ok result ↔ ∃ value, first = .ok value ∧ change value = result := by
  cases first with
  | error error => simp [Except.map]
  | ok value => simp [Except.map]

theorem map_eq_error_iff {first : Except ε α} {change : α → β} {error : ε} :
    first.map change = .error error ↔ first = .error error := by
  cases first with
  | error found => simp [Except.map]
  | ok value => simp [Except.map]

theorem map_map (first : Except ε α) (change : α → β) (next : β → γ) :
    (first.map change).map next = first.map fun value => next (change value) := by
  cases first <;> rfl

theorem mapError_eq_ok_iff {first : Except ε α} {change : ε → δ} {result : α} :
    first.mapError change = .ok result ↔ first = .ok result := by
  cases first with
  | error error => simp [Except.mapError]
  | ok value => simp [Except.mapError]

theorem toOption_bind (first : Except ε α) (next : α → Except ε β) :
    (first >>= next).toOption = first.toOption.bind fun value => (next value).toOption := by
  cases first <;> rfl

theorem toOption_map (first : Except ε α) (change : α → β) :
    (first.map change).toOption = first.toOption.map change := by
  cases first <;> rfl

theorem toOption_eq_some_iff {first : Except ε α} {result : α} :
    first.toOption = some result ↔ first = .ok result := by
  cases first with
  | error error => simp [Except.toOption]
  | ok value => simp [Except.toOption]

theorem pure_eq_ok_iff {value result : α} :
    (pure value : Except ε α) = .ok result ↔ value = result := by
  simp [pure, Except.pure]

/-- The steps over a list succeed exactly when every one of them does, and give
their results in the order of the list. -/
theorem mapM_eq_ok_iff {step : α → Except ε β} {items : List α} {results : List β} :
    items.mapM step = .ok results ↔
      List.Forall₂ (fun item result => step item = .ok result) items results := by
  induction items generalizing results with
  | nil =>
    rw [List.mapM_nil, pure_eq_ok_iff, List.forall₂_nil_left_iff]
    exact eq_comm
  | cons item rest ih =>
    simp only [List.mapM_cons, bind_eq_ok_iff, pure_eq_ok_iff]
    constructor
    · rintro ⟨result, hresult, others, hothers, rfl⟩
      exact List.Forall₂.cons hresult (ih.mp hothers)
    · intro h
      obtain ⟨result, others, hresult, hothers, rfl⟩ := List.forall₂_cons_left_iff.mp h
      exact ⟨result, hresult, others, ih.mpr hothers, rfl⟩

/-- The steps over a list succeed exactly when every one of them does. -/
theorem exists_mapM_eq_ok_iff {step : α → Except ε β} {items : List α} :
    (∃ results, items.mapM step = .ok results) ↔
      ∀ item ∈ items, ∃ result, step item = .ok result := by
  constructor
  · rintro ⟨results, hresults⟩ item hmem
    obtain ⟨result, -, hresult⟩ := (mapM_eq_ok_iff.mp hresults).exists_right hmem
    exact ⟨result, hresult⟩
  · intro h
    induction items with
    | nil => exact ⟨[], rfl⟩
    | cons item rest ih =>
      obtain ⟨hitem, hrest⟩ := List.forall_mem_cons.mp h
      obtain ⟨result, hresult⟩ := hitem
      obtain ⟨results, hresults⟩ := ih hrest
      refine ⟨result :: results, ?_⟩
      rw [List.mapM_cons, hresult, hresults]
      rfl

/-- The steps over a list depend on the items of the list alone. -/
theorem mapM_congr {step other : α → Except ε β} {items : List α}
    (h : ∀ item ∈ items, step item = other item) : items.mapM step = items.mapM other := by
  induction items with
  | nil => rfl
  | cons item rest ih =>
    obtain ⟨hitem, hrest⟩ := List.forall_mem_cons.mp h
    rw [List.mapM_cons, List.mapM_cons, hitem, ih hrest]

/-- The steps over a list fail as one of them does, if no other one fails in another way. -/
theorem mapM_eq_error {step : α → Except ε β} {items : List α} {error : ε} {item : α}
    (hmem : item ∈ items) (hitem : step item = .error error)
    (h : ∀ other ∈ items, step other = .error error ∨ ∃ result, step other = .ok result) :
    items.mapM step = .error error := by
  induction items with
  | nil => exact absurd hmem List.not_mem_nil
  | cons first rest ih =>
    obtain ⟨hfirst, hrest⟩ := List.forall_mem_cons.mp h
    rw [List.mapM_cons]
    rcases hfirst with hfailed | ⟨result, hresult⟩
    · rw [hfailed]
      rfl
    · have hlater : item ∈ rest := by
        rcases List.mem_cons.mp hmem with rfl | hlater
        · rw [hitem] at hresult
          cases hresult
        · exact hlater
      rw [hresult, ih hlater hrest]
      rfl

/-- The steps over a list fail only as one of them does. -/
theorem exists_of_mapM_eq_error {step : α → Except ε β} {items : List α} {error : ε}
    (h : items.mapM step = .error error) : ∃ item ∈ items, step item = .error error := by
  induction items with
  | nil => cases h
  | cons item rest ih =>
    rw [List.mapM_cons] at h
    rcases bind_eq_error_iff.mp h with hitem | ⟨_, -, hrest⟩
    · exact ⟨item, List.mem_cons_self, hitem⟩
    · obtain ⟨other, hmem, hother⟩ := ih (bind_pure_eq_error_iff.mp hrest)
      exact ⟨other, List.mem_cons_of_mem _ hmem, hother⟩

/-- What each step over a list gives may be changed afterwards. -/
theorem mapM_map (step : α → Except ε β) (change : β → γ) (items : List α) :
    items.mapM (fun item => (step item).map change) =
      (items.mapM step).map (List.map change) := by
  induction items with
  | nil => rfl
  | cons item rest ih =>
    rw [List.mapM_cons, List.mapM_cons, ih]
    cases step item with
    | error error => rfl
    | ok result => cases rest.mapM step <;> rfl

/-- A walk over a list that succeeds takes a step at every item. -/
theorem exists_step_of_foldlM {step : β → α → Except ε β} {items : List α} {start final : β}
    (h : items.foldlM step start = .ok final) {item : α} (hmem : item ∈ items) :
    ∃ state next, step state item = .ok next := by
  induction items generalizing start with
  | nil => exact absurd hmem List.not_mem_nil
  | cons first rest ih =>
    obtain ⟨next, hnext, hrest⟩ := bind_eq_ok_iff.mp h
    rcases List.mem_cons.mp hmem with rfl | hmem
    · exact ⟨start, next, hnext⟩
    · exact ih hrest hmem

theorem pure_eq_ok (value : α) : (pure value : Except ε α) = .ok value := rfl

/-- Two steps that do not need each other may change places. -/
theorem toOption_bind_comm (first : Except ε α) (second : Except ε β)
    (next : α → β → Except ε γ) :
    (first >>= fun value => second >>= fun other => next value other).toOption =
      (second >>= fun other => first >>= fun value => next value other).toOption := by
  cases first with
  | ok value => rfl
  | error error => cases second <;> rfl

/-- A walk gives the same in another order of its items, whatever its failures, if steps at
items that are apart may change places. -/
theorem toOption_foldlM_of_perm {step : β → α → Except ε β} {apart : α → α → Prop}
    {items others : List α} (hperm : items.Perm others) (hapart : items.Pairwise apart)
    (hsymm : ∀ one other, apart one other → apart other one)
    (hcomm : ∀ one other, apart one other → ∀ state,
      (step state one >>= fun next => step next other).toOption =
        (step state other >>= fun next => step next one).toOption) (start : β) :
    (items.foldlM step start).toOption = (others.foldlM step start).toOption := by
  induction hperm generalizing start with
  | nil => rfl
  | cons item _ ih =>
    rw [List.foldlM_cons, List.foldlM_cons, toOption_bind, toOption_bind]
    exact congrArg _ (funext fun next => ih (List.pairwise_cons.mp hapart).2 next)
  | swap one other rest =>
    have hrun : ∀ first second, ((first :: second :: rest).foldlM step start).toOption =
        (step start first >>= fun next => step next second).toOption.bind
          fun next => (rest.foldlM step next).toOption := by
      intro first second
      simp only [List.foldlM_cons, toOption_bind, Option.bind_assoc]
    have hswap := hcomm other one ((List.pairwise_cons.mp hapart).1 one List.mem_cons_self) start
    rw [hrun, hrun, hswap]
  | trans hfirst _ ih ihRest =>
    rw [ih hapart, ihRest (hfirst.pairwise hapart fun h => hsymm _ _ h)]

end Except

namespace Option

variable {α β : Type}

theorem Rel.mono {R S : α → β → Prop} (hRS : ∀ one other, R one other → S one other)
    {found : Option α} {other : Option β} (h : Rel R found other) : Rel S found other := by
  cases h with
  | some hvalue => exact .some (hRS _ _ hvalue)
  | none => exact .none

/-- A walk over a list that succeeds keeps what each of its steps keeps. -/
theorem foldlM_invariant {step : β → α → Option β} {items : List α} (kept : β → Prop)
    (hstep : ∀ state item next, item ∈ items → kept state → step state item = some next →
      kept next)
    {start final : β} (hstart : kept start) (hrun : items.foldlM step start = some final) :
    kept final := by
  induction items generalizing start with
  | nil =>
    cases hrun
    exact hstart
  | cons item rest ih =>
    rw [List.foldlM_cons] at hrun
    obtain ⟨next, hnext, hrest⟩ := Option.bind_eq_some_iff.mp hrun
    have hkept := hstep start item next List.mem_cons_self hstart hnext
    exact ih (fun state other after hmem => hstep state other after (List.mem_cons_of_mem _ hmem))
      hkept hrest

end Option
