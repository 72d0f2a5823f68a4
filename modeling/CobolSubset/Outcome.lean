/-!
# Outcomes

A computation that may fail is an `Except` of its own kind of error. A chain of steps succeeds
exactly if each step does, and fails like the first of its steps that fails. A computation on files
has them as its state.
-/

namespace CobolSubset

/-- Two steps succeed exactly if the first does and the second does on its value. -/
theorem bind_eq_ok_iff {ε α β : Type} {x : Except ε α} {f : α → Except ε β} {b : β} :
    x >>= f = .ok b ↔ ∃ a, x = .ok a ∧ f a = .ok b := by
  cases x with
  | error e => simp [bind, Except.bind]
  | ok a => simp [bind, Except.bind]

/-- Two steps fail exactly if the first does, or the second does on its value. -/
theorem bind_eq_error_iff {ε α β : Type} {x : Except ε α} {f : α → Except ε β} {e : ε} :
    x >>= f = .error e ↔ x = .error e ∨ ∃ a, x = .ok a ∧ f a = .error e := by
  cases x with
  | error e' => simp [bind, Except.bind]
  | ok a => simp [bind, Except.bind]

/-- Steps along a list succeed exactly if all of them do, with their values in order. -/
theorem mapM_eq_ok_iff {ε α β : Type} {f : α → Except ε β} {as : List α} {bs : List β} :
    as.mapM f = .ok bs ↔ as.map f = bs.map .ok := by
  induction as generalizing bs with
  | nil => cases bs <;> simp [pure, Except.pure]
  | cons a as ih =>
    rw [List.mapM_cons, bind_eq_ok_iff]
    simp only [bind_eq_ok_iff, ih]
    cases bs with
    | nil => simp [pure, Except.pure]
    | cons b bs => simp [pure, Except.pure]

/-- The values of steps along a list are cut where the list is. -/
theorem exists_of_map_append_cons {ε α β : Type} {f : α → Except ε β} {before after : List α} {a : α}
    {bs : List β} (h : (before ++ a :: after).map f = bs.map .ok) :
    ∃ first b last, bs = first ++ b :: last ∧ before.map f = first.map .ok ∧ f a = .ok b ∧
      after.map f = last.map .ok := by
  rw [List.map_append, List.map_cons, eq_comm, List.map_eq_append_iff] at h
  obtain ⟨first, more, rfl, hfirst, hmore⟩ := h
  obtain ⟨b, last, rfl, hb, hlast⟩ := List.map_eq_cons_iff.1 hmore
  exact ⟨first, b, last, rfl, hfirst.symm, hb.symm, hlast.symm⟩

/-- Steps along a list fail exactly if one of them does, with the error of the first that does. -/
theorem mapM_eq_error_iff {ε α β : Type} {f : α → Except ε β} {as : List α} {e : ε} :
    as.mapM f = .error e ↔
      ∃ before a after, as = before ++ a :: after ∧ (∀ x ∈ before, ∃ b, f x = .ok b) ∧
        f a = .error e := by
  induction as with
  | nil => simp [pure, Except.pure]
  | cons a as ih =>
    rw [List.mapM_cons, bind_eq_error_iff]
    constructor
    · rintro (ha | ⟨b, hb, hmore⟩)
      · exact ⟨[], a, as, rfl, by simp, ha⟩
      · rcases bind_eq_error_iff.1 hmore with htail | ⟨bs, _, hdone⟩
        · obtain ⟨before, x, after, rfl, hbefore, hx⟩ := ih.1 htail
          refine ⟨a :: before, x, after, rfl, ?_, hx⟩
          intro y hy
          rcases List.mem_cons.1 hy with rfl | hy
          · exact ⟨b, hb⟩
          · exact hbefore y hy
        · cases hdone
    · rintro ⟨before, x, after, hsplit, hbefore, hx⟩
      cases before with
      | nil =>
        cases hsplit
        exact .inl hx
      | cons y before =>
        cases hsplit
        obtain ⟨b, hb⟩ := hbefore a List.mem_cons_self
        have htail := ih.2 ⟨before, x, after, rfl,
          fun z hz => hbefore z (List.mem_cons_of_mem _ hz), hx⟩
        exact .inr ⟨b, hb, bind_eq_error_iff.2 (.inl htail)⟩

/-- What does not succeed fails. -/
theorem exists_eq_error_iff {ε α : Type} {x : Except ε α} :
    (∃ e, x = .error e) ↔ ¬ ∃ a, x = .ok a := by
  cases x with
  | error e => simp
  | ok a => simp

/-- A change of the value leaves failure alone. -/
theorem map_eq_error_iff {ε α β : Type} {f : α → β} {x : Except ε α} {e : ε} :
    x.map f = .error e ↔ x = .error e := by
  cases x with
  | error e' => simp [Except.map]
  | ok a => simp [Except.map]

/-- Steps along a list have values exactly if each of them has one. -/
theorem exists_mapM_eq_ok_iff {ε α β : Type} {f : α → Except ε β} {as : List α} :
    (∃ bs, as.mapM f = .ok bs) ↔ ∀ a ∈ as, ∃ b, f a = .ok b := by
  constructor
  · rintro ⟨bs, hbs⟩ a ha
    have hmem : f a ∈ bs.map .ok := mapM_eq_ok_iff.1 hbs ▸ List.mem_map_of_mem ha
    obtain ⟨b, -, hb⟩ := List.mem_map.1 hmem
    exact ⟨b, hb.symm⟩
  · intro hall
    cases hmapM : as.mapM f with
    | ok bs => exact ⟨bs, rfl⟩
    | error e =>
      obtain ⟨before, a, after, rfl, -, ha⟩ := mapM_eq_error_iff.1 hmapM
      obtain ⟨b, hb⟩ := hall a (by simp)
      rw [hb] at ha
      cases ha

/-- Of two steps on a state the second goes on where the first has left it. -/
theorem bind_state_eq {σ α β : Type} {x : StateM σ α} {f : α → StateM σ β} {s s' : σ} {a : α}
    (h : x s = (a, s')) : (x >>= f) s = f a s' := by
  show (match x s with | (a, s) => f a s) = f a s'
  rw [h]

section Failing

variable {ε σ α β : Type} {x : ExceptT ε (StateM σ) α} {f : α → ExceptT ε (StateM σ) β} {s s' : σ}

/-- A step on a state that succeeds hands on its value. -/
theorem bind_state_ok {a : α} (h : x s = (.ok a, s')) : (x >>= f) s = f a s' :=
  @bind_state_eq σ (Except ε α) (Except ε β) x (ExceptT.bindCont f) s s' (.ok a) h

/-- After a step on a state that fails nothing more is done. -/
theorem bind_state_error {e : ε} (h : x s = (.error e, s')) : (x >>= f) s = (.error e, s') :=
  @bind_state_eq σ (Except ε α) (Except ε β) x (ExceptT.bindCont f) s s' (.error e) h

end Failing

end CobolSubset
