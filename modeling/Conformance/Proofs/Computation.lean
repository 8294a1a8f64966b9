import Mathlib.Tactic

/-!
# Computations that may fail

What follows from the result of a computation that goes on while nothing fails: which
parts of it succeeded, and with what, or which part failed.
-/

namespace Conformance

theorem bind_eq_ok {ε α β : Type} {x : Except ε α} {f : α → Except ε β} {b : β} :
    x >>= f = .ok b ↔ ∃ a, x = .ok a ∧ f a = .ok b := by
  cases x with
  | error e => simp [bind, Except.bind]
  | ok a => simp [bind, Except.bind]

theorem bind_eq_error {ε α β : Type} {x : Except ε α} {f : α → Except ε β} {e : ε} :
    x >>= f = .error e ↔ x = .error e ∨ ∃ a, x = .ok a ∧ f a = .error e := by
  cases x with
  | error cause => simp [bind, Except.bind]
  | ok a => simp [bind, Except.bind]

/-- A guarded result is reached if the guard holds. -/
theorem ite_error_eq_ok {ε α : Type} {c : Prop} [Decidable c] {a b : α} {e : ε} :
    (if c then Except.ok a else .error e) = .ok b ↔ c ∧ a = b := by
  by_cases hc : c
  · simp [hc]
  · simp [hc]

/-- A traversal that succeeds has succeeded member by member. -/
theorem mapM_eq_ok {ε α β : Type} {f : α → Except ε β} {list : List α} {results : List β} :
    list.mapM f = .ok results ↔ List.Forall₂ (fun a b => f a = .ok b) list results := by
  induction list generalizing results with
  | nil =>
      rw [List.mapM_nil, List.forall₂_nil_left_iff]
      exact ⟨fun h => (Except.ok.inj h).symm, fun h => congrArg Except.ok h.symm⟩
  | cons a rest ih =>
      rw [List.mapM_cons, bind_eq_ok, List.forall₂_cons_left_iff]
      constructor
      · intro hsucceeds
        obtain ⟨b, hb, htail⟩ := hsucceeds
        obtain ⟨later, hlater, hresults⟩ := bind_eq_ok.mp htail
        have hrest : List.Forall₂ (fun a b => f a = .ok b) rest later := ih.mp hlater
        have hsplit : results = b :: later := (Except.ok.inj hresults).symm
        exact ⟨b, later, hb, hrest, hsplit⟩
      · intro hmembers
        obtain ⟨b, later, hb, hrest, hsplit⟩ := hmembers
        have hlater : rest.mapM f = .ok later := ih.mpr hrest
        refine ⟨b, hb, bind_eq_ok.mpr ⟨later, hlater, ?_⟩⟩
        rw [hsplit]
        rfl

/-- Members of one kind lead up to a member of another: it is the first of the list, or the
first is of the one kind and the same holds of the rest. -/
theorem exists_split_cons {α : Type} (P : α → Prop) (Q : Nat → α → Prop) {head : α}
    {rest : List α} :
    (∃ before a after, head :: rest = before ++ a :: after ∧ (∀ other ∈ before, P other) ∧
        Q before.length a) ↔
      Q 0 head ∨ P head ∧ ∃ before a after, rest = before ++ a :: after ∧
        (∀ other ∈ before, P other) ∧ Q (before.length + 1) a := by
  constructor
  · intro hsplit
    obtain ⟨before, a, after, hlist, hbefore, ha⟩ := hsplit
    cases before with
    | nil =>
        have hhead : head = a := (List.cons.inj hlist).1
        rw [hhead]
        exact .inl ha
    | cons first before =>
        have hhead : head = first := (List.cons.inj hlist).1
        have hrest : rest = before ++ a :: after := (List.cons.inj hlist).2
        have hkinds := List.forall_mem_cons.mp hbefore
        rw [hhead]
        exact .inr ⟨hkinds.1, before, a, after, hrest, hkinds.2, ha⟩
  · intro hsplit
    cases hsplit with
    | inl hhead => exact ⟨[], head, rest, rfl, by simp, hhead⟩
    | inr hlater =>
        obtain ⟨hhead, before, a, after, hrest, hbefore, ha⟩ := hlater
        have hlist : head :: rest = (head :: before) ++ a :: after := by
          rw [hrest, List.cons_append]
        have hkinds : ∀ other ∈ head :: before, P other :=
          List.forall_mem_cons.mpr ⟨hhead, hbefore⟩
        exact ⟨head :: before, a, after, hlist, hkinds, ha⟩

/-- A traversal that fails has failed at the first member that fails. -/
theorem mapM_eq_error {ε α β : Type} {f : α → Except ε β} {list : List α} {e : ε} :
    list.mapM f = .error e ↔
      ∃ before a after, list = before ++ a :: after ∧
        (∀ other ∈ before, ∃ b, f other = .ok b) ∧ f a = .error e := by
  induction list with
  | nil =>
      rw [List.mapM_nil]
      constructor
      · intro hfails
        cases hfails
      · intro hfirst
        obtain ⟨before, a, after, hlist, _⟩ := hfirst
        simp at hlist
  | cons head rest ih =>
      rw [exists_split_cons (fun other => ∃ b, f other = .ok b) (fun _ a => f a = .error e),
        ← ih, List.mapM_cons, bind_eq_error]
      apply or_congr_right
      constructor
      · intro hfails
        obtain ⟨b, hb, htail⟩ := hfails
        cases bind_eq_error.mp htail with
        | inl hlater => exact ⟨⟨b, hb⟩, hlater⟩
        | inr hdone =>
            obtain ⟨later, _, hresult⟩ := hdone
            cases hresult
      · intro hlater
        obtain ⟨b, hb⟩ := hlater.1
        exact ⟨b, hb, bind_eq_error.mpr (.inl hlater.2)⟩

theorem exists_of_mapM_eq_ok {ε α β : Type} {f : α → Except ε β} {list : List α}
    {results : List β} (hmap : list.mapM f = .ok results) {b : β} (hb : b ∈ results) :
    ∃ a ∈ list, f a = .ok b := by
  rw [mapM_eq_ok] at hmap
  induction hmap with
  | nil => cases hb
  | @cons a head rest later hhead _ ih =>
      cases List.mem_cons.mp hb with
      | inl hsame =>
          rw [hsame]
          exact ⟨a, List.mem_cons_self .., hhead⟩
      | inr hlater =>
          obtain ⟨other, hother, hresult⟩ := ih hlater
          exact ⟨other, List.mem_cons_of_mem a hother, hresult⟩

end Conformance
