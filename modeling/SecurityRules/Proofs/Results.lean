/-!
# Results

Computations that may fail are put together by `map` and `mapM`. What the whole
gives says what its parts gave, and the other way around. Whether a certain result
is reached can be decided, whatever the faults are, so what the program makes of a
fixed input is found by running it.
-/

namespace SecurityRules

variable {ε α β : Type}

instance decidableEqOk [DecidableEq α] (x : Except ε α) (a : α) : Decidable (x = .ok a) :=
  match x with
  | .ok b => decidable_of_decidable_of_iff (p := b = a) ⟨congrArg Except.ok, Except.ok.inj⟩
  | .error _ => isFalse nofun

theorem exceptMap_eq_ok {x : Except ε α} {f : α → β} {b : β} (h : x.map f = .ok b) :
    ∃ a, x = .ok a ∧ f a = b := by
  cases x with
  | error e => cases h
  | ok a =>
      cases h
      exact ⟨a, rfl, rfl⟩

theorem exceptMap_eq_error {x : Except ε α} {f : α → β} {e : ε} (h : x.map f = .error e) :
    x = .error e := by
  cases x with
  | error e' =>
      cases h
      rfl
  | ok a => cases h

theorem exceptMap_cons_eq_ok_iff {x : Except ε (List α)} {a : α} {result : List α} :
    x.map (a :: ·) = .ok result ↔ ∃ rest, x = .ok rest ∧ result = a :: rest := by
  cases x with
  | error e => exact ⟨nofun, fun ⟨_, h, _⟩ => nomatch h⟩
  | ok rest => simp [Except.map, eq_comm]

theorem mapM_eq_ok {f : α → Except ε β} {g : α → β} {items : List α}
    (h : ∀ a ∈ items, f a = .ok (g a)) : items.mapM f = .ok (items.map g) := by
  induction items with
  | nil => rfl
  | cons a items ih =>
      rw [List.mapM_cons, h a List.mem_cons_self, ih fun b hb => h b (List.mem_cons_of_mem a hb)]
      rfl

theorem exists_of_mapM_eq_ok {f : α → Except ε β} {items : List α} {results : List β}
    (h : items.mapM f = .ok results) {a : α} (ha : a ∈ items) : ∃ b, f a = .ok b := by
  induction items generalizing results with
  | nil => cases ha
  | cons first items ih =>
      rw [List.mapM_cons] at h
      cases hfirst : f first with
      | error fault =>
          rw [hfirst] at h
          cases h
      | ok b =>
          cases hrest : items.mapM f with
          | error fault =>
              rw [hfirst, hrest] at h
              cases h
          | ok rest =>
              rcases List.mem_cons.mp ha with rfl | ha
              · exact ⟨b, hfirst⟩
              · exact ih hrest ha

end SecurityRules
