set_option autoImplicit false

/-! # What holds after a computation

Openers, advisers, hashers and files act in a context of effects. Statements about all of them take a
world of any type as that context: a computation reads and changes the world, and `After x w Q` says
that `Q` holds of its result and of the world it leaves behind, when it starts in `w`. The condition
passes through sequencing, so a long procedure is followed step by step, each step by a lemma of its
own. -/

namespace SteadyFetch

/-- After the computation `x`, started in the world `w`, its result and the world satisfy `Q`. -/
def After {W α : Type} (x : StateM W α) (w : W) (Q : α → W → Prop) : Prop :=
  Q (x w).1 (x w).2

theorem bind_apply {W α β : Type} (x : StateM W α) (f : α → StateM W β) (w : W) :
    (x >>= f) w = f (x w).1 (x w).2 := rfl

theorem map_apply {W α β : Type} (f : α → β) (x : StateM W α) (w : W) :
    (f <$> x) w = (f (x w).1, (x w).2) := rfl

namespace After

variable {W α β : Type} {w : W}

theorem imp {Q R : α → W → Prop} {x : StateM W α} (h : After x w Q)
    (hQR : ∀ a w', Q a w' → R a w') : After x w R :=
  hQR _ _ h

theorem and {P Q : α → W → Prop} {x : StateM W α} (hP : After x w P) (hQ : After x w Q) :
    After x w fun a w' => P a w' ∧ Q a w' :=
  ⟨hP, hQ⟩

@[simp] theorem pure_iff {Q : α → W → Prop} (a : α) :
    After (pure a : StateM W α) w Q ↔ Q a w :=
  Iff.rfl

/-- The first step is followed by a lemma of its own, the rest from where it ends. -/
theorem bind {P : α → W → Prop} {Q : β → W → Prop} {x : StateM W α} {f : α → StateM W β}
    (hx : After x w P) (hf : ∀ a w', P a w' → After (f a) w' Q) : After (x >>= f) w Q :=
  hf _ _ hx

end After

/-- Whether two computations do the same to every world, with results that are related. -/
def Alike {W α β : Type} (R : α → β → Prop) (x : StateM W α) (y : StateM W β) : Prop :=
  ∀ w, R (x w).1 (y w).1 ∧ (x w).2 = (y w).2

namespace Alike

variable {W α β α' β' : Type} {R : α → β → Prop} {S : α' → β' → Prop}

theorem pure {a : α} {b : β} (h : R a b) : Alike R (pure a : StateM W α) (pure b) := fun _ => ⟨h, rfl⟩

/-- What goes on alike from related results is alike. -/
theorem bind {x : StateM W α} {y : StateM W β} {f : α → StateM W α'} {g : β → StateM W β'}
    (hx : Alike R x y) (hf : ∀ a b, R a b → Alike S (f a) (g b)) : Alike S (x >>= f) (y >>= g) := by
  intro w
  obtain ⟨hresult, hworld⟩ := hx w
  show S (f (x w).1 (x w).2).1 (g (y w).1 (y w).2).1 ∧ (f (x w).1 (x w).2).2 = (g (y w).1 (y w).2).2
  rw [← hworld]
  exact hf _ _ hresult (x w).2

theorem bind_left {x : StateM W α} {f : α → StateM W α'} {g : α → StateM W β'}
    (hf : ∀ a, Alike S (f a) (g a)) : Alike S (x >>= f) (x >>= g) :=
  fun w => hf (x w).1 (x w).2

end Alike

/-! ## Computations that fail -/

/-- What succeeds has succeeded in its first step. -/
theorem ok_of_bind {ε α β : Type} {first : Except ε α} {next : α → Except ε β} {result : β}
    (h : first >>= next = .ok result) : ∃ found, first = .ok found ∧ next found = .ok result := by
  rcases first with _ | found
  · cases h
  · exact ⟨found, rfl, h⟩

theorem ok_of_check {ε α : Type} {p : Prop} [Decidable p] {e : ε} {x : Except ε α} {a : α}
    (h : (if p then .error e else x) = .ok a) : ¬p ∧ x = .ok a := by
  by_cases hp : p
  · rw [if_pos hp] at h
    cases h
  · rw [if_neg hp] at h
    exact ⟨hp, h⟩

end SteadyFetch
