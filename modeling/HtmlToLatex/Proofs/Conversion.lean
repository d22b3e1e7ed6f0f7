import Mathlib.Data.List.Forall2
import HtmlToLatex.World

set_option autoImplicit false

/-! # Reasoning about conversions

Three judgments on a conversion, each with one rule for `pure`, one for `>>=` and one for `mapM`:
`Yields` is about the result in any world, `Agree` about two conversions run side by side, and
`Runs` about the world afterwards. A property of the whole walk over a tree is put together from
these rules; nobody else has to unfold the state monad. Computations that can fail are simpler and
get along with `exists_of_bind_eq_ok`. -/

namespace HtmlToLatex

/-- If a bind succeeds, so do both of its halves. -/
theorem exists_of_bind_eq_ok {ε α β : Type} {m : Except ε α} {f : α → Except ε β} {b : β}
    (h : m >>= f = .ok b) : ∃ a, m = .ok a ∧ f a = .ok b := by
  cases m with
  | error e => cases h
  | ok a => exact ⟨a, rfl, h⟩

/-- A bind succeeds if both of its halves do. -/
theorem isOk_bind_iff {ε α β : Type} {m : Except ε α} {f : α → Except ε β} :
    (m >>= f).isOk = true ↔ ∃ a, m = .ok a ∧ (f a).isOk = true := by
  constructor
  · intro h
    cases m with
    | error e => cases h
    | ok a => exact ⟨a, rfl, h⟩
  · rintro ⟨a, rfl, h⟩
    exact h

namespace Conversion

variable {α β : Type}

/-- A bind hands on the result and the world. -/
theorem run_bind (m : Conversion α) (f : α → Conversion β) (w : World) :
    (m >>= f).run w = (f (m.run w).1).run (m.run w).2 := rfl

/-! ## Results -/

/-- The result has a property, whatever the world is. -/
def Yields (m : Conversion α) (P : α → Prop) : Prop :=
  ∀ w, P (m.run w).1

theorem Yields.pure {P : α → Prop} {a : α} (h : P a) : Yields (pure a) P := fun _ => h

theorem Yields.bind {m : Conversion α} {f : α → Conversion β} {P : α → Prop} {Q : β → Prop}
    (hm : Yields m P) (hf : ∀ a, P a → Yields (f a) Q) : Yields (m >>= f) Q := by
  intro w
  rw [run_bind]
  exact hf _ (hm w) _

/-- What is done before has no part in the result if nobody looks at what came of it. -/
theorem Yields.after {m : Conversion β} {Q : β → Prop} (hm : Yields m Q) (first : Conversion α) :
    Yields (first >>= fun _ => m) Q :=
  fun _ => hm _

/-- A bind whose second half only computes. -/
theorem Yields.map {m : Conversion α} {f : α → β} {P : α → Prop} {Q : β → Prop}
    (hm : Yields m P) (hf : ∀ a, P a → Q (f a)) : Yields (m >>= fun a => Pure.pure (f a)) Q :=
  hm.bind fun a ha => Yields.pure (hf a ha)

theorem Yields.mapM {f : α → Conversion β} {P : α → β → Prop} (l : List α)
    (h : ∀ a ∈ l, Yields (f a) (P a)) : Yields (l.mapM f) (List.Forall₂ P l) := by
  induction l with
  | nil => exact Yields.pure .nil
  | cons a l ih =>
      rw [List.mapM_cons]
      refine (h a (by simp)).bind fun b hb => ?_
      exact (ih fun c hc => h c (by simp [hc])).map fun bs hbs => .cons hb hbs

theorem Yields.mapM_forall {f : α → Conversion β} {Q : β → Prop} (l : List α)
    (h : ∀ a ∈ l, Yields (f a) Q) : Yields (l.mapM f) fun bs => ∀ b ∈ bs, Q b := by
  induction l with
  | nil => exact Yields.pure nofun
  | cons a l ih =>
      rw [List.mapM_cons]
      refine (h a (by simp)).bind fun b hb => ?_
      exact (ih fun c hc => h c (by simp [hc])).map fun bs hbs => List.forall_mem_cons.2 ⟨hb, hbs⟩

/-! ## Two conversions side by side -/

/-- From related worlds, both conversions give one result and lead to related worlds. -/
def Agree (R : World → World → Prop) (m m' : Conversion α) : Prop :=
  ∀ w w', R w w' → (m.run w).1 = (m'.run w').1 ∧ R (m.run w).2 (m'.run w').2

variable {R : World → World → Prop}

theorem Agree.of_eq {m m' : Conversion α} (h : m = m') : Agree (· = ·) m m' := by
  rintro w _ rfl
  rw [h]
  exact ⟨rfl, rfl⟩

/-- Conversions that agree from equal worlds are equal. -/
theorem Agree.eq {m m' : Conversion α} (h : Agree (· = ·) m m') : m = m' :=
  funext fun w => Prod.ext (h w w rfl).1 (h w w rfl).2

theorem Agree.pure (a : α) : Agree R (pure a) (pure a) := fun _ _ h => ⟨rfl, h⟩

theorem Agree.bind {m m' : Conversion α} {f f' : α → Conversion β} (hm : Agree R m m')
    (hf : ∀ a, Agree R (f a) (f' a)) : Agree R (m >>= f) (m' >>= f') := by
  intro w w' h
  obtain ⟨hval, hworld⟩ := hm w w' h
  rw [run_bind, run_bind, ← hval]
  exact hf _ _ _ hworld

/-- A bind whose second half computes the same on both sides. -/
theorem Agree.map {m m' : Conversion α} (hm : Agree R m m') (f : α → β) :
    Agree R (m >>= fun a => Pure.pure (f a)) (m' >>= fun a => Pure.pure (f a)) :=
  hm.bind fun a => Agree.pure (f a)

theorem Agree.mapM {f f' : α → Conversion β} (l : List α) (h : ∀ a ∈ l, Agree R (f a) (f' a)) :
    Agree R (l.mapM f) (l.mapM f') := by
  induction l with
  | nil => exact Agree.pure []
  | cons a l ih =>
      rw [List.mapM_cons, List.mapM_cons]
      refine (h a (by simp)).bind fun b => ?_
      exact (ih fun c hc => h c (by simp [hc])).map _

/-! ## Worlds -/

/-- The world afterwards is that of some steps, taken one after the other. -/
def Runs {ε : Type} (step : World → ε → World) (m : Conversion α) (steps : List ε) : Prop :=
  ∀ w, (m.run w).2 = steps.foldl step w

variable {ε : Type} {step : World → ε → World}

theorem Runs.pure (a : α) : Runs step (pure a) [] := fun _ => rfl

theorem Runs.bind {m : Conversion α} {f : α → Conversion β} {front back : List ε}
    (hm : Runs step m front) (hf : ∀ a, Runs step (f a) back) :
    Runs step (m >>= f) (front ++ back) := by
  intro w
  rw [run_bind, hf, hm, List.foldl_append]

theorem Runs.map {m : Conversion α} {steps : List ε} (hm : Runs step m steps) (f : α → β) :
    Runs step (m >>= fun a => Pure.pure (f a)) steps := by
  simpa using hm.bind fun a => Runs.pure (f a)

theorem Runs.mapM {f : α → Conversion β} {steps : α → List ε} (l : List α)
    (h : ∀ a ∈ l, Runs step (f a) (steps a)) : Runs step (l.mapM f) (l.flatMap steps) := by
  induction l with
  | nil => exact Runs.pure []
  | cons a l ih =>
      rw [List.mapM_cons, List.flatMap_cons]
      refine (h a (by simp)).bind fun b => ?_
      exact (ih fun c hc => h c (by simp [hc])).map _

/-- A property of worlds that every step keeps is kept by the whole run. -/
theorem Runs.keeps {m : Conversion α} {steps : List ε} (hm : Runs step m steps) {P : World → Prop}
    (hstep : ∀ w, P w → ∀ e ∈ steps, P (step w e)) {w : World} (hw : P w) : P (m.run w).2 := by
  rw [hm]
  exact List.foldlRecOn steps step hw hstep

end Conversion
end HtmlToLatex
