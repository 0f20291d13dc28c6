import Mathlib.Data.List.Forall2

/-!
Outcomes of what may fail.

What succeeds did so in every step. Two computations that may fail differently agree when their
results do, and then so do all computations that go on from them alike.
-/

namespace CmsTypings

variable {ε α β γ : Type}

@[simp] lemma ok_bind (a : α) (f : α → Except ε β) : (Except.ok a >>= f) = f a := rfl

lemma error_bind (e : ε) (f : α → Except ε β) : (Except.error e >>= f) = .error e := rfl

lemma throw_eq_error (e : ε) : (throw e : Except ε α) = .error e := rfl

lemma pure_eq_ok (a : α) : (pure a : Except ε α) = .ok a := rfl

lemma bind_eq_ok {x : Except ε α} {f : α → Except ε β} {b : β} :
    (x >>= f) = .ok b ↔ ∃ a, x = .ok a ∧ f a = .ok b := by
  cases x <;> simp [bind, Except.bind]

lemma map_eq_ok {f : α → β} {x : Except ε α} {b : β} :
    x.map f = .ok b ↔ ∃ a, x = .ok a ∧ f a = b := by
  cases x <;> simp [Except.map]

/-- Steps that all succeed succeed in a row. -/
lemma exists_foldlM {f : β → α → Except ε β} {l : List α}
    (h : ∀ a ∈ l, ∀ b, ∃ b', f b a = .ok b') (b : β) : ∃ b', l.foldlM f b = .ok b' := by
  induction l generalizing b with
  | nil => exact ⟨b, rfl⟩
  | cons a l ih =>
    obtain ⟨ha, hl⟩ := List.forall_mem_cons.1 h
    obtain ⟨b', hb'⟩ := ha b
    rw [List.foldlM_cons, hb', ok_bind]
    exact ih hl b'

lemma toOption_eq_some {x : Except ε α} {a : α} : x.toOption = some a ↔ x = .ok a := by
  cases x <;> simp [Except.toOption]

lemma toOption_bind (x : Except ε α) (f : α → Except ε β) :
    (x >>= f).toOption = x.toOption.bind fun a => (f a).toOption := by
  cases x <;> rfl

lemma toOption_bind_congr {x y : Except ε α} {f g : α → Except ε β}
    (hx : x.toOption = y.toOption) (hf : ∀ a, (f a).toOption = (g a).toOption) :
    (x >>= f).toOption = (y >>= g).toOption := by
  simp only [toOption_bind, hx, hf]

lemma toOption_map (f : α → β) (x : Except ε α) : (x.map f).toOption = x.toOption.map f := by
  cases x <;> rfl

lemma toOption_mapM {f : β → Except ε α} {g : γ → Except ε α} {bs : List β} {cs : List γ}
    (h : List.Forall₂ (fun b c => (f b).toOption = (g c).toOption) bs cs) :
    (bs.mapM f).toOption = (cs.mapM g).toOption := by
  induction h with
  | nil => rfl
  | cons hhead _ ih =>
    rw [List.mapM_cons, List.mapM_cons]
    exact toOption_bind_congr hhead fun b => toOption_bind_congr ih fun bs => rfl

end CmsTypings
