import Gr4ControlPlane.Core.LTS

/-!
# Sequential programs over a shared state, one atomic step at a time

`Prog` is the syntax a method body is written in when other threads may run
between any two of its accesses to shared state: a program has returned or
thrown (`ret`), or its next step is an atomic update (`act`), or it waits
for the answer of code outside the model (`ask`; the query says which call
is outstanding). It is a monad with exceptions, so bodies are written with
`do`, `throw` and `try`/`catch`.

* `exec`: the run of a program on its own, with every query answered by a
  given function.
* `Sat`: what a thread does when others interleave. A thread owns a `view`
  of the state: the others never change it (that is their obligation, the
  frame condition), so between its steps only the rest of the state may
  differ. `Sat` asks of each step that it leaves the views of the other
  threads alone, that `keep` holds across it, and of the end that `post`
  holds of the result and the view.
* `Spec`: `Sat` from every state with a given view, i.e. a triple whose
  assertions speak of the view alone. `spec_bind`, `spec_handle`,
  `spec_act`, `spec_ask` are its rules, one per construct.
-/
namespace Gr4cp.Core

inductive Prog (σ Q : Type) (A : Q → Type) (ε α : Type) : Type where
  | ret (r : Except ε α)
  | act (upd : σ → σ) (next : σ → Prog σ Q A ε α)
  | ask (q : Q) (next : A q → Prog σ Q A ε α)

namespace Prog

variable {σ Q : Type} {A : Q → Type} {ε α β : Type}

def bind : Prog σ Q A ε α → (α → Prog σ Q A ε β) → Prog σ Q A ε β
  | .ret (.ok a), f => f a
  | .ret (.error e), _ => .ret (.error e)
  | .act u n, f => .act u fun s => (n s).bind f
  | .ask q n, f => .ask q fun x => (n x).bind f

/-- `try p catch e => h e`. -/
def handle : Prog σ Q A ε α → (ε → Prog σ Q A ε α) → Prog σ Q A ε α
  | .ret (.ok a), _ => .ret (.ok a)
  | .ret (.error e), h => h e
  | .act u n, h => .act u fun s => (n s).handle h
  | .ask q n, h => .ask q fun x => (n x).handle h

instance : Monad (Prog σ Q A ε) where
  pure a := .ret (.ok a)
  bind := bind

instance : MonadExceptOf ε (Prog σ Q A ε) where
  throw e := .ret (.error e)
  tryCatch := handle

/-- An atomic read. -/
def read (f : σ → β) : Prog σ Q A ε β := .act id fun s => .ret (.ok (f s))

/-- An atomic update. -/
def modify (u : σ → σ) : Prog σ Q A ε Unit := .act u fun _ => .ret (.ok ())

/-- An atomic update that returns a value read from the state before it. -/
def update (u : σ → σ) (f : σ → β) : Prog σ Q A ε β := .act u fun s => .ret (.ok (f s))

@[simp] theorem pure_eq (a : α) : (pure a : Prog σ Q A ε α) = .ret (.ok a) := rfl

@[simp] theorem throw_eq (e : ε) : (throw e : Prog σ Q A ε α) = .ret (.error e) := rfl

@[simp] theorem bind_eq (p : Prog σ Q A ε α) (f : α → Prog σ Q A ε β) : p >>= f = p.bind f := rfl

@[simp] theorem tryCatch_eq (p : Prog σ Q A ε α) (h : ε → Prog σ Q A ε α) :
    tryCatch p h = p.handle h := rfl

/-! ## Running alone -/

/-- The run of a program nobody interrupts; `ans` answers its queries. -/
def exec (ans : ∀ q, A q) : Prog σ Q A ε α → σ → Except ε α × σ
  | .ret r, s => (r, s)
  | .act u n, s => exec ans (n s) (u s)
  | .ask q n, s => exec ans (n (ans q)) s

@[simp] theorem exec_ret (ans : ∀ q, A q) (r : Except ε α) (s : σ) :
    exec ans (.ret r) s = (r, s) := rfl

theorem exec_bind (ans : ∀ q, A q) (p : Prog σ Q A ε α) (f : α → Prog σ Q A ε β) (s : σ) :
    exec ans (p.bind f) s =
      match exec ans p s with
      | (.ok a, s') => exec ans (f a) s'
      | (.error e, s') => (.error e, s') := by
  induction p generalizing s with
  | ret r => cases r <;> rfl
  | act u n ih => exact ih s (u s)
  | ask q n ih => exact ih (ans q) s

theorem exec_handle (ans : ∀ q, A q) (p : Prog σ Q A ε α) (h : ε → Prog σ Q A ε α) (s : σ) :
    exec ans (p.handle h) s =
      match exec ans p s with
      | (.ok a, s') => (.ok a, s')
      | (.error e, s') => exec ans (h e) s' := by
  induction p generalizing s with
  | ret r => cases r <;> rfl
  | act u n ih => exact ih s (u s)
  | ask q n ih => exact ih (ans q) s

/-! ## Running among others -/

variable {ι V : Type}

section Sat

variable (view : ι → σ → V) (keep : σ → σ → Prop) (i : ι)

/-- Thread `i`, from `s`, in the company of threads that leave `view i`
alone. -/
def Sat (post : Except ε α → V → Prop) : Prog σ Q A ε α → σ → Prop
  | .ret r, s => post r (view i s)
  | .act u n, s => ∀ s', view i s' = view i s →
      (∀ j, j ≠ i → view j (u s') = view j s') ∧ keep s' (u s') ∧ Sat post (n s') (u s')
  | .ask _ n, s => ∀ x, Sat post (n x) s

variable {view keep i} {post : Except ε α → V → Prop} {p : Prog σ Q A ε α} {s s' : σ}

/-- Only the owned view matters. -/
theorem Sat.congr (h : Sat view keep i post p s) (hv : view i s' = view i s) :
    Sat view keep i post p s' := by
  induction p generalizing s s' with
  | ret r => simpa only [Sat, hv] using h
  | act u n _ => exact fun t ht => h t (ht.trans hv)
  | ask q n ih => exact fun x => ih x (h x) hv

theorem sat_bind {post : Except ε β → V → Prop} {f : α → Prog σ Q A ε β}
    (h : Sat view keep i (fun r v => match r with
      | .ok a => ∀ t, view i t = v → Sat view keep i post (f a) t
      | .error e => post (.error e) v) p s) :
    Sat view keep i post (p.bind f) s := by
  induction p generalizing s with
  | ret r =>
    cases r with
    | ok a => exact h s rfl
    | error e => exact h
  | act u n ih => exact fun t ht => ⟨(h t ht).1, (h t ht).2.1, ih _ (h t ht).2.2⟩
  | ask q n ih => exact fun x => ih x (h x)

theorem sat_handle {g : ε → Prog σ Q A ε α}
    (h : Sat view keep i (fun r v => match r with
      | .ok a => post (.ok a) v
      | .error e => ∀ t, view i t = v → Sat view keep i post (g e) t) p s) :
    Sat view keep i post (p.handle g) s := by
  induction p generalizing s with
  | ret r =>
    cases r with
    | ok a => exact h
    | error e => exact h s rfl
  | act u n ih => exact fun t ht => ⟨(h t ht).1, (h t ht).2.1, ih _ (h t ht).2.2⟩
  | ask q n ih => exact fun x => ih x (h x)

end Sat

/-! ## Specifications on the owned view -/

section Spec

variable (view : ι → σ → V) (keep : ι → σ → σ → Prop) (i : ι)

/-- From every state whose view is `v`, thread `i` ends as `post` says. -/
def Spec (v : V) (p : Prog σ Q A ε α) (post : Except ε α → V → Prop) : Prop :=
  ∀ s, view i s = v → Sat view (keep i) i post p s

variable {view keep i} {v : V} {p : Prog σ Q A ε α} {post : Except ε α → V → Prop}

theorem spec_ret {r : Except ε α} (h : post r v) :
    Spec view keep i v (.ret r : Prog σ Q A ε α) post := by
  rintro s rfl
  exact h

theorem spec_pure {a : α} (h : post (.ok a) v) :
    Spec view keep i v (pure a : Prog σ Q A ε α) post :=
  spec_ret h

theorem spec_throw {e : ε} (h : post (.error e) v) :
    Spec view keep i v (throw e : Prog σ Q A ε α) post :=
  spec_ret h

theorem spec_ask {q : Q} {n : A q → Prog σ Q A ε α} (h : ∀ x, Spec view keep i v (n x) post) :
    Spec view keep i v (.ask q n) post :=
  fun s hs x => h x s hs

theorem spec_act {u : σ → σ} {n : σ → Prog σ Q A ε α}
    (h : ∀ s, view i s = v → (∀ j, j ≠ i → view j (u s) = view j s) ∧ keep i s (u s) ∧
      Spec view keep i (view i (u s)) (n s) post) :
    Spec view keep i v (.act u n) post := by
  rintro s rfl t ht
  obtain ⟨hf, hk, hn⟩ := h t ht
  exact ⟨hf, hk, hn _ rfl⟩

theorem spec_bind {f : α → Prog σ Q A ε β} {post : Except ε β → V → Prop}
    (h : Spec view keep i v p fun r v' => match r with
      | .ok a => Spec view keep i v' (f a) post
      | .error e => post (.error e) v') :
    Spec view keep i v (p >>= f) post :=
  fun s hs => sat_bind (h s hs)

theorem spec_handle {g : ε → Prog σ Q A ε α}
    (h : Spec view keep i v p fun r v' => match r with
      | .ok a => post (.ok a) v'
      | .error e => Spec view keep i v' (g e) post) :
    Spec view keep i v (tryCatch p g) post :=
  fun s hs => sat_handle (h s hs)

end Spec

end Prog

end Gr4cp.Core
