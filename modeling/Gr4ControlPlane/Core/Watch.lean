import Gr4ControlPlane.Core.Threads

/-!
# Watching what a thread does

`Sat` speaks of what a program leaves behind. A `Watch` looks at its steps as
well: what it asks in which view, and the events in the answers it hears. It
may leave out some answers, so that what follows from them need not be shown.

* `Watched`: from a state, with the events heard so far, the program asks
  only what it may, and ends as `post` says; between its steps all but the
  view may differ.
* `Watches`: the same from every state with a given view, as a triple;
  `watches_bind`, `watches_handle`, `watches_act`, `watches_ask` are its
  rules, one per construct.
* `Watched.next`, `Watched.exec`: one step of a program, and its run alone.
* `Pool.watched_step`: one step of a pool, for the thread of one index.
-/
namespace Gr4cp.Core

namespace Prog

structure Watch (σ Q : Type) (A : Q → Type) (V E : Type) where
  view : σ → V
  /-- the events in an answer -/
  hears : ∀ q, A q → List E
  /-- what may be asked in a view -/
  may : Q → V → Prop
  /-- the answers taken into account -/
  allowed : ∀ q, A q → Prop

variable {σ Q : Type} {A : Q → Type} {ε α β V E : Type}

/-- What the next step of a program hears. -/
def heard (w : Watch σ Q A V E) (ans : ∀ q, A q) : Prog σ Q A ε α → List E
  | .ret _ | .act _ _ => []
  | .ask q _ => w.hears q (ans q)

/-- From `s`, with the events `es` heard before. -/
def Watched (w : Watch σ Q A V E) (post : List E → Except ε α → V → Prop) :
    List E → Prog σ Q A ε α → σ → Prop
  | es, .ret r, s => post es r (w.view s)
  | es, .act u n, s => ∀ s', w.view s' = w.view s →
      Watched w post es (n s') (u s')
  | es, .ask q n, s =>
    w.may q (w.view s) ∧ ∀ x, w.allowed q x → Watched w post (es ++ w.hears q x) (n x) s

section Watched

variable {w : Watch σ Q A V E} {post : List E → Except ε α → V → Prop} {es : List E}
  {p p' : Prog σ Q A ε α} {s s' : σ}

/-- Only the view matters. -/
theorem Watched.congr (h : Watched w post es p s) (hv : w.view s' = w.view s) :
    Watched w post es p s' := by
  induction p generalizing es s s' with
  | ret r => simpa only [Watched, hv] using h
  | act u n _ => exact fun t ht => h t (ht.trans hv)
  | ask q n ih => exact ⟨by rw [hv]; exact h.1, fun x hx => ih x (h.2 x hx) hv⟩

theorem watched_bind {post : List E → Except ε β → V → Prop} {f : α → Prog σ Q A ε β}
    (h : Watched w (fun es r v => match r with
      | .ok a => ∀ t, w.view t = v → Watched w post es (f a) t
      | .error e => post es (.error e) v) es p s) :
    Watched w post es (p.bind f) s := by
  induction p generalizing es s with
  | ret r =>
    cases r with
    | ok a => exact h s rfl
    | error e => exact h
  | act u n ih => exact fun t ht => ih _ (h t ht)
  | ask q n ih => exact ⟨h.1, fun x hx => ih x (h.2 x hx)⟩

theorem watched_handle {g : ε → Prog σ Q A ε α}
    (h : Watched w (fun es r v => match r with
      | .ok a => post es (.ok a) v
      | .error e => ∀ t, w.view t = v → Watched w post es (g e) t) es p s) :
    Watched w post es (p.handle g) s := by
  induction p generalizing es s with
  | ret r =>
    cases r with
    | ok a => exact h
    | error e => exact h s rfl
  | act u n ih => exact fun t ht => ih _ (h t ht)
  | ask q n ih => exact ⟨h.1, fun x hx => ih x (h.2 x hx)⟩

theorem heard_bind {f : α → Prog σ Q A ε β} {ans : ∀ q, A q} (hn : p.next ans s = some (p', s')) :
    heard w ans (p.bind f) = heard w ans p := by
  cases p with
  | ret r => cases hn
  | act u n => rfl
  | ask q n => rfl

/-- One step, if what it is answered is taken into account. -/
theorem Watched.next {ans : ∀ q, A q} (h : Watched w post es p s)
    (hn : p.next ans s = some (p', s')) (hans : ∀ q n, p = .ask q n → w.allowed q (ans q)) :
    Watched w post (es ++ heard w ans p) p' s' := by
  cases p with
  | ret r => cases hn
  | act u n =>
    cases hn
    rw [heard, List.append_nil]
    exact h s rfl
  | ask q n =>
    cases hn
    exact h.2 _ (hans q n rfl)

theorem Watched.exec {ans : ∀ q, A q} (h : Watched w post es p s)
    (hans : ∀ q, w.allowed q (ans q)) :
    ∃ es', post es' (exec ans p s).1 (w.view (exec ans p s).2) := by
  induction p generalizing es s with
  | ret r => exact ⟨es, h⟩
  | act u n ih => exact ih s (h s rfl)
  | ask q n ih => exact ih _ (h.2 _ (hans q))

end Watched

/-! ## Rules -/

/-- From every state whose view is `v`, with the events `es` heard before. -/
def Watches (w : Watch σ Q A V E) (es : List E) (v : V) (p : Prog σ Q A ε α)
    (post : List E → Except ε α → V → Prop) : Prop :=
  ∀ s, w.view s = v → Watched w post es p s

section Rules

variable {w : Watch σ Q A V E} {es : List E} {v : V} {p : Prog σ Q A ε α}
  {post : List E → Except ε α → V → Prop}

theorem watches_ret {r : Except ε α} (h : post es r v) :
    Watches w es v (.ret r : Prog σ Q A ε α) post := by
  rintro s rfl
  exact h

theorem watches_pure {a : α} (h : post es (.ok a) v) :
    Watches w es v (pure a : Prog σ Q A ε α) post :=
  watches_ret h

theorem watches_throw {e : ε} (h : post es (.error e) v) :
    Watches w es v (throw e : Prog σ Q A ε α) post :=
  watches_ret h

theorem watches_ask {q : Q} {n : A q → Prog σ Q A ε α} (hq : w.may q v)
    (h : ∀ x, w.allowed q x → Watches w (es ++ w.hears q x) v (n x) post) :
    Watches w es v (.ask q n) post := by
  intro s hs
  refine ⟨by rw [hs]; exact hq, fun x hx => h x hx s hs⟩

theorem watches_act {u : σ → σ} {n : σ → Prog σ Q A ε α}
    (h : ∀ s, w.view s = v → Watches w es (w.view (u s)) (n s) post) :
    Watches w es v (.act u n) post := by
  rintro s rfl t ht
  exact h t ht _ rfl

theorem watches_bind {f : α → Prog σ Q A ε β} {post : List E → Except ε β → V → Prop}
    (h : Watches w es v p fun es' r v' => match r with
      | .ok a => Watches w es' v' (f a) post
      | .error e => post es' (.error e) v') :
    Watches w es v (p >>= f) post :=
  fun s hs => watched_bind (h s hs)

theorem watches_handle {g : ε → Prog σ Q A ε α}
    (h : Watches w es v p fun es' r v' => match r with
      | .ok a => post es' (.ok a) v'
      | .error e => Watches w es' v' (g e) post) :
    Watches w es v (tryCatch p g) post :=
  fun s hs => watched_handle (h s hs)

end Rules

end Prog

/-! ## In a pool -/

namespace Pool

variable {ι σ Q C V E : Type} {A : Q → Type} {ε α : Type} [DecidableEq ι]
  {w : Prog.Watch σ Q A V E} {idle : V → Prop} {owner : C → ι} {body : C → Prog σ Q A ε α} {s₀ : σ}

/-- The thread of an index is watched; between its calls the view is
`idle`. -/
def WatchedAt (w : Prog.Watch σ Q A V E) (idle : V → Prop) (i : ι) (s : Pool ι σ Q A ε α) : Prop :=
  match s.running i with
  | none => idle (w.view s.shared)
  | some p => ∃ es, p.Watched w (fun _ _ v => idle v) es s.shared

/-- The others leave the view alone, and the thread is answered only what is
taken into account. -/
theorem watched_step {s s' : Pool ι σ Q A ε α} {l : Lbl ι C Q A} {i : ι}
    (hbody : ∀ c v, owner c = i → idle v →
      Prog.Watches w [] v (body c) fun _ _ v' => idle v')
    (hs : (calls owner body s₀).step s l s')
    (hframe : (∀ ans, l ≠ .step i ans) → w.view s'.shared = w.view s.shared)
    (hans : ∀ ans q n, l = .step i ans → s.running i = some (.ask q n) → w.allowed q (ans q))
    (h : WatchedAt w idle i s) : WatchedAt w idle i s' := by
  change step owner body s l = some s' at hs
  have stays : s'.running i = s.running i → (∀ ans, l ≠ .step i ans) → WatchedAt w idle i s' := by
    intro hr hl
    unfold WatchedAt at h ⊢
    rw [hr]
    cases hp : s.running i with
    | none =>
      rw [hp] at h
      rw [hframe hl]
      exact h
    | some p =>
      rw [hp] at h
      obtain ⟨es, hwatched⟩ := h
      exact ⟨es, hwatched.congr (hframe hl)⟩
  cases l with
  | call c =>
    simp only [step] at hs
    split at hs
    · rename_i hr
      simp only [Option.some.injEq] at hs
      subst hs
      by_cases hc : owner c = i
      · subst hc
        simp only [WatchedAt, hr] at h
        simp only [WatchedAt, Function.update_self]
        exact ⟨[], hbody c _ rfl h _ rfl⟩
      · exact stays (Function.update_of_ne (Ne.symm hc) _ _) (by rintro ans ⟨⟩)
    · cases hs
  | step j ans =>
    simp only [step] at hs
    cases hr : s.running j with
    | none => simp [hr] at hs
    | some p =>
      simp only [hr, Option.map_eq_some_iff] at hs
      obtain ⟨⟨p', t⟩, hn, rfl⟩ := hs
      by_cases hj : j = i
      · subst hj
        simp only [WatchedAt, hr] at h
        obtain ⟨es, hwatched⟩ := h
        simp only [WatchedAt, Function.update_self]
        exact ⟨_, hwatched.next hn fun q n hp => hans ans q n rfl (hp ▸ hr)⟩
      · refine stays (Function.update_of_ne (Ne.symm hj) _ _) ?_
        rintro ans' ⟨⟩
        exact hj rfl
  | finish j =>
    simp only [step] at hs
    split at hs
    · rename_i r hr
      simp only [Option.some.injEq] at hs
      subst hs
      by_cases hj : j = i
      · subst hj
        simp only [WatchedAt, hr] at h
        obtain ⟨es, hwatched⟩ := h
        simp only [WatchedAt, Function.update_self]
        exact hwatched
      · exact stays (Function.update_of_ne (Ne.symm hj) _ _) (by rintro ans ⟨⟩)
    · cases hs

end Pool

end Gr4cp.Core
