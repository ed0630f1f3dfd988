/-!
# A block that is run once

Any number of threads enter a block under a mutex; the first one to find a
flag unset sets it and carries out a list of actions, and the others leave
at once. `Once` is what such a block has: the mutex with what its holder has
still to do, the flag, and the actions carried out so far.

* `Once.Inv`: the actions carried out and those to come are the whole list,
  in order, once the flag is set, and none before.
* `Once.Inv.leaves`: whoever leaves the block leaves the whole list carried
  out, also if it is another thread that has done it.
* `Once.left_step`: a step in the block brings its holder nearer to the end
  of the block; `Once.step_isSome`: there is one for every thread when nobody
  holds the mutex, and else for the one who does.
-/
namespace Gr4cp.Core

/-- Where the holder of the mutex is. -/
inductive OncePhase (A : Type) where
  /-- before the exchange of the flag -/
  | entered
  | running (todo : List A)
  deriving DecidableEq, Repr

structure Once (T A : Type) where
  holder : Option (T × OncePhase A)
  flag : Bool
  log : List A
  deriving DecidableEq, Repr

namespace Once

variable {T A : Type}

def unused : Once T A := ⟨none, false, []⟩

/-- What the holder is still to carry out. -/
def todo (o : Once T A) : List A :=
  match o.holder with
  | some (_, .running todo) => todo
  | _ => []

/-- A step of thread `t`, and whether it leaves the block with it. -/
def step [DecidableEq T] (all : List A) (o : Once T A) (t : T) : Option (Bool × Once T A) :=
  match o.holder with
  | none => some (false, { o with holder := some (t, .entered) })
  | some (t', phase) =>
    if t' = t then
      match phase with
      | .entered =>
        let todo := if o.flag then [] else all
        some (false, { o with holder := some (t, .running todo), flag := true })
      | .running [] => some (true, { o with holder := none })
      | .running (a :: todo) =>
        some (false, { o with holder := some (t, .running todo), log := o.log ++ [a] })
    else none

structure Inv (all : List A) (o : Once T A) : Prop where
  carried : o.log ++ o.todo = if o.flag then all else []
  set : ∀ t todo, o.holder = some (t, .running todo) → o.flag = true

/-- The steps to the end of the block, of its holder or of the next one. -/
def left (all : List A) (o : Once T A) : Nat :=
  match o.holder with
  | none => all.length + 2
  | some (_, .entered) => all.length + 1
  | some (_, .running todo) => todo.length

theorem inv_unused (all : List A) : (unused : Once T A).Inv all := ⟨rfl, fun _ _ h => by cases h⟩

/-- What is carried out is a beginning of the list. -/
theorem Inv.log_within {all : List A} {o : Once T A} (hi : o.Inv all) : o.log <+: all := by
  have hcarried := hi.carried
  cases hflag : o.flag with
  | true =>
    rw [hflag, if_pos rfl] at hcarried
    exact ⟨_, hcarried⟩
  | false =>
    rw [hflag, if_neg Bool.false_ne_true] at hcarried
    rw [(List.append_eq_nil_iff.1 hcarried).1]
    exact List.nil_prefix

/-- While something is left to carry out somebody holds the mutex. -/
theorem Inv.holder_of_flag {all : List A} {o : Once T A} (hi : o.Inv all) (hflag : o.flag = true)
    (hlog : o.log ≠ all) : ∃ t phase, o.holder = some (t, phase) := by
  have hcarried := hi.carried
  cases hholder : o.holder with
  | some holder => exact ⟨holder.1, holder.2, rfl⟩
  | none =>
    simp only [todo, hholder, hflag, List.append_nil, if_true] at hcarried
    exact absurd hcarried hlog

/-- While nobody holds the mutex, nothing is carried out or everything is. -/
theorem Inv.nothing_or_all {all : List A} {o : Once T A} (hi : o.Inv all)
    (hholder : o.holder = none) : o.log = [] ∨ o.log = all := by
  have hcarried := hi.carried
  simp only [todo, hholder, List.append_nil] at hcarried
  cases hflag : o.flag with
  | true => exact .inr (by simpa [hflag] using hcarried)
  | false => exact .inl (by simpa [hflag] using hcarried)

variable [DecidableEq T] {all : List A} {o o' : Once T A} {t : T} {out : Bool}

/-- What a step can do. -/
inductive Step (all : List A) (o : Once T A) (t : T) : Bool → Once T A → Prop
  | enter (h : o.holder = none) : Step all o t false { o with holder := some (t, .entered) }
  | first (h : o.holder = some (t, .entered)) (hflag : o.flag = false) :
      Step all o t false { o with holder := some (t, .running all), flag := true }
  | again (h : o.holder = some (t, .entered)) (hflag : o.flag = true) :
      Step all o t false { o with holder := some (t, .running []), flag := true }
  | act {a : A} {todo : List A} (h : o.holder = some (t, .running (a :: todo))) :
      Step all o t false { o with holder := some (t, .running todo), log := o.log ++ [a] }
  | leave (h : o.holder = some (t, .running [])) : Step all o t true { o with holder := none }

theorem step_cases (h : o.step all t = some (out, o')) : Step all o t out o' := by
  unfold step at h
  split at h
  case h_1 hholder =>
    cases h
    exact .enter hholder
  case h_2 t' phase hholder =>
    split at h
    case isFalse => cases h
    case isTrue heq =>
      subst heq
      split at h
      · cases hflag : o.flag <;> simp only [hflag] at h <;> cases h
        · exact .first hholder hflag
        · exact .again hholder hflag
      · cases h
        exact .leave hholder
      · cases h
        exact .act hholder

theorem Inv.step (hi : o.Inv all) (h : o.step all t = some (out, o')) : o'.Inv all := by
  obtain ⟨hcarried, hset⟩ := hi
  unfold todo at hcarried
  cases step_cases h with
  | enter hholder => exact ⟨by simpa [todo, hholder] using hcarried, by simp⟩
  | first hholder hflag => exact ⟨by simpa [todo, hholder, hflag] using hcarried, by simp⟩
  | again hholder hflag => exact ⟨by simpa [todo, hholder, hflag] using hcarried, by simp⟩
  | act hholder =>
    have hflag := hset _ _ hholder
    exact ⟨by simpa [todo, hholder] using hcarried, fun _ _ _ => hflag⟩
  | leave hholder => exact ⟨by simpa [todo, hholder] using hcarried, by simp⟩

/-- Who leaves the block leaves everything carried out. -/
theorem Inv.leaves (hi : o.Inv all) (h : o.step all t = some (true, o')) : o'.log = all := by
  cases step_cases h with
  | leave hholder =>
    have hcarried := hi.carried
    simpa [todo, hholder, hi.set _ _ hholder] using hcarried

/-- Once everything is carried out nothing is. -/
theorem Inv.full (hi : o.Inv all) (hlog : o.log = all) (h : o.step all t = some (out, o')) :
    o'.log = all := by
  cases step_cases h with
  | enter | first | again | leave => exact hlog
  | act hholder =>
    have hcarried := hi.carried
    simp [todo, hholder, hi.set _ _ hholder, hlog] at hcarried

/-- A step that does not leave the block brings its end nearer. -/
theorem left_step (h : o.step all t = some (out, o')) :
    o'.left all < o.left all + if out then all.length + 3 else 0 := by
  cases step_cases h with
  | enter hholder | first hholder | again hholder | act hholder | leave hholder =>
    simp [left, hholder]

/-- Nobody waits for the mutex but for the one who holds it. -/
theorem step_isSome (all : List A) (h : ∀ t' phase, o.holder = some (t', phase) → t' = t) :
    (o.step all t).isSome = true := by
  unfold step
  cases hholder : o.holder with
  | none => rfl
  | some holder =>
    obtain ⟨t', phase⟩ := holder
    rw [h t' phase hholder]
    simp only [if_true]
    cases phase with
    | entered => rfl
    | running todo => cases todo <;> rfl

/-- Only the one who steps comes to hold the mutex. -/
theorem holder_step (h : o.step all t = some (out, o')) :
    (∀ t' phase, o'.holder = some (t', phase) → t' = t ∧ out = false) ∧
      (o.holder = none ∨ ∃ phase, o.holder = some (t, phase)) := by
  cases step_cases h with
  | enter hholder => exact ⟨by simp_all, .inl hholder⟩
  | first hholder _ | again hholder _ | act hholder => exact ⟨by simp, .inr ⟨_, hholder⟩⟩
  | leave hholder => exact ⟨by simp, .inr ⟨_, hholder⟩⟩

end Once

end Gr4cp.Core
