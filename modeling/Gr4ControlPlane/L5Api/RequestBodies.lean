import Gr4ControlPlane.Core.JsonText
import Gr4ControlPlane.L4App.SessionService

/-!
# What a request carries (`api/http_server.cpp`)

The arguments of a creation are read inside one call, and the language
leaves open in which order: the order is a parameter.

* `readCreate_ok_iff`, `readCreate_refused`: the order decides which message
  a refused body is answered with, and nothing else.
-/
namespace Gr4cp.Api

open Gr4cp.Core Gr4cp.App

def invalid (what : String) : ServiceError := ⟨.validation, str what⟩

/-- mirrors src/api/http_server.cpp:241-247 -/
def parseJsonBody (t : JsonText) (body : Str) : Except ServiceError Json :=
  match t.parse body with
  | none => .error (invalid "request body must be valid JSON")
  | some value => .ok value.json

/-- mirrors src/api/http_server.cpp:264-270 -/
def getRequiredGrc (body : Json) : Except ServiceError Str :=
  match body.member (str "grc") with
  | some (.str grc) =>
    if grc = [] then .error (invalid "grc must be a non-empty string") else .ok grc
  | _ => .error (invalid "grc must be a non-empty string")

/-- mirrors src/api/http_server.cpp:272-281 -/
def getOptionalName (body : Json) : Except ServiceError Str :=
  match body.member (str "name") with
  | none | some .null => .ok []
  | some (.str name) => .ok name
  | some _ => .error (invalid "name must be a string")

/-- mirrors src/api/http_server.cpp:283-296 -/
def getOptionalSchedulerId (body : Json) : Except ServiceError (Option Str) :=
  match body.member (str "scheduler_id") with
  | none | some .null => .ok none
  | some (.str schedulerId) => .ok (if schedulerId = [] then none else some schedulerId)
  | some _ => .error (invalid "scheduler_id must be a string")

/-! ## The arguments of a creation -/

inductive CreateArgument where
  | name | grc | schedulerId
  deriving DecidableEq, Repr

/-- What a call throws. -/
def thrownBy {α : Type} : Except ServiceError α → Option ServiceError
  | .ok _ => none
  | .error e => some e

def CreateArgument.thrown (body : Json) : CreateArgument → Option ServiceError
  | .name => thrownBy (getOptionalName body)
  | .grc => thrownBy (getRequiredGrc body)
  | .schedulerId => thrownBy (getOptionalSchedulerId body)

structure CreateRequest where
  name : Str
  grc : Str
  schedulerId : Option Str
  deriving DecidableEq

/-- The arguments, read in the given order.
mirrors src/api/http_server.cpp:427-429 -/
def readCreate (order : List CreateArgument) (body : Json) : Except ServiceError CreateRequest :=
  match order.findSome? (CreateArgument.thrown body) with
  | some e => .error e
  | none => do
    let name ← getOptionalName body
    let grc ← getRequiredGrc body
    let schedulerId ← getOptionalSchedulerId body
    return ⟨name, grc, schedulerId⟩

/-- An order of evaluation. -/
abbrev EvaluationOrder (order : List CreateArgument) : Prop :=
  order.Perm [.name, .grc, .schedulerId]

section Reading

variable {order : List CreateArgument} {body : Json}

theorem mem_order (h : EvaluationOrder order) (a : CreateArgument) : a ∈ order := by
  refine h.mem_iff.2 ?_
  cases a <;> decide

theorem thrownBy_eq_none {α : Type} {call : Except ServiceError α} :
    thrownBy call = none ↔ ∃ a, call = .ok a := by
  cases call <;> simp [thrownBy]

/-- Every argument can be read, in whatever order. -/
theorem readCreate_ok_iff (h : EvaluationOrder order) {request : CreateRequest} :
    readCreate order body = .ok request ↔
      getOptionalName body = .ok request.name ∧ getRequiredGrc body = .ok request.grc ∧
        getOptionalSchedulerId body = .ok request.schedulerId := by
  unfold readCreate
  cases hfound : order.findSome? (CreateArgument.thrown body) with
  | some e =>
    obtain ⟨a, -, ha⟩ := List.exists_of_findSome?_eq_some hfound
    refine iff_of_false (fun h => by cases h) ?_
    rintro ⟨hname, hgrc, hid⟩
    cases a with
    | name => simp [CreateArgument.thrown, thrownBy, hname] at ha
    | grc => simp [CreateArgument.thrown, thrownBy, hgrc] at ha
    | schedulerId => simp [CreateArgument.thrown, thrownBy, hid] at ha
  | none =>
    have hnone := List.findSome?_eq_none_iff.1 hfound
    obtain ⟨name, hname⟩ := thrownBy_eq_none.1 (hnone .name (mem_order h _))
    obtain ⟨grc, hgrc⟩ := thrownBy_eq_none.1 (hnone .grc (mem_order h _))
    obtain ⟨schedulerId, hid⟩ := thrownBy_eq_none.1 (hnone .schedulerId (mem_order h _))
    obtain ⟨name', grc', schedulerId'⟩ := request
    simp [hname, hgrc, hid, bind, Except.bind, pure, Except.pure]

/-- A refused body is answered with the message of an argument that cannot
be read. -/
theorem readCreate_refused (h : EvaluationOrder order) {e : ServiceError}
    (hrefused : readCreate order body = .error e) : ∃ a : CreateArgument, a.thrown body = some e := by
  unfold readCreate at hrefused
  split at hrefused
  · rename_i e' hfound
    cases hrefused
    obtain ⟨a, -, ha⟩ := List.exists_of_findSome?_eq_some hfound
    exact ⟨a, ha⟩
  · rename_i hnone
    exfalso
    have hnone := List.findSome?_eq_none_iff.1 hnone
    obtain ⟨name, hname⟩ := thrownBy_eq_none.1 (hnone .name (mem_order h _))
    obtain ⟨grc, hgrc⟩ := thrownBy_eq_none.1 (hnone .grc (mem_order h _))
    obtain ⟨schedulerId, hid⟩ := thrownBy_eq_none.1 (hnone .schedulerId (mem_order h _))
    simp [hname, hgrc, hid, bind, Except.bind, pure, Except.pure] at hrefused

end Reading

end Gr4cp.Api
