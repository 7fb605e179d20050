import Bedspace.Api.Route

/-!
# Answering requests

A request is led to its endpoint and turned into an action; the action is carried out and its result
or its error is the answer.

* `respond` is the program that answers one request over the store;
* a path that leads nowhere and a method that its endpoint does not take are answered with a status
  only, the latter with the methods that are taken;
* what is read with `HEAD` is answered as if it were read with `GET`, without a body.

The endpoints are those of the services. What a process tells of itself while it runs (`/health`,
`/ready` and `/metrics`) has nothing to do with the store and is left out, and so are connections.
-/

namespace Bedspace

/-- The body of an answer. -/
inductive HttpBody where
  | empty
  | json (value : Json)
  | text (message : String)

/-- An answer to a request. -/
structure HttpResponse where
  status : Nat
  headers : List (String × String)
  body : HttpBody

namespace HttpResponse

/-- An answer that tells its status only. -/
def bare (status : Nat) (headers : List (String × String)) : HttpResponse :=
  ⟨status, headers, .empty⟩

/-- The answer of a path that leads nowhere. -/
def notFound : HttpResponse := .bare 404 []

/-- The answer of an endpoint to a method that it does not take. -/
def notAllowed (endpoint : Endpoint) : HttpResponse :=
  .bare 405 [("allow", ",".intercalate endpoint.allowed)]

/-- The answer to a request that is turned away. -/
def ofRejection (rejection : Rejection) : HttpResponse :=
  ⟨rejection.status, [("content-type", "text/plain; charset=utf-8")], .text rejection.message⟩

/-- The answer to a failed action. -/
def ofProblem (problem : Problem) : HttpResponse :=
  ⟨problem.kind.status, [("content-type", "application/problem+json")], .json problem.json⟩

/-- The answer to an action that was carried out. -/
def ofReply (action : Action) (reply : Reply) : HttpResponse :=
  ⟨if action.creates then 201 else 200,
    ("content-type", "application/json") :: reply.headers, .json reply.json⟩

/-- The answer without its body. -/
def withoutBody (response : HttpResponse) : HttpResponse := { response with body := .empty }

end HttpResponse

/-- The answer of an endpoint to an action. -/
def respondTo (settings : SearchSettings) (today : Date) (action : Action) :
    Program HttpResponse := do
  match ← ExceptT.run (action.perform settings today) with
  | .ok reply => pure (.ofReply action reply)
  | .error error => pure (.ofProblem error.problem)

/-- The answer to a request that an endpoint takes. -/
def respondAt (settings : SearchSettings) (today : Date) (handler : Handler)
    (request : HttpRequest) : Program HttpResponse :=
  match handler request with
  | .ok action => respondTo settings today action
  | .error rejection => pure (.ofRejection rejection)

/-- **The answer to a request**, on a day and with certain settings. -/
def respond (settings : SearchSettings) (today : Date) (request : HttpRequest) :
    Program HttpResponse :=
  match endpoint? request.target.segments with
  | none => pure .notFound
  | some endpoint =>
    match endpoint.handler? request.method with
    | none => pure (.notAllowed endpoint)
    | some handler => do
      let response ← respondAt settings today handler request
      pure (if request.method = "HEAD" then response.withoutBody else response)

end Bedspace
