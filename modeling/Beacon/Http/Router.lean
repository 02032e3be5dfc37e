import Beacon.Http.Message
import Beacon.Text.Decimal

/-!
# Routers

A router hands a request to a handler. A path of its own has a handler for GET, one for HEAD and
one for every other method; all other paths share one handler. A layer is put around every handler
of a router at once, so it sees each request whoever answers it. The headers that a response gets
from the router itself are added outside of all layers.
-/

namespace Beacon.Http

abbrev Handler (α : Type) := Request → α

structure MethodRouter (α : Type) where
  get : Handler α
  head : Handler α
  /-- The handler of the methods that have none of their own. -/
  fallback : Handler α

namespace MethodRouter

variable {α β : Type}

def handler (router : MethodRouter α) (method : Method) : Handler α :=
  if method = .get then router.get
  else if method = .head then router.head
  else router.fallback

/-- The headers for a method without a handler of its own: the methods that have one. -/
def notice (method : Method) : List Header :=
  if method = .get ∨ method = .head then [] else [.ofText Header.allow "GET,HEAD"]

def layer (around : Handler α → Handler β) (router : MethodRouter α) : MethodRouter β :=
  ⟨around router.get, around router.head, around router.fallback⟩

@[simp] theorem handler_layer (around : Handler α → Handler β) (router : MethodRouter α)
    (method : Method) : (router.layer around).handler method = around (router.handler method) := by
  unfold handler layer
  split
  · rfl
  · split <;> rfl

end MethodRouter

/-- The handlers of the paths that have some, and the handler of all other paths. -/
structure Router (α : Type) where
  routes : List (String × MethodRouter α)
  fallback : Handler α

namespace Router

variable {α β : Type}

def find? (router : Router α) (path : String) : Option (MethodRouter α) :=
  router.routes.lookup path

def handler (router : Router α) (request : Request) : Handler α :=
  match router.find? request.target.path with
  | some methods => methods.handler request.method
  | none => router.fallback

/-- The headers that the router adds to the response to a request. -/
def notice (router : Router α) (request : Request) : List Header :=
  match router.find? request.target.path with
  | some _ => MethodRouter.notice request.method
  | none => []

theorem notice_cases (router : Router α) (request : Request) :
    router.notice request = [] ∨
      router.notice request = [.ofText Header.allow "GET,HEAD"] := by
  unfold notice MethodRouter.notice
  cases router.find? request.target.path with
  | none => exact .inl rfl
  | some methods =>
      change (if _ then _ else _) = _ ∨ (if _ then _ else _) = _
      split
      · exact .inl rfl
      · exact .inr rfl

def layer (around : Handler α → Handler β) (router : Router α) : Router β :=
  ⟨router.routes.map fun (path, methods) => (path, methods.layer around), around router.fallback⟩

theorem find?_layer (around : Handler α → Handler β) (router : Router α) (path : String) :
    (router.layer around).find? path =
      (router.find? path).map fun methods => methods.layer around := by
  obtain ⟨routes, fallback⟩ := router
  unfold find? layer
  induction routes with
  | nil => rfl
  | cons first rest ih =>
      obtain ⟨place, methods⟩ := first
      simp only [List.map_cons, List.lookup_cons] at ih ⊢
      cases path == place with
      | true => rfl
      | false => exact ih

/-- A layered router hands a request to the layered handler. -/
@[simp] theorem handler_layer (around : Handler α → Handler β) (router : Router α)
    (request : Request) :
    (router.layer around).handler request = around (router.handler request) := by
  unfold handler
  rw [find?_layer]
  cases router.find? request.target.path with
  | none => rfl
  | some methods => exact methods.handler_layer around request.method

@[simp] theorem notice_layer (around : Handler α → Handler β) (router : Router α)
    (request : Request) : (router.layer around).notice request = router.notice request := by
  unfold notice
  rw [find?_layer]
  cases router.find? request.target.path with
  | none => rfl
  | some methods => rfl

end Router

/-- A response with the headers that its router adds, and the length of its body. -/
def Response.complete (response : Response) (notice : List Header) : Response :=
  { response with
    headers := response.headers ++ notice ++
      [.ofText Header.contentLength (Decimal.numeral response.body.length)] }

end Beacon.Http
