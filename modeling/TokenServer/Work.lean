import TokenServer.SecretHasher
import TokenServer.SignedToken
import TokenServer.TokenRequest

/-!
Work is what the server does for a request, as a tree: it asks its surroundings for something, and goes
on with the reply. What the surroundings are, how long they take and whether they fail is left open, so
the same work runs against a store in memory, against one that fails, and under a deadline.
-/

namespace TokenServer

inductive SessionKind where
  | access
  | refresh
  deriving Repr, DecidableEq

inductive Call where
  | now
  | freshId
  | findClient (id : String)
  | createSession (kind : SessionKind) (signature : String) (request : TokenRequest)
  | findSession (kind : SessionKind) (signature : String)
  | deleteSession (kind : SessionKind) (signature : String)
  /-- Replaces a refresh session by an access and a refresh session in one step. -/
  | exchangeSession (presented access refresh : String) (request : TokenRequest)
  | mint (kind : SessionKind)
  | compareSecret (hashed candidate : String)
  deriving Repr, DecidableEq

abbrev Call.Reply : Call → Type
  | .now => Instant
  | .freshId => Uuid
  | .findClient _ => Except StoreError Client
  | .createSession _ _ _ => Except StoreError Unit
  | .findSession _ _ => Except StoreError TokenRequest
  | .deleteSession _ _ => Except StoreError Unit
  | .exchangeSession _ _ _ _ => Except StoreError Unit
  | .mint _ => Except CryptoError SignedToken
  | .compareSecret _ _ => Except ComparisonFailure Unit

inductive Work (α : Type) where
  | done (value : α)
  | ask (call : Call) (next : call.Reply → Work α)

namespace Work

variable {α β : Type}

def bind : Work α → (α → Work β) → Work β
  | .done value, f => f value
  | .ask call next, f => .ask call fun reply => (next reply).bind f

instance : Monad Work where
  pure := .done
  bind := bind

def call (call : Call) : Work call.Reply := .ask call .done

theorem bind_done (work : Work α) : work.bind .done = work := by
  induction work with
  | done => rfl
  | ask call next ih => simp only [bind, ih]

theorem bind_assoc {γ : Type} (work : Work α) (f : α → Work β) (g : β → Work γ) :
    (work.bind f).bind g = work.bind fun value => (f value).bind g := by
  induction work with
  | done => rfl
  | ask call next ih => simp only [bind, ih]

instance : LawfulMonad Work := .mk' Work bind_done (fun _ _ => rfl) bind_assoc

/-- Work of which some calls are not made, but have replies of their own. -/
def intercept (reply? : (call : Call) → Option call.Reply) : Work α → Work α
  | .done value => .done value
  | .ask call next =>
    match reply? call with
    | some value => (next value).intercept reply?
    | none => .ask call fun value => (next value).intercept reply?

/-- The result of work, when its surroundings reply at once. -/
def run {σ : Type} (reply : (call : Call) → σ → call.Reply × σ) : Work α → σ → α × σ
  | .done value, state => (value, state)
  | .ask call next, state =>
    let (answer, state) := reply call state
    run reply (next answer) state

theorem run_bind {σ : Type} (reply : (call : Call) → σ → call.Reply × σ) (work : Work α)
    (f : α → Work β) (state : σ) :
    (work.bind f).run reply state =
      (f (work.run reply state).1).run reply (work.run reply state).2 := by
  induction work generalizing state with
  | done => rfl
  | ask call next ih => simp only [bind, run, ih]

end Work

end TokenServer
