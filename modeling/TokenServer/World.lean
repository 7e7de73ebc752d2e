import TokenServer.Schedule
import TokenServer.Store

/-!
A world for work to run in: a store in memory, a hasher, a signer, a wall clock that stands still, and
faults that can be set for each kind of call.
-/

namespace TokenServer

inductive FaultPoint where
  | findClient
  | createSession (kind : SessionKind)
  | findSession (kind : SessionKind)
  | deleteSession (kind : SessionKind)
  | exchangeSession
  | mint (kind : SessionKind)
  deriving Repr, DecidableEq

def FaultPoint.isMint : FaultPoint → Bool
  | .mint _ => true
  | _ => false

def Call.faultPoint? : Call → Option FaultPoint
  | .now | .freshId | .compareSecret _ _ => none
  | .findClient _ => some .findClient
  | .createSession kind _ _ => some (.createSession kind)
  | .findSession kind _ => some (.findSession kind)
  | .deleteSession kind _ => some (.deleteSession kind)
  | .exchangeSession _ _ _ _ => some .exchangeSession
  | .mint kind => some (.mint kind)

inductive Fault where
  | fail (error : StoreError)
  | delay (millis : Nat)
  | abort (reason : String)
  | barren (reason : String)
  deriving Repr, DecidableEq

/-- No call is held up for more milliseconds than this, which are ten years of 365 days. -/
def Fault.longestDelay : Nat := 10 * 365 * 24 * 60 * 60 * 1000

/-- What a fault does to a call; one that does not apply to it does nothing. -/
def Fault.disturb : Fault → (call : Call) → Disturbance call
  | .delay millis, _ => .after (min millis longestDelay)
  | .abort reason, _ => .abort reason
  | .fail error, .findClient _ => .instead (.error error)
  | .fail error, .createSession _ _ _ => .instead (.error error)
  | .fail error, .findSession _ _ => .instead (.error error)
  | .fail error, .deleteSession _ _ => .instead (.error error)
  | .fail error, .exchangeSession _ _ _ _ => .instead (.error error)
  | .barren reason, .mint _ => .instead (.error (.hash reason))
  | _, _ => .after 0

/-- At most one fault for each kind of call. -/
abbrev Faults := List (FaultPoint × Fault)

def Faults.find? (faults : Faults) (call : Call) : Option Fault :=
  call.faultPoint?.bind (List.lookup · faults)

def Faults.reply? (faults : Faults) (call : Call) : Option call.Reply :=
  (faults.find? call).bind fun fault => (fault.disturb call).reply?

def Faults.set (faults : Faults) (point : FaultPoint) (fault : Option Fault) : Faults :=
  faults.filter (·.1 ≠ point) ++ fault.toList.map (point, ·)

structure World where
  store : Store := {}
  hasher : SecretHasher
  signer : Signer
  wallClock : Instant
  faults : Faults := []
  idCount : Nat := 0
  tokenCount : Nat := 0
  /-- Signatures under which sessions have been stored, the latest first. -/
  written : List (SessionKind × String) := []

namespace World

/-- What happens to a call. Secrets are compared aside, and other work goes on meanwhile. -/
def disturb (call : Call) (world : World) : Disturbance call × World :=
  match world.faults.find? call, call with
  | some fault, call => (fault.disturb call, world)
  | none, .compareSecret _ _ => (.queued, world)
  | none, _ => (.after 0, world)

def key (number : Nat) : Bytes := (Sha512.sha384 (Words.littleEndian 8 number)).take Signer.keyLength

def mint (world : World) : SignedToken × World :=
  (world.signer.sign (key world.tokenCount), { world with tokenCount := world.tokenCount + 1 })

def note (world : World) (written : List (SessionKind × String)) : World :=
  { world with written := written.reverse ++ world.written }

def reply : (call : Call) → World → call.Reply × World
  | .now, world => (world.wallClock, world)
  | .freshId, world =>
    (.ofTime (world.wallClock.second * 1000).toNat world.idCount,
      { world with idCount := world.idCount + 1 })
  | .findClient id, world => (world.store.findClient id, world)
  | .createSession kind signature request, world =>
    (.ok (), { world with store := world.store.createSession kind signature request }.note
      [(kind, signature)])
  | .findSession kind signature, world => (world.store.findSession kind signature, world)
  | .deleteSession kind signature, world =>
    let (result, store) := world.store.deleteSession kind signature
    (result, { world with store })
  | .exchangeSession presented access refresh request, world =>
    match world.store.exchangeSession presented access refresh request with
    | (.ok (), store) =>
      (.ok (), { world with store }.note [(.access, access), (.refresh, refresh)])
    | (.error error, _) => (.error error, world)
  | .mint _, world =>
    let (token, world) := world.mint
    (.ok token, world)
  | .compareSecret hashed candidate, world =>
    (world.hasher.compare hashed (Utf8.encode candidate), world)

def surroundings : Surroundings World := ⟨disturb, reply⟩

end World

end TokenServer
