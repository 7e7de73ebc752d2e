import TokenServer.Work

/-!
Work in time. The surroundings may hold a call up, let other work go first, or break the work off. Work
under a deadline is not broken off when the deadline passes: it goes on beside what comes later, and its
caller is told that it was late. The clock counts milliseconds and jumps to whatever happens next. What
is due at one time takes turns, in the order in which it began to wait.
-/

namespace TokenServer

/-- What happens when a call is to be made. -/
inductive Disturbance (call : Call) where
  | after (millis : Nat)
  /-- The call is made after other work that is due has had its turn. -/
  | queued
  /-- The call is not made, and this is the reply. -/
  | instead (value : call.Reply)
  | abort (reason : String)

def Disturbance.reply? {call : Call} : Disturbance call → Option call.Reply
  | .instead value => some value
  | _ => none

/-- What work meets with: what happens to calls, and the replies to those that are made. -/
structure Surroundings (σ : Type) where
  disturb : (call : Call) → σ → Disturbance call × σ
  reply : (call : Call) → σ → call.Reply × σ

/-- What is left of work that waits: all of it, or what follows the call that is to be made. -/
inductive Remainder where
  | all (work : Work Unit)
  | behind (call : Call) (next : call.Reply → Work Unit)

structure Sleeper where
  wake : Nat
  /-- How many more times the work lets other work go first while the clock stands still. -/
  patience : Nat
  remainder : Remainder

/-- The patience of work whenever the clock has moved on. -/
def Sleeper.fullPatience : Nat := 16

structure Timeline (σ : Type) where
  clock : Nat := 0
  sleepers : List Sleeper := []
  state : σ

/-- How work under a deadline ends for its caller. -/
inductive Ending (α : Type) where
  | finished (value : α)
  | aborted (reason : String)
  | late
  deriving Repr

def Work.discard {α : Type} (work : Work α) : Work Unit := work.bind fun _ => .done ()

section

variable {σ α : Type} (surroundings : Surroundings σ)

/-- Goes on with work until it ends, has to wait, or lets other work go first. -/
def Work.advance (clock patience : Nat) : Work Unit → σ → Option Sleeper × σ
  | .done _, state => (none, state)
  | .ask call next, state =>
    match surroundings.disturb call state with
    | (.after 0, state) =>
      match surroundings.reply call state with
      | (value, state) => advance clock patience (next value) state
    | (.after (millis + 1), state) =>
      (some ⟨clock + (millis + 1), Sleeper.fullPatience, .behind call next⟩, state)
    | (.queued, state) =>
      if patience = 0 then
        match surroundings.reply call state with
        | (value, state) => advance clock patience (next value) state
      else (some ⟨clock, patience - 1, .behind call next⟩, state)
    | (.instead value, state) => advance clock patience (next value) state
    | (.abort _, state) => (none, state)

/-- Makes the call that a sleeper waits for, if it waits for one, and goes on with its work. -/
def Sleeper.resume (sleeper : Sleeper) (state : σ) : Option Sleeper × σ :=
  match sleeper.remainder with
  | .all work => work.advance surroundings sleeper.wake sleeper.patience state
  | .behind call next =>
    match surroundings.reply call state with
    | (value, state) => (next value).advance surroundings sleeper.wake sleeper.patience state

/-- Work that waits again waits for a later time or has lost patience. -/
theorem Work.waits_of_advance {clock patience : Nat} {work : Work Unit} {state after : σ}
    {sleeper : Sleeper}
    (waits : work.advance surroundings clock patience state = (some sleeper, after)) :
    clock < sleeper.wake ∨ clock = sleeper.wake ∧ sleeper.patience < patience := by
  induction work generalizing state with
  | done => simp [Work.advance] at waits
  | ask call next ih =>
    rw [Work.advance] at waits
    split at waits
    · exact ih _ waits
    · simp only [Prod.mk.injEq, Option.some.injEq] at waits
      rw [← waits.1]
      simp
    · split at waits
      · exact ih _ waits
      · simp only [Prod.mk.injEq, Option.some.injEq] at waits
        rw [← waits.1]
        exact .inr ⟨rfl, by simp only; omega⟩
    · exact ih _ waits
    · simp at waits

theorem Sleeper.waits_of_resume {sleeper again : Sleeper} {state after : σ}
    (waits : sleeper.resume surroundings state = (some again, after)) :
    sleeper.wake < again.wake ∨ sleeper.wake = again.wake ∧ again.patience < sleeper.patience := by
  rw [Sleeper.resume] at waits
  split at waits
  · exact Work.waits_of_advance surroundings waits
  · exact Work.waits_of_advance surroundings waits

namespace Timeline

/-- The sleeper that wakes first, and the others; of two at once the one that has waited longer. -/
def first? : List Sleeper → Option (Sleeper × List Sleeper)
  | [] => none
  | sleeper :: rest =>
    match first? rest with
    | none => some (sleeper, rest)
    | some (other, others) =>
      if sleeper.wake ≤ other.wake then some (sleeper, rest) else some (other, sleeper :: others)

def total (weight : Sleeper → Nat) : List Sleeper → Nat
  | [] => 0
  | sleeper :: rest => weight sleeper + total weight rest

theorem total_append (weight : Sleeper → Nat) (first second : List Sleeper) :
    total weight (first ++ second) = total weight first + total weight second := by
  induction first with
  | nil => simp [total]
  | cons sleeper rest ih => simp only [List.cons_append, total, ih, Nat.add_assoc]

theorem total_first? (weight : Sleeper → Nat) {sleepers others : List Sleeper} {sleeper : Sleeper}
    (found : first? sleepers = some (sleeper, others)) :
    total weight sleepers = weight sleeper + total weight others := by
  induction sleepers generalizing sleeper others with
  | nil => simp [first?] at found
  | cons head rest ih =>
    rw [first?] at found
    split at found
    · simp only [Option.some.injEq, Prod.mk.injEq] at found
      obtain ⟨rfl, rfl⟩ := found
      rfl
    · next other remaining inRest =>
      have sum := ih inRest
      split at found <;> simp only [Option.some.injEq, Prod.mk.injEq] at found <;>
        obtain ⟨rfl, rfl⟩ := found
      · rfl
      · simp only [total] at sum ⊢
        omega

set_option linter.unusedVariables false in
/-- Lets sleepers that wake before the horizon go on, one after the other. -/
def wakeBefore (horizon : Nat) (sleepers : List Sleeper) (state : σ) : List Sleeper × σ :=
  match found : first? sleepers with
  | none => ([], state)
  | some (sleeper, others) =>
    if early : sleeper.wake < horizon then
      match resumed : sleeper.resume surroundings state with
      | (again, state) => wakeBefore horizon (others ++ again.toList) state
    else (sleepers, state)
termination_by (total (horizon - ·.wake) sleepers, total (·.patience) sleepers)
decreasing_by
  rw [Prod.lex_def, total_first? _ found, total_first? _ found]
  cases again with
  | none =>
    simp only [Option.toList, List.append_nil]
    omega
  | some next =>
    have waits := Sleeper.waits_of_resume surroundings resumed
    simp only [Option.toList, total_append, total]
    omega

/-- Moves the clock on, and lets everything happen that is due before the new time. -/
def passTo (timeline : Timeline σ) (time : Nat) : Timeline σ :=
  let (sleepers, state) := wakeBefore surroundings time timeline.sleepers timeline.state
  ⟨time, sleepers, state⟩

def sleep (timeline : Timeline σ) (millis : Nat) : Timeline σ :=
  timeline.passTo surroundings (timeline.clock + millis)

/-- Lets sleepers that are due go on, each of them once. They are parted into those that sleep on and
those that wait again. -/
def takeTurns (clock : Nat) : List Sleeper → σ → (List Sleeper × List Sleeper) × σ
  | [], state => (([], []), state)
  | sleeper :: rest, state =>
    if sleeper.wake ≤ clock then
      match sleeper.resume surroundings state with
      | (again, state) =>
        let ((asleep, others), state) := takeTurns clock rest state
        ((asleep, again.toList ++ others), state)
    else
      let ((asleep, others), state) := takeTurns clock rest state
      ((sleeper :: asleep, others), state)

/-- Gives a turn to those of the first so many sleepers that are due. -/
def giveWayTo (timeline : Timeline σ) (count : Nat) : Timeline σ :=
  let ((asleep, again), state) :=
    takeTurns surroundings timeline.clock (timeline.sleepers.take count) timeline.state
  { timeline with sleepers := asleep ++ timeline.sleepers.drop count ++ again, state }

def giveWay (timeline : Timeline σ) : Timeline σ :=
  timeline.giveWayTo surroundings timeline.sleepers.length

/-- Moves the clock on to the turn of what waits for the new time from now on: sleepers that have waited
for the same time longer come first. -/
def passToTurn (timeline : Timeline σ) (time : Nat) : Timeline σ :=
  (timeline.passTo surroundings time).giveWayTo surroundings
    (timeline.sleepers.countP (time ≤ ·.wake))

/-- Leaves work to go on without a caller. -/
def leave (timeline : Timeline σ) (sleeper : Sleeper) : Timeline σ :=
  { timeline with sleepers := timeline.sleepers ++ [sleeper] }

/-- Does work and waits for it up to a deadline; without one it waits as long as it takes. Work without
a deadline is the caller's own, and what waits for the same time comes after it. -/
def await (deadline : Option Nat) : Work α → Timeline σ → Ending α × Timeline σ
  | .done value, timeline => (.finished value, timeline)
  | .ask call next, timeline =>
    match surroundings.disturb call timeline.state with
    | (.after 0, state) =>
      match surroundings.reply call state with
      | (value, state) => await deadline (next value) { timeline with state }
    | (.after (millis + 1), state) =>
      let timeline := { timeline with state }
      let wake := timeline.clock + (millis + 1)
      if deadline.any (· ≤ wake) then
        let sleeper := ⟨wake, Sleeper.fullPatience, .behind call fun value => (next value).discard⟩
        (.late, (timeline.leave sleeper).passTo surroundings (deadline.getD wake))
      else
        let timeline := if deadline.isSome then timeline.passToTurn surroundings wake
          else timeline.passTo surroundings wake
        match surroundings.reply call timeline.state with
        | (value, state) => await deadline (next value) { timeline with state }
    | (.queued, state) =>
      let timeline := ({ timeline with state } : Timeline σ).giveWay surroundings
      match surroundings.reply call timeline.state with
      | (value, state) => await deadline (next value) { timeline with state }
    | (.instead value, state) => await deadline (next value) { timeline with state }
    | (.abort reason, state) => (.aborted reason, { timeline with state })

/-- Does work as a task of its own that has so many milliseconds; with none it is late at once. The
task queues up behind what is due, and its caller hears of its end behind what is due then. -/
def runTask (millis : Nat) (work : Work α) (timeline : Timeline σ) : Ending α × Timeline σ :=
  if millis = 0 then
    (.late, timeline.leave ⟨timeline.clock, Sleeper.fullPatience, .all work.discard⟩)
  else
    let timeline := timeline.giveWay surroundings
    match timeline.await surroundings (some (timeline.clock + millis)) work with
    | (.late, timeline) => (.late, timeline)
    | (ending, timeline) => (ending, timeline.giveWay surroundings)

end Timeline

end

end TokenServer
