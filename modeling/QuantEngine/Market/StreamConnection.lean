import Mathlib.Algebra.Order.Field.Rat
import Mathlib.Tactic.Linarith
import QuantEngine.Library.Json
import QuantEngine.Library.Run

set_option autoImplicit false

namespace QuantEngine.StreamConnection

inductive ConnectionState where
  | disconnected
  | connecting
  | connected
  | reconnecting
  | stopped
  deriving DecidableEq

structure WSConnectionConfig where
  staleAfterSeconds : ℚ := 30
  backoffBaseSeconds : ℚ := 1
  backoffFactor : ℚ := 2
  backoffCapSeconds : ℚ := 60
  maxRetries : Nat := 0

-- `random.random()`.
structure Jitter where
  value : ℚ
  low : 0 ≤ value
  high : value < 1

-- What the supervisor waits for. A transport is known by its number.
inductive Phase where
  | connecting
  | notifying (transport : Nat)
  | receiving (transport : Nat)
  | closing (transport : Nat)
  | sleeping (delay : ℚ)
  | ended
  deriving DecidableEq

-- `opened` and `closed` are ghosts: the transports connected and closed so far.
structure WSConnection where
  state : ConnectionState := .connecting
  phase : Phase := .connecting
  transport : Option Nat := none
  consecutiveFailures : Nat := 0
  reconnections : Nat := 0
  messagesReceived : Nat := 0
  opened : Nat := 0
  closed : List Nat := []

-- From here on a power is rounded to infinity, which Python raises.
def overflowAt : ℚ := 2 ^ 1024 - 2 ^ 970

def power (factor : ℚ) (exponent : Nat) : Except PyError ℚ :=
  if factor ^ exponent < overflowAt then .ok (factor ^ exponent) else .error .overflow

def backoffDelay (config : WSConnectionConfig) (failures : Nat) (jitter : Jitter) : Except PyError ℚ :=
  (power config.backoffFactor (failures - 1)).map (fun scale =>
    min (config.backoffBaseSeconds * scale) config.backoffCapSeconds * (1 / 2 + jitter.value / 2))

-- What awaits the supervisor. A callback raises a `ProviderError` or anything
-- else; what a message handler raises is only logged.
inductive Event where
  | refused (jitter : Jitter)
  | opened
  | returned
  | raised (provider : Bool) (jitter : Jitter)
  | message
  | failed
  | closed (jitter : Jitter)
  | woke

namespace WSConnection

-- The rest of a round after a `ProviderError`. An overflow leaves the loop.
def afterFailure (config : WSConnectionConfig) (connection : WSConnection) (jitter : Jitter) : WSConnection :=
  let failures := connection.consecutiveFailures + 1
  if config.maxRetries ≠ 0 ∧ config.maxRetries ≤ failures then
    { connection with consecutiveFailures := failures, state := .disconnected, phase := .ended }
  else match backoffDelay config failures jitter with
    | .error _ => { connection with consecutiveFailures := failures, state := .reconnecting, phase := .ended }
    | .ok delay => { connection with consecutiveFailures := failures, state := .reconnecting, phase := .sleeping delay }

def afterConnect (connection : WSConnection) : WSConnection :=
  let wasReconnection := decide (0 < connection.reconnections) || decide (0 < connection.consecutiveFailures)
  { connection with
    state := .connected
    transport := some connection.opened
    phase := .notifying connection.opened
    opened := connection.opened + 1
    reconnections := if wasReconnection then connection.reconnections + 1 else connection.reconnections }

-- An event that is not waited for does nothing.
def step (config : WSConnectionConfig) (connection : WSConnection) (event : Event) : WSConnection :=
  match connection.phase, event with
  | .connecting, .refused jitter => connection.afterFailure config jitter
  | .connecting, .opened => connection.afterConnect
  | .notifying transport, .returned => { connection with consecutiveFailures := 0, phase := .receiving transport }
  | .notifying _, .raised true jitter => connection.afterFailure config jitter
  | .notifying _, .raised false _ => { connection with phase := .ended }
  | .receiving _, .message => { connection with messagesReceived := connection.messagesReceived + 1 }
  | .receiving transport, .failed => { connection with phase := .closing transport }
  | .closing transport, .closed jitter =>
      { connection with transport := none, closed := transport :: connection.closed }.afterFailure config jitter
  | .sleeping _, .woke => { connection with state := .connecting, phase := .connecting }
  | _, _ => connection

end WSConnection

-- How a connection that was good ends. Silence is noticed where it is watched for.
inductive Ending (config : WSConnectionConfig) where
  | failure
  | silence (watched : 0 < config.staleAfterSeconds)

inductive Outcome (config : WSConnectionConfig) where
  | refused
  | callbackRaised (provider : Bool)
  | good (messages : Nat) (ending : Ending config)

variable {config : WSConnectionConfig}

def Outcome.events (jitter : Jitter) : Outcome config → List Event
  | .refused => [.refused jitter]
  | .callbackRaised provider => [.opened, .raised provider jitter]
  | .good messages _ => [.opened, .returned] ++ List.replicate messages .message ++ [.failed, .closed jitter]

-- One round of the loop, to the next attempt.
structure Attempt (config : WSConnectionConfig) where
  outcome : Outcome config
  jitter : Jitter

def Attempt.events (attempt : Attempt config) : List Event := attempt.outcome.events attempt.jitter

-- The history is a ghost, newest first.
structure Supervisor (config : WSConnectionConfig) where
  connection : WSConnection := {}
  history : List (Outcome config) := []

def Supervisor.round (supervisor : Supervisor config) (attempt : Attempt config) : Supervisor config where
  connection := Run.final (WSConnection.step config) supervisor.connection (attempt.events ++ [.woke])
  history := attempt.outcome :: supervisor.history

-- The failures since the last good connection: the first is its end.
def failuresSince : List (Outcome config) → Nat
  | [] => 0
  | .good _ _ :: _ => 1
  | _ :: earlier => failuresSince earlier + 1

end QuantEngine.StreamConnection

namespace QuantEngine.StreamConnection

open Run

namespace WSConnection

-- The loop is at a point where it holds the transport.
def Owns (connection : WSConnection) (transport : Nat) : Prop :=
  connection.phase = .notifying transport ∨ connection.phase = .receiving transport ∨ connection.phase = .closing transport

-- A connection that says it is connected has a live transport and a running loop.
def Live (connection : WSConnection) : Prop :=
  connection.state = .connected →
    ∃ transport, connection.transport = some transport ∧ transport ∉ connection.closed ∧ connection.Owns transport

def AllClosed (connection : WSConnection) : Prop := ∀ transport < connection.opened, transport ∈ connection.closed

end WSConnection

open WSConnection

-- The delay before an attempt that `failures` failures have led to.
def bound (config : WSConnectionConfig) (failures : Nat) : ℚ :=
  min (config.backoffBaseSeconds * config.backoffFactor ^ (failures - 1)) config.backoffCapSeconds

variable {config : WSConnectionConfig}

def Attempt.failures (attempt : Attempt config) (supervisor : Supervisor config) : Nat :=
  failuresSince (attempt.outcome :: supervisor.history)

-- After the outcome the loop sleeps within the bounds, and then connects again.
def Retried (supervisor : Supervisor config) (attempt : Attempt config) : Prop :=
  (∃ delay, (final (WSConnection.step config) supervisor.connection attempt.events).phase = .sleeping delay ∧
      1 / 2 * bound config (attempt.failures supervisor) ≤ delay ∧ delay ≤ bound config (attempt.failures supervisor)) ∧
    (supervisor.round attempt).connection.phase = .connecting

def Supervised (supervisor : Supervisor config) (attempt : Attempt config) : Prop :=
  Retried supervisor attempt ∧ (supervisor.round attempt).connection.AllClosed ∧
    Always (WSConnection.step config) Live supervisor.connection (attempt.events ++ [.woke])

-- The callback returns where it is called, and the power does not overflow.
def Sound (supervisor : Supervisor config) (attempt : Attempt config) : Prop :=
  (∀ provider, attempt.outcome ≠ .callbackRaised provider) ∧
    config.backoffFactor ^ (attempt.failures supervisor - 1) < overflowAt

-- The loop is about to connect, and what it connected before is closed.
structure Ready (supervisor : Supervisor config) : Prop where
  phase : supervisor.connection.phase = .connecting
  state : supervisor.connection.state = .connecting
  failures : supervisor.connection.consecutiveFailures = failuresSince supervisor.history
  closed : supervisor.connection.AllClosed
  known : ∀ transport ∈ supervisor.connection.closed, transport < supervisor.connection.opened

structure Endless (config : WSConnectionConfig) : Prop where
  retries : config.maxRetries = 0
  factor : 1 ≤ config.backoffFactor
  base : 0 < config.backoffBaseSeconds
  cap : 0 < config.backoffCapSeconds

theorem final_append {σ α : Type} (step : σ → α → σ) (s : σ) (first second : List α) :
    final step s (first ++ second) = final step (final step s first) second := List.foldl_append

theorem messages_received (connection : WSConnection) (transport : Nat) (receiving : connection.phase = .receiving transport)
    (count : Nat) : final (WSConnection.step config) connection (List.replicate count .message) =
      { connection with messagesReceived := connection.messagesReceived + count } := by
  induction count generalizing connection with
  | zero => rfl
  | succ count ih =>
      have one : connection.step config .message = { connection with messagesReceived := connection.messagesReceived + 1 } := by
        simp [WSConnection.step, receiving]
      rw [List.replicate_succ, final, List.foldl_cons, one]
      refine (ih { connection with messagesReceived := connection.messagesReceived + 1 } receiving).trans ?_
      simp [Nat.add_assoc, Nat.add_comm 1]

-- The end of a round without a limit of retries.
theorem after_failure_cases (endless : Endless config) (connection : WSConnection) (jitter : Jitter) :
    (overflowAt ≤ config.backoffFactor ^ connection.consecutiveFailures ∧
        connection.afterFailure config jitter =
          { connection with consecutiveFailures := connection.consecutiveFailures + 1, state := .reconnecting, phase := .ended }) ∨
      (config.backoffFactor ^ connection.consecutiveFailures < overflowAt ∧
        connection.afterFailure config jitter =
          { connection with
            consecutiveFailures := connection.consecutiveFailures + 1
            state := .reconnecting
            phase := .sleeping (bound config (connection.consecutiveFailures + 1) * (1 / 2 + jitter.value / 2)) }) := by
  have unlimited : ¬ (config.maxRetries ≠ 0 ∧ config.maxRetries ≤ connection.consecutiveFailures + 1) := fun limit =>
    limit.1 endless.retries
  rw [afterFailure, if_neg unlimited, backoffDelay, power, Nat.add_sub_cancel]
  by_cases small : config.backoffFactor ^ connection.consecutiveFailures < overflowAt
  · right
    rw [if_pos small]
    exact ⟨small, rfl⟩
  · left
    rw [if_neg small]
    exact ⟨not_lt.mp small, rfl⟩

theorem bound_positive (endless : Endless config) (failures : Nat) : 0 < bound config failures :=
  lt_min (mul_pos endless.base (pow_pos (lt_of_lt_of_le one_pos endless.factor) _)) endless.cap

theorem jittered (bound : ℚ) (positive : 0 < bound) (jitter : Jitter) :
    1 / 2 * bound ≤ bound * (1 / 2 + jitter.value / 2) ∧ bound * (1 / 2 + jitter.value / 2) ≤ bound := by
  have share : 0 ≤ bound * jitter.value := mul_nonneg positive.le jitter.low
  have less : bound * jitter.value ≤ bound * 1 := mul_le_mul_of_nonneg_left jitter.high.le positive.le
  constructor <;> linarith

-- What is passed from one round to the next where the callback does not raise:
-- the transport of the round, if there is one, is closed.
theorem round_closes (supervisor : Supervisor config) (ready : Ready supervisor) (attempt : Attempt config)
    (returns : ∀ provider, attempt.outcome ≠ .callbackRaised provider) :
    ∃ connection : WSConnection, final (WSConnection.step config) supervisor.connection attempt.events =
        connection.afterFailure config attempt.jitter ∧
      connection.consecutiveFailures + 1 = attempt.failures supervisor ∧ connection.AllClosed ∧
      ∀ transport ∈ connection.closed, transport < connection.opened := by
  obtain ⟨connection, history⟩ := supervisor
  obtain ⟨phase, state, failures, closed, known⟩ := ready
  obtain ⟨outcome, jitter⟩ := attempt
  dsimp only at phase state failures closed known returns
  cases outcome with
  | refused =>
      refine ⟨connection, ?_, ?_, closed, known⟩
      · simp [Attempt.events, Outcome.events, final, WSConnection.step, phase]
      · simp [Attempt.failures, failuresSince, failures]
  | callbackRaised provider => exact absurd rfl (returns provider)
  | good messages ending =>
      have greeted : final (WSConnection.step config) connection [.opened, .returned] =
          { connection.afterConnect with consecutiveFailures := 0, phase := .receiving connection.opened } := by
        simp [final, WSConnection.step, phase, afterConnect]
      refine ⟨{ connection.afterConnect with
          consecutiveFailures := 0
          phase := .closing connection.opened
          messagesReceived := connection.messagesReceived + messages
          transport := none
          closed := connection.opened :: connection.closed }, ?_, rfl, ?_, ?_⟩
      · rw [Attempt.events, Outcome.events, final_append, final_append, greeted,
          messages_received _ connection.opened rfl messages]
        simp [final, WSConnection.step, afterConnect]
      · intro transport below
        rcases Nat.lt_succ_iff_lt_or_eq.mp below with old | rfl
        · exact List.mem_cons_of_mem _ (closed transport old)
        · exact List.mem_cons_self
      · intro transport member
        rcases List.mem_cons.mp member with rfl | old
        · exact Nat.lt_succ_self _
        · exact Nat.lt_succ_of_lt (known transport old)

-- What every event but an escaping exception keeps.
structure Kept (connection : WSConnection) : Prop where
  live : connection.Live
  known : ∀ transport ∈ connection.closed, transport < connection.opened
  owned : ∀ transport, connection.Owns transport → transport < connection.opened

theorem kept_idle (connection : WSConnection) (state : connection.state ≠ .connected)
    (known : ∀ transport ∈ connection.closed, transport < connection.opened)
    (idle : ∀ transport, ¬ connection.Owns transport) : Kept connection :=
  ⟨fun connected => absurd connected state, known, fun transport owns => absurd owns (idle transport)⟩

theorem kept_after_failure (connection : WSConnection) (jitter : Jitter)
    (known : ∀ transport ∈ connection.closed, transport < connection.opened) :
    Kept (connection.afterFailure config jitter) := by
  rw [afterFailure]
  split
  · exact kept_idle _ (by simp) known (by simp [Owns])
  · split
    · exact kept_idle _ (by simp) known (by simp [Owns])
    · exact kept_idle _ (by simp) known (by simp [Owns])

-- A move of the loop from one point with the transport to another.
theorem kept_moved (connection : WSConnection) (transport : Nat) (before after : Phase) (kept : Kept connection)
    (phase : connection.phase = before) (held : before = .notifying transport ∨ before = .receiving transport)
    (holds : after = .receiving transport ∨ after = .closing transport) (failures messages : Nat) :
    Kept { connection with phase := after, consecutiveFailures := failures, messagesReceived := messages } := by
  have owns : connection.Owns transport := by
    rcases held with rfl | rfl
    · exact .inl phase
    · exact .inr (.inl phase)
  have only : ∀ other, ({ connection with phase := after } : WSConnection).Owns other → other = transport := by
    intro other owned
    rcases holds with rfl | rfl <;> simpa [Owns, eq_comm] using owned
  have before' : ∀ other, connection.Owns other → other = transport := by
    intro other owned
    rcases held with rfl | rfl <;> simpa [Owns, phase, eq_comm] using owned
  refine ⟨fun connected => ?_, kept.known, fun other owned => only other owned ▸ kept.owned transport owns⟩
  obtain ⟨other, current, alive, owned⟩ := kept.live connected
  obtain rfl := before' other owned
  exact ⟨other, current, alive, by rcases holds with rfl | rfl <;> simp [Owns]⟩

theorem step_kept (connection : WSConnection) (event : Event) (kept : Kept connection)
    (caught : ∀ jitter, event ≠ .raised false jitter) : Kept (connection.step config event) := by
  unfold WSConnection.step
  split
  · exact kept_after_failure connection _ kept.known
  · refine ⟨fun _ => ⟨connection.opened, rfl, fun member => absurd (kept.known _ member) (Nat.lt_irrefl _), .inl rfl⟩,
      fun transport member => Nat.lt_succ_of_lt (kept.known transport member), ?_⟩
    intro transport owns
    simp only [Owns, afterConnect, Phase.notifying.injEq, reduceCtorEq, or_false] at owns
    exact owns ▸ Nat.lt_succ_self _
  · exact kept_moved connection _ _ _ kept (by assumption) (.inl rfl) (.inl rfl) 0 connection.messagesReceived
  · exact kept_after_failure connection _ kept.known
  · exact absurd rfl (caught _)
  · rename_i transport phase
    have stay := kept_moved connection transport _ _ kept phase (.inr rfl) (.inl rfl) connection.consecutiveFailures
      (connection.messagesReceived + 1)
    simpa only [← phase] using stay
  · exact kept_moved connection _ _ _ kept (by assumption) (.inr rfl) (.inr rfl) connection.consecutiveFailures
      connection.messagesReceived
  · rename_i transport jitter phase
    refine kept_after_failure _ jitter ?_
    intro other member
    rcases List.mem_cons.mp member with rfl | old
    · exact kept.owned other (.inr (.inr phase))
    · exact kept.known other old
  · exact kept_idle _ (by simp) kept.known (by simp [Owns])
  · exact kept

theorem attempt_caught (attempt : Attempt config) (returns : ∀ provider, attempt.outcome ≠ .callbackRaised provider) :
    ∀ event ∈ attempt.events ++ [.woke], ∀ jitter, event ≠ .raised false jitter := by
  obtain ⟨outcome, jitter⟩ := attempt
  intro event member other
  rintro rfl
  cases outcome with
  | refused => simp [Attempt.events, Outcome.events] at member
  | callbackRaised provider => exact returns provider rfl
  | good messages ending => simp [Attempt.events, Outcome.events, List.mem_replicate] at member

theorem woken (supervisor : Supervisor config) (attempt : Attempt config) :
    (supervisor.round attempt).connection =
      (final (WSConnection.step config) supervisor.connection attempt.events).step config .woke :=
  final_append _ _ _ _

theorem after_failure_transports (connection : WSConnection) (jitter : Jitter) :
    (connection.afterFailure config jitter).opened = connection.opened ∧
      (connection.afterFailure config jitter).closed = connection.closed := by
  rw [afterFailure]
  split
  · exact ⟨rfl, rfl⟩
  · split <;> exact ⟨rfl, rfl⟩

theorem woke_transports (connection : WSConnection) :
    (connection.step config .woke).opened = connection.opened ∧ (connection.step config .woke).closed = connection.closed := by
  unfold WSConnection.step
  split <;> first | exact ⟨rfl, rfl⟩ | simp_all

-- A callback that raises leaves the transport open.
theorem raised_leaks (supervisor : Supervisor config) (ready : Ready supervisor) (provider : Bool) (jitter : Jitter) :
    ¬ (supervisor.round ⟨.callbackRaised provider, jitter⟩).connection.AllClosed := by
  obtain ⟨connection, history⟩ := supervisor
  obtain ⟨phase, -, -, -, known⟩ := ready
  dsimp only at phase known
  have raised : (final (WSConnection.step config) connection [.opened, .raised provider jitter]).opened = connection.opened + 1 ∧
      (final (WSConnection.step config) connection [.opened, .raised provider jitter]).closed = connection.closed := by
    cases provider with
    | true =>
        have ran : final (WSConnection.step config) connection [.opened, .raised true jitter] =
            connection.afterConnect.afterFailure config jitter := by
          simp [final, WSConnection.step, phase, afterConnect]
        rw [ran, (after_failure_transports _ jitter).1, (after_failure_transports _ jitter).2]
        exact ⟨rfl, rfl⟩
    | false => simp [final, WSConnection.step, phase, afterConnect]
  rw [woken]
  intro closed
  have last := closed connection.opened (by
    rw [(woke_transports _).1]
    exact raised.1 ▸ Nat.lt_succ_self _)
  rw [(woke_transports _).2] at last
  exact absurd (known _ (raised.2 ▸ last)) (Nat.lt_irrefl _)

theorem supervised_step (endless : Endless config) (supervisor : Supervisor config) (attempt : Attempt config)
    (ready : Ready supervisor) :
    (Supervised supervisor attempt ↔ Sound supervisor attempt) ∧ (Sound supervisor attempt → Ready (supervisor.round attempt)) := by
  by_cases returns : ∀ provider, attempt.outcome ≠ .callbackRaised provider
  · obtain ⟨connection, ran, failures, closed, known⟩ := round_closes supervisor ready attempt returns
    have kept : Kept supervisor.connection := kept_idle _ (by simp [ready.state]) ready.known (by simp [Owns, ready.phase])
    have live : Always (WSConnection.step config) Live supervisor.connection (attempt.events ++ [.woke]) :=
      always_of_invariant _ (fun _ event => ∀ jitter, event ≠ .raised false jitter) Kept Live step_kept (fun _ kept => kept.live)
        supervisor.connection _ kept (each_of_mem _ _ _ _ (attempt_caught attempt returns))
    have exponent : attempt.failures supervisor - 1 = connection.consecutiveFailures := by omega
    rcases after_failure_cases endless connection attempt.jitter with ⟨large, ended⟩ | ⟨small, slept⟩
    · have unsound : ¬ Sound supervisor attempt := fun sound => absurd sound.2 (exponent ▸ not_lt.mpr large)
      refine ⟨iff_of_false ?_ unsound, fun sound => absurd sound unsound⟩
      rintro ⟨⟨⟨delay, asleep, -⟩, -⟩, -⟩
      rw [ran, ended] at asleep
      cases asleep
    · have round : (supervisor.round attempt).connection =
          { connection with
            consecutiveFailures := connection.consecutiveFailures + 1
            state := .connecting
            phase := .connecting } := by
        rw [woken, ran, slept]
        rfl
      have interval := jittered _ (bound_positive endless (attempt.failures supervisor)) attempt.jitter
      have sound : Sound supervisor attempt := ⟨returns, exponent ▸ small⟩
      have supervised : Supervised supervisor attempt := by
        refine ⟨⟨⟨_, by rw [ran, slept], ?_⟩, by rw [round]⟩, by rw [round]; exact closed, live⟩
        rw [failures]
        exact interval
      refine ⟨iff_of_true supervised sound, fun _ => ?_⟩
      exact ⟨by rw [round], by rw [round], by rw [round]; exact failures, by rw [round]; exact closed, by rw [round]; exact known⟩
  · have unsound : ¬ Sound supervisor attempt := fun sound => returns sound.1
    refine ⟨iff_of_false ?_ unsound, fun sound => absurd sound unsound⟩
    obtain ⟨outcome, jitter⟩ := attempt
    rw [not_forall] at returns
    obtain ⟨provider, raised⟩ := returns
    obtain rfl := Classical.not_not.mp raised
    exact fun supervised => raised_leaks supervisor ready provider jitter supervised.2.1

theorem ready_start : Ready ({} : Supervisor config) :=
  ⟨rfl, rfl, rfl, fun _ below => absurd below (Nat.not_lt_zero _), fun _ member => absurd member List.not_mem_nil⟩

theorem rounds_iff (endless : Endless config) (supervisor : Supervisor config) (ready : Ready supervisor)
    (attempts : List (Attempt config)) :
    Each Supervisor.round Supervised supervisor attempts ↔ Each Supervisor.round Sound supervisor attempts :=
  each_iff Supervisor.round Supervised Sound Ready
    (fun supervisor attempt ready => (supervised_step endless supervisor attempt ready).1)
    (fun supervisor attempt ready sound => (supervised_step endless supervisor attempt ready).2 sound) supervisor attempts ready

theorem refusals_sound (supervisor : Supervisor config) (jitter : Jitter) (count : Nat)
    (sound : Each Supervisor.round Sound supervisor (List.replicate (count + 1) ⟨.refused, jitter⟩)) :
    config.backoffFactor ^ (failuresSince supervisor.history + count) < overflowAt := by
  induction count generalizing supervisor with
  | zero => exact sound.1.2
  | succ count ih =>
      have later := ih _ sound.2
      rw [Supervisor.round, failuresSince, Nat.add_right_comm] at later
      · exact later
      · simp

-- The connection is supervised in exactly the runs in which no callback raises
-- and no power overflows.
theorem supervised_iff (endless : Endless config) (attempts : List (Attempt config)) :
    Each Supervisor.round Supervised ({} : Supervisor config) attempts ↔ Each Supervisor.round Sound {} attempts :=
  rounds_iff endless {} ready_start attempts

def standard : WSConnectionConfig := {}

def half : Jitter := ⟨1 / 2, by decide +kernel, by decide +kernel⟩

theorem standard_endless : Endless standard := ⟨rfl, by decide +kernel, by decide +kernel, by decide +kernel⟩

theorem supervised_iff_standard :
    Each Supervisor.round Supervised ({} : Supervisor standard) [⟨.refused, half⟩, ⟨.good 3 .failure, half⟩] ↔
      Each Supervisor.round Sound ({} : Supervisor standard) [⟨.refused, half⟩, ⟨.good 3 .failure, half⟩] :=
  supervised_iff standard_endless _

-- A callback that raises a `RuntimeError`: the connection says it is connected,
-- and no loop runs. One that raises a `ProviderError`: the transport stays open.
-- After 1025 refusals the power overflows.
theorem callback_ends_the_loop :
    ¬ Each Supervisor.round Supervised ({} : Supervisor standard) [⟨.callbackRaised false, half⟩] ∧
      ¬ Each Supervisor.round Supervised ({} : Supervisor standard) [⟨.callbackRaised true, half⟩] ∧
      ¬ Each Supervisor.round Supervised ({} : Supervisor standard) (List.replicate 1025 ⟨.refused, half⟩) := by
  refine ⟨?_, ?_, ?_⟩
  · rintro ⟨⟨-, -, -, live⟩, -⟩
    obtain ⟨_, _, _, owned⟩ := live.2.1 rfl
    rcases owned with owned | owned | owned <;> cases owned
  · rintro ⟨supervised, -⟩
    exact raised_leaks {} ready_start true half supervised.2.1
  · intro supervised
    have small := refusals_sound {} half 1024 ((rounds_iff standard_endless {} ready_start _).mp supervised)
    exact absurd small (by decide +kernel)

end QuantEngine.StreamConnection
