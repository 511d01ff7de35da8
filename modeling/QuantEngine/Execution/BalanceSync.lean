import QuantEngine.Execution.Reconciliation

set_option autoImplicit false

namespace QuantEngine.BalanceSync

open ExecutionEngine World
open Run (Each)

variable {β : Type}

-- The uninterrupted moves of the engine and of what is around it, in any
-- order; the tasks of the engine are made of them.
inductive Move (β : Type) where
  | catchUp
  | operation (operation : Operation)
  | outside (change : Disturbance β)

section

variable (engine : ExecutionEngine β)

def move (world : World β) : Move β → World β
  | .catchUp => engine.catchUp world
  | .operation operation => engine.act operation world
  | .outside change => change.disturb world

def reported (world : World β) : Option ℚ := engine.paper.accountBalance.bind (fun balanceOf => balanceOf world.broker)

def live (world : World β) : List (PositionId × Position) :=
  world.positions.openPositions.filter (fun entry => !decide (entry ∈ engine.gone world))

def liveFloating (world : World β) : ℚ := ((live engine world).map (fun entry => entry.2.unrealizedPnl)).sum

def trueEquity (world : World β) : Option ℚ :=
  (reported engine world).map (fun balance => balance + liveFloating engine world)

def bookedAgain (world : World β) : ℚ :=
  ((engine.gone world).map (fun entry => entry.2.grossPnl (lastPrice world entry.2))).sum

-- The broker's balance has moved as the books have, and nothing is gone there.
def keepsUp (before after : World β) : Bool :=
  match reported engine before, reported engine after with
  | some old, some new =>
      decide (new - old = after.portfolio.balance - before.portfolio.balance) && (engine.gone after).isEmpty
  | _, _ => false

-- The engine with the highest true equity seen so far, and whether its books
-- have kept up with the account since it was last read.
structure Watched (β : Type) where
  world : World β
  highest : ℚ
  inStep : Bool

def watch (watched : Watched β) (taken : Move β) : Watched β :=
  let world := move engine watched.world taken
  { world := world
    highest := match trueEquity engine world with
      | none => watched.highest
      | some equity => max watched.highest equity
    inStep := match taken with
      | .catchUp => (reported engine world).isSome
      | _ => watched.inStep && keepsUp engine watched.world world }

theorem watch_world (watched : Watched β) (moves : List (Move β)) :
    (Run.final (watch engine) watched moves).world = Run.final (move engine) watched.world moves := by
  induction moves generalizing watched with
  | nil => rfl
  | cons taken rest ih => exact ih (watch engine watched taken)

-- After a move the account agrees with the broker, if it was just read, and
-- the peak is no higher than the true equity has been.
structure Right (watched : Watched β) (taken : Move β) : Prop where
  balance : taken = .catchUp → ∀ reads ∈ reported engine watched.world,
    (watch engine watched taken).world.portfolio.balance = reads
  peak : (watch engine watched taken).world.portfolio.peakEquity ≤ (watch engine watched taken).highest

-- Nothing is booked again, and the balance read is no higher than the equity
-- has been unless the live positions float no loss.
def ReadOnce (watched : Watched β) (taken : Move β) : Prop :=
  taken = .catchUp → ∀ reads ∈ reported engine watched.world, bookedAgain engine watched.world = 0 ∧
    (0 ≤ liveFloating engine watched.world ∨ reads ≤ watched.highest)

def TakenInStep (watched : Watched β) (taken : Move β) : Prop := taken = .operation .refreshRisk → watched.inStep = true

theorem catch_up_balance (world : World β) (reads : ℚ) (here : reported engine world = some reads) :
    (engine.catchUp world).portfolio.balance = reads + bookedAgain engine world := by
  have synced : (engine.syncBrokerBalance world).portfolio.balance = reads := by
    rw [syncBrokerBalance, show engine.paper.accountBalance.bind _ = some reads from here]
    dsimp only
    rw [PortfolioManager.syncFromBroker]
    split <;> rfl
  rw [catch_up_settles, settle_all_balance, synced, bookedAgain]
  simp only [sync_price]

theorem catch_up_peak (world : World β) (reads : ℚ) (here : reported engine world = some reads) :
    (engine.catchUp world).portfolio.peakEquity =
      if world.balanceBaselineSet = true then max world.portfolio.peakEquity reads else reads := by
  rw [catch_up_settles, (settle_all_frame _ _).2, syncBrokerBalance,
    show engine.paper.accountBalance.bind _ = some reads from here]
  dsimp only
  rw [PortfolioManager.syncFromBroker]
  cases world.balanceBaselineSet with
  | true => rfl
  | false => rfl

theorem catch_up_unread (world : World β) (unread : reported engine world = none) :
    (engine.catchUp world).portfolio.peakEquity = world.portfolio.peakEquity := by
  rw [catch_up_settles, (settle_all_frame _ _).2, syncBrokerBalance,
    show engine.paper.accountBalance.bind _ = none from unread]

theorem catch_up_reported (world : World β) : reported engine (engine.catchUp world) = reported engine world := by
  rw [reported, reported, catch_up_broker]

theorem catch_up_live (world : World β) : (engine.catchUp world).positions.openPositions = live engine world :=
  engine.catch_up_entries world

theorem catch_up_gone (world : World β) : engine.gone (engine.catchUp world) = [] := by
  have opened := catch_up_live engine world
  have broker := engine.catch_up_broker world
  rw [live, gone] at opened
  rw [gone]
  cases tickets : engine.paper.openPositionTickets with
  | none => rfl
  | some ticketsOf =>
      rw [tickets] at opened
      dsimp only at opened ⊢
      rw [opened, broker, List.filter_filter, List.filter_eq_nil_iff]
      intro entry member both
      simp only [Bool.and_eq_true, Bool.not_eq_true', decide_eq_false_iff_not] at both
      exact both.2 (List.mem_filter.mpr ⟨member, both.1⟩)

theorem catch_up_floating (world : World β) :
    liveFloating engine (engine.catchUp world) = liveFloating engine world := by
  have all : live engine (engine.catchUp world) = live engine world := by
    rw [live, catch_up_gone, catch_up_live]
    simp
  rw [liveFloating, all, liveFloating]

def Agrees (world : World β) : Prop := reported engine world = some world.portfolio.balance ∧ engine.gone world = []

structure Inv (watched : Watched β) : Prop where
  peak : watched.world.portfolio.peakEquity ≤ watched.highest
  agrees : watched.inStep = true → Agrees engine watched.world

theorem watch_highest (watched : Watched β) (taken : Move β) : watched.highest ≤ (watch engine watched taken).highest := by
  simp only [watch]
  split
  · exact le_refl _
  · exact le_max_left _ _

theorem true_highest (watched : Watched β) (taken : Move β) (equity : ℚ)
    (here : trueEquity engine (move engine watched.world taken) = some equity) :
    equity ≤ (watch engine watched taken).highest := by
  simp only [watch, here]
  exact le_max_right _ _

theorem kept_agrees (before after : World β) (agrees : Agrees engine before) (kept : keepsUp engine before after = true) :
    Agrees engine after := by
  rw [keepsUp, agrees.1] at kept
  cases reads : reported engine after with
  | none =>
      rw [reads] at kept
      cases kept
  | some new =>
      simp only [reads, Bool.and_eq_true, decide_eq_true_eq, List.isEmpty_iff] at kept
      refine ⟨?_, kept.2⟩
      rw [reads]
      exact congrArg some (by linarith [kept.1])

theorem act_peak (operation : Operation) (world : World β) (other : operation ≠ .refreshRisk) :
    (engine.act operation world).portfolio.peakEquity = world.portfolio.peakEquity := by
  cases operation with
  | screen decision => rw [act, (engine.screen_quiet decision world).portfolio]
  | enter decision entry view =>
      rcases engine.enter_effect decision entry view world with quiet | ⟨_, _, _, _, -, opened⟩
      · rw [act, quiet.portfolio]
      · rw [act, opened.portfolio]
        rfl
  | startClose id reason exitReasons => rw [act, (start_close_quiet id reason exitReasons world).portfolio]
  | finishClose order view =>
      cases found : world.positions.object order.id with
      | none => simp only [act, finishClose, found]
      | some position =>
          rcases engine.finish_close_effect order view world position found with ⟨-, quiet⟩ | ⟨_, -, settled⟩
          · rw [act, quiet.portfolio]
          · rw [act, settled.portfolio]
            rfl
  | markAndManage id => rw [act, (engine.mark_and_manage_effect id world).portfolio]
  | readRegime id view => rw [act, (engine.read_regime_effect id view world).portfolio]
  | refreshRisk => exact (other rfl).elim
  | modifyStop id stopLoss => rw [act, (modify_stop_effect id stopLoss world).portfolio]
  | moveBreakEven id => rw [act, (break_even_effect id world).portfolio]

theorem refresh_broker (world : World β) : (refreshRiskState world).2.broker = world.broker := by
  simp only [refreshRiskState]
  split
  · rfl
  · split <;> rfl

theorem refresh_true (world : World β) (agrees : Agrees engine world) :
    trueEquity engine (refreshRiskState world).2 = some (world.portfolio.equity world.openPositions) := by
  have positions := (refresh_risk_effect world).positions
  have broker := refresh_broker world
  have same : engine.gone (refreshRiskState world).2 = [] := by
    rw [gone, positions, broker]
    exact agrees.2
  have all : live engine (refreshRiskState world).2 = world.positions.openPositions := by
    rw [live, same, positions]
    simp
  have reads : reported engine (refreshRiskState world).2 = some world.portfolio.balance := by
    rw [reported, broker]
    exact agrees.1
  have floating : PortfolioManager.floatingPnl world.openPositions = liveFloating engine (refreshRiskState world).2 := by
    rw [liveFloating, all, PortfolioManager.floatingPnl, openPositions, Managers.openPositions, Dict.values, List.map_map]
    rfl
  rw [trueEquity, reads, PortfolioManager.equity, floating]
  rfl

theorem refresh_peak (world : World β) : (refreshRiskState world).2.portfolio.peakEquity =
    max world.portfolio.peakEquity (world.portfolio.equity world.openPositions) := by
  rw [(refresh_risk_effect world).portfolio]
  rfl

theorem caught_up_highest (watched : Watched β) (reads : ℚ) (here : reported engine watched.world = some reads) :
    (watch engine watched .catchUp).highest = max watched.highest (reads + liveFloating engine watched.world) := by
  simp only [watch, move, trueEquity, catch_up_reported, here, Option.map_some, catch_up_floating]

theorem right_read_once (watched : Watched β) (right : Right engine watched .catchUp) :
    ReadOnce engine watched .catchUp := by
  intro _ reads here
  have balance := right.balance rfl reads here
  have peak : (engine.catchUp watched.world).portfolio.peakEquity ≤ _ := right.peak
  rw [caught_up_highest engine watched reads here, catch_up_peak engine watched.world reads here] at peak
  change (engine.catchUp watched.world).portfolio.balance = reads at balance
  rw [catch_up_balance engine watched.world reads here] at balance
  refine ⟨by linarith, ?_⟩
  have bounded : reads ≤ max watched.highest (reads + liveFloating engine watched.world) := by
    split at peak
    · exact le_trans (le_max_right _ _) peak
    · exact peak
  cases le_max_iff.mp bounded with
  | inl before => exact .inr before
  | inr floats => exact .inl (by linarith)

theorem read_once_right (watched : Watched β) (inv : Inv engine watched) (once : ReadOnce engine watched .catchUp) :
    Right engine watched .catchUp := by
  have grows := watch_highest engine watched .catchUp
  refine ⟨?_, ?_⟩
  · intro _ reads here
    change (engine.catchUp watched.world).portfolio.balance = reads
    rw [catch_up_balance engine watched.world reads here, (once rfl reads here).1, add_zero]
  · change (engine.catchUp watched.world).portfolio.peakEquity ≤ _
    cases here : reported engine watched.world with
    | none =>
        rw [catch_up_unread engine watched.world here]
        exact le_trans inv.peak grows
    | some reads =>
        have bounded : reads ≤ (watch engine watched .catchUp).highest := by
          rw [caught_up_highest engine watched reads here]
          cases (once rfl reads here).2 with
          | inl floats => exact le_trans (by linarith) (le_max_right _ _)
          | inr before => exact le_trans before (le_max_left _ _)
        rw [catch_up_peak engine watched.world reads here]
        split
        · exact max_le (le_trans inv.peak grows) bounded
        · exact bounded

theorem other_right (watched : Watched β) (taken : Move β) (inv : Inv engine watched)
    (inStep : TakenInStep watched taken) (other : taken ≠ .catchUp) : Right engine watched taken := by
  have grows := watch_highest engine watched taken
  refine ⟨fun caught => (other caught).elim, ?_⟩
  cases taken with
  | catchUp => exact (other rfl).elim
  | outside change =>
      change (change.disturb watched.world).portfolio.peakEquity ≤ _
      rw [(disturb_quiet watched.world change).portfolio]
      exact le_trans inv.peak grows
  | operation operation =>
      change (engine.act operation watched.world).portfolio.peakEquity ≤ _
      by_cases refresh : operation = .refreshRisk
      · subst operation
        have agrees := inv.agrees (inStep rfl)
        have reached := true_highest engine watched (.operation .refreshRisk) _ (refresh_true engine watched.world agrees)
        rw [act, refresh_peak]
        exact max_le (le_trans inv.peak grows) reached
      · rw [act_peak engine operation watched.world refresh]
        exact le_trans inv.peak grows

theorem watch_keeps (watched : Watched β) (taken : Move β) (inv : Inv engine watched) (right : Right engine watched taken) :
    Inv engine (watch engine watched taken) := by
  refine ⟨right.peak, ?_⟩
  cases taken with
  | catchUp =>
      intro read
      have some : (reported engine (engine.catchUp watched.world)).isSome = true := read
      rw [catch_up_reported] at some
      obtain ⟨reads, here⟩ := Option.isSome_iff_exists.mp some
      refine ⟨?_, catch_up_gone engine watched.world⟩
      change reported engine (engine.catchUp watched.world) = _
      rw [catch_up_reported, here]
      exact congrArg Option.some (right.balance rfl reads here).symm
  | operation operation =>
      intro kept
      obtain ⟨before, keeps⟩ := Bool.and_eq_true_iff.mp kept
      exact kept_agrees engine _ _ (inv.agrees before) keeps
  | outside change =>
      intro kept
      obtain ⟨before, keeps⟩ := Bool.and_eq_true_iff.mp kept
      exact kept_agrees engine _ _ (inv.agrees before) keeps

def Reaches (before after : World β) : Prop := ∃ moves, after = Run.final (move engine) before moves

theorem reaches_one (world : World β) (taken : Move β) : Reaches engine world (move engine world taken) := ⟨[taken], rfl⟩

theorem operates_reaches : engine.Operates (Reaches engine) where
  refl world := ⟨[], rfl⟩
  trans a b c first second := by
    obtain ⟨early, rfl⟩ := first
    obtain ⟨later, rfl⟩ := second
    exact ⟨early ++ later, (List.foldl_append ..).symm⟩
  each operation world _ := reaches_one engine world (.operation operation)
  enter decision entry view world := reaches_one engine world (.operation (.enter decision entry view))

theorem run_is_watched (session : Session β) (events : List (Event β)) (idle : session.waiting = []) (highest : ℚ) :
    ∃ moves, (Run.final engine.run session events).state =
      (Run.final (watch engine) ⟨session.state, highest, false⟩ moves).world := by
  have operates := operates_reaches engine
  have unconditional := Run.each_of_all engine.run (Pool.Starts (fun _ _ => True))
    (fun _ action => by cases action <;> trivial) session events
  have along := Pool.along_guaranteed engine.perform Disturbance.disturb (Reaches engine) (fun _ _ => True) operates.refl
    (fun job world _ => perform_operates operates job world (fun _ => reaches_one engine world .catchUp))
    (fun change world => reaches_one engine world (.outside change)) session events idle unconditional
  obtain ⟨moves, same⟩ := Run.final_of_along engine.run (fun before after => Reaches engine before.state after.state)
    (fun reached => operates.refl reached.state) (fun a b c => operates.trans a.state b.state c.state) session events along
  exact ⟨moves, by rw [same, watch_world]⟩

-- In every run whose equity is taken in step, the books are right after every
-- move exactly where no reading of the account books a result again.
theorem read_once_iff (world : World β) (highest : ℚ) (moves : List (Move β))
    (start : world.portfolio.peakEquity ≤ highest)
    (inStep : Each (watch engine) TakenInStep ⟨world, highest, false⟩ moves) :
    Each (watch engine) (Right engine) ⟨world, highest, false⟩ moves ↔
      Each (watch engine) (ReadOnce engine) ⟨world, highest, false⟩ moves := by
  have same (watched : Watched β) (taken : Move β) (inv : Inv engine watched) :
      (Right engine watched taken ∧ TakenInStep watched taken) ↔
        (ReadOnce engine watched taken ∧ TakenInStep watched taken) := by
    refine and_congr_left (fun inStep => ?_)
    by_cases caught : taken = .catchUp
    · subst taken
      exact ⟨right_read_once engine watched, read_once_right engine watched inv⟩
    · exact ⟨fun _ catches => (caught catches).elim, fun _ => other_right engine watched taken inv inStep caught⟩
  have together := Run.each_iff (watch engine) _ _ (Inv engine) same
    (fun watched taken inv allowed => watch_keeps engine watched taken inv ((same watched taken inv).mpr allowed).1)
    ⟨world, highest, false⟩ moves ⟨start, fun unread => (nomatch unread)⟩
  constructor
  · intro right
    exact Run.each_mono _ _ _ (fun _ _ both => both.1) _ _ (together.mp (Run.each_and _ _ _ _ _ right inStep))
  · intro once
    exact Run.each_mono _ _ _ (fun _ _ both => both.1) _ _ (together.mpr (Run.each_and _ _ _ _ _ once inStep))

end

def account : Broker (ℚ × List Int) where
  execute state _ _ _ _ _ _ := (⟨none, .brokerRejected⟩, state)
  accountBalance := some (fun state => some state.1)
  openPositionTickets := some (fun state _ => state.2)
  fillsRequest _ _ _ _ _ _ _ _ filled := nomatch filled

def synced : ExecutionEngine (ℚ × List Int) := ⟨{}, account, false⟩

def gold : Position := .postInit {
  symbol := "XAUUSD", side := .long, quantity := 1, initialQuantity := 1, entryPrice := 2000, initialStop := none
  stopLoss := none, takeProfit := none, openedAt := 0, metadata := { brokerRef := some "7" } }

def tracking (balance price : ℚ) (tickets : List Int) : World (ℚ × List Int) :=
  { World.fresh {} {} none (balance, tickets) ⟨fun _ => some ⟨price, price⟩, fun _ => []⟩ 60000000 with
    positions := { opened := Dict.empty.insert 0 gold }
    balanceBaselineSet := true
    nextId := 1 }

def pass : List (Move (ℚ × List Int)) := [.catchUp, .operation (.markAndManage 0), .operation .refreshRisk]

theorem read_once_iff_live :
    Each (watch synced) (Right synced) ⟨tracking 10000 2050 [7], 10000, false⟩ pass ↔
      Each (watch synced) (ReadOnce synced) ⟨tracking 10000 2050 [7], 10000, false⟩ pass :=
  read_once_iff synced (tracking 10000 2050 [7]) 10000 pass (le_refl _)
    ⟨fun other => (nomatch other), fun other => (nomatch other), fun _ => (by decide +kernel), trivial⟩

-- The broker has closed the position at 2100 and its balance holds the 100:
-- they are booked once more, and the peak keeps them.
theorem gain_booked_again :
    (synced.catchUp (tracking 10100 2100 [])).portfolio.balance = 10200 ∧
      ¬ Each (watch synced) (Right synced) ⟨tracking 10100 2100 [], 10100, false⟩ pass ∧
      (Run.final (watch synced) ⟨tracking 10100 2100 [], 10100, false⟩ pass).highest = 10100 ∧
      (Run.final (watch synced) ⟨tracking 10100 2100 [], 10100, false⟩ pass).world.portfolio.peakEquity = 10200 := by
  refine ⟨by decide +kernel, ?_, by decide +kernel, by decide +kernel⟩
  intro right
  have balance := right.1.balance rfl 10100 (by decide +kernel)
  exact absurd balance (by decide +kernel)

end QuantEngine.BalanceSync
