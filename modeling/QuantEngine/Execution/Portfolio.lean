import QuantEngine.Execution.Models

set_option autoImplicit false

namespace QuantEngine

open Calendar (Moment)

structure PortfolioManager where
  initialBalance : ℚ
  balance : ℚ
  baseCurrency : String
  leverage : ℚ
  peakEquity : ℚ
  totalTrades : Int
  wins : Int
  losses : Int
  commissionPaid : ℚ
  lastFloating : ℚ
  deriving DecidableEq

namespace PortfolioManager

def init (initialBalance : ℚ) (baseCurrency : String) (leverage : ℚ) : PortfolioManager where
  initialBalance := initialBalance
  balance := initialBalance
  baseCurrency := baseCurrency
  leverage := max 1 leverage
  peakEquity := initialBalance
  totalTrades := 0
  wins := 0
  losses := 0
  commissionPaid := 0
  lastFloating := 0

def restore (portfolio : PortfolioManager) (balance peakEquity : ℚ) (totalTrades wins losses : Int)
    (commissionPaid : ℚ) : PortfolioManager :=
  { portfolio with
    balance := balance
    peakEquity := max peakEquity balance
    totalTrades := totalTrades
    wins := wins
    losses := losses
    commissionPaid := commissionPaid }

-- The first synchronisation also moves the baseline of return and drawdown.
def syncFromBroker (portfolio : PortfolioManager) (balance : ℚ) (setBaseline : Bool) : PortfolioManager :=
  if setBaseline then { portfolio with balance := balance, initialBalance := balance, peakEquity := balance }
  else { portfolio with balance := balance, peakEquity := max portfolio.peakEquity balance }

def realizedPnl (portfolio : PortfolioManager) : ℚ := portfolio.balance - portfolio.initialBalance

def onOpenCommission (portfolio : PortfolioManager) (commission : ℚ) : PortfolioManager :=
  { portfolio with
    balance := portfolio.balance - commission
    commissionPaid := portfolio.commissionPaid + commission }

def onTradeClosed (portfolio : PortfolioManager) (grossPnl closeCommission : ℚ) : PortfolioManager :=
  let net := grossPnl - closeCommission
  { portfolio with
    balance := portfolio.balance + (grossPnl - closeCommission)
    commissionPaid := portfolio.commissionPaid + closeCommission
    totalTrades := portfolio.totalTrades + 1
    wins := if net > 0 then portfolio.wins + 1 else portfolio.wins
    losses := if net > 0 then portfolio.losses
      else if net < 0 then portfolio.losses + 1 else portfolio.losses }

def floatingPnl (positions : List Position) : ℚ := (positions.map Position.unrealizedPnl).sum

def usedCapital (portfolio : PortfolioManager) (positions : List Position) : ℚ :=
  (positions.map Position.costBasis).sum / portfolio.leverage

def exposure (positions : List Position) : ℚ := (positions.map Position.notional).sum

def equity (portfolio : PortfolioManager) (positions : List Position) : ℚ :=
  portfolio.balance + floatingPnl positions

def drawdownPct (peak equity : ℚ) : ℚ :=
  if peak > 0 then max 0 ((peak - equity) / peak * 100) else 0

def snapshot (portfolio : PortfolioManager) (positions : List Position) (now : Moment) :
    PortfolioSnapshot × PortfolioManager :=
  let floating := floatingPnl positions
  let equity := portfolio.balance + floating
  let used := portfolio.usedCapital positions
  let exposure := exposure positions
  let peak := max portfolio.peakEquity equity
  let exposurePct := if equity > 0 then exposure / equity * 100 else 0
  ({ timestamp := now
     initialBalance := portfolio.initialBalance
     balance := Decimal.roundTo 6 portfolio.balance
     equity := Decimal.roundTo 6 equity
     floatingPnl := Decimal.roundTo 6 floating
     realizedPnl := Decimal.roundTo 6 portfolio.realizedPnl
     usedCapital := Decimal.roundTo 6 used
     freeCapital := Decimal.roundTo 6 (equity - used)
     exposure := Decimal.roundTo 6 exposure
     exposurePct := Decimal.roundTo 4 exposurePct
     peakEquity := Decimal.roundTo 6 peak
     drawdownPct := Decimal.roundTo 4 (drawdownPct peak equity)
     openPositions := positions.length
     totalTrades := portfolio.totalTrades
     baseCurrency := portfolio.baseCurrency },
   { portfolio with lastFloating := floating, peakEquity := peak })

end PortfolioManager

end QuantEngine
