import QuantEngine.Library.Dict
import QuantEngine.Library.Extended
import QuantEngine.Library.FieldTree

set_option autoImplicit false

namespace QuantEngine.ConfigStore

variable {F : Type}

def whitelist : List String :=
  ["risk.max_daily_drawdown_pct", "risk.max_open_positions", "risk.risk_per_trade_pct",
    "execution.risk.max_risk_per_trade_pct", "execution.risk.max_daily_loss_pct", "execution.risk.max_open_positions",
    "execution.risk.max_positions_per_symbol", "execution.risk.max_exposure_pct", "execution.risk.max_consecutive_losses",
    "execution.risk.kill_switch_drawdown_pct", "execution.symbols_enabled", "execution.max_holding_minutes",
    "execution.exit_on_regime_change", "execution.regime_change_min_holding_seconds",
    "execution.regime_exit_confirmations", "execution.regime_exit_family_only", "execution.break_even_r",
    "execution.trailing_enabled", "execution.trailing_atr_multiple", "execution.trailing_activate_r",
    "execution.sizing.risk_per_trade_pct", "execution.sizing.atr_stop_multiplier", "execution.sizing.reward_risk",
    "execution.sizing.min_stop_pct", "quant.consensus.min_score", "quant.consensus.min_confidence",
    "quant.consensus.min_agreement", "quant.context.max_spread_bps", "quant.context.atr_pct_low",
    "paper.initial_balance", "paper.slippage_bps", "discord.enabled", "discord.min_level", "ml.enabled",
    "ml.auto_activate", "ml.meta.enabled", "backtesting.criteria.min_profit_factor", "backtesting.criteria.min_sharpe",
    "backtesting.criteria.max_drawdown_pct"]

def parts (path : String) : List String := Text.split '.' path

def objects : List String :=
  ["risk", "execution", "sizing", "quant", "consensus", "context", "paper", "discord", "ml", "meta", "backtesting", "criteria"]

theorem whitelist_settings : ∀ path ∈ whitelist, FieldTree.Setting objects (parts path) := by decide +kernel

theorem parts_nonempty (path : String) : parts path ≠ [] := by
  simp [parts, Text.split, Text.split_chars_nonempty]

-- No whitelisted path leads through another.
theorem whitelist_apart (path other : String) (listed : path ∈ whitelist) (also : other ∈ whitelist) (different : path ≠ other) :
    FieldTree.Apart (parts path) (parts other) :=
  FieldTree.settings_apart objects _ _ (whitelist_settings path listed) (whitelist_settings other also)
    (fun same => different (Text.split_injective '.' path other same))

-- Every whitelisted path is a setting.
structure Settings (F : Type) where
  tree : FieldTree (Json F)
  complete : ∀ path ∈ whitelist, (tree.valueAt (parts path)).isSome = true

-- The paths that are asked for are whitelisted; any other gives `None`.
def resolve (settings : Settings F) (path : String) : Json F := (settings.tree.valueAt (parts path)).getD .null

theorem set_complete (settings : Settings F) (path : String) (listed : path ∈ whitelist) (value : Json F) (other : String)
    (also : other ∈ whitelist) :
    ((settings.tree.set (parts path) value).getD settings.tree).valueAt (parts other) =
      if other = path then some value else settings.tree.valueAt (parts other) := by
  obtain ⟨written, done, read⟩ :=
    FieldTree.value_set_here (parts path) settings.tree value (parts_nonempty path) (settings.complete path listed)
  rw [done, Option.getD_some]
  by_cases same : other = path
  · rw [if_pos same, same, read]
  · rw [if_neg same, FieldTree.value_set_apart (parts path) (parts other) settings.tree written value
      (whitelist_apart path other listed also (fun equal => same equal.symm)) done]

theorem set_still_complete (settings : Settings F) (path : String) (listed : path ∈ whitelist) (value : Json F)
    (other : String) (also : other ∈ whitelist) :
    (((settings.tree.set (parts path) value).getD settings.tree).valueAt (parts other)).isSome = true := by
  rw [set_complete settings path listed value other also]
  split
  · rfl
  · exact settings.complete other also

def setLive (settings : Settings F) (path : String) (listed : path ∈ whitelist) (value : Json F) : Settings F :=
  ⟨(settings.tree.set (parts path) value).getD settings.tree, set_still_complete settings path listed value⟩

theorem resolve_set_live (settings : Settings F) (path : String) (listed : path ∈ whitelist) (value : Json F) (other : String)
    (also : other ∈ whitelist) :
    resolve (setLive settings path listed value) other = if other = path then value else resolve settings other := by
  rw [resolve, setLive, set_complete settings path listed value other also]
  split <;> rfl

-- `Settings()` as far as the whitelist goes.
def defaultValues [Floats F] : List (String × Json F) :=
  let float (value : ℚ) : Json F := .float (Floats.ofRat value)
  [("risk.max_daily_drawdown_pct", float 3), ("risk.max_open_positions", .int 5), ("risk.risk_per_trade_pct", float (1 / 2)),
    ("execution.risk.max_risk_per_trade_pct", float (1 / 2)), ("execution.risk.max_daily_loss_pct", float 3),
    ("execution.risk.max_open_positions", .int 5), ("execution.risk.max_positions_per_symbol", .int 1),
    ("execution.risk.max_exposure_pct", float 100), ("execution.risk.max_consecutive_losses", .int 5),
    ("execution.risk.kill_switch_drawdown_pct", float 20), ("execution.symbols_enabled", .obj []),
    ("execution.max_holding_minutes", float 240), ("execution.exit_on_regime_change", .bool true),
    ("execution.regime_change_min_holding_seconds", float 180), ("execution.regime_exit_confirmations", .int 2),
    ("execution.regime_exit_family_only", .bool true), ("execution.break_even_r", float 1),
    ("execution.trailing_enabled", .bool true), ("execution.trailing_atr_multiple", float 2),
    ("execution.trailing_activate_r", float 1), ("execution.sizing.risk_per_trade_pct", float (1 / 2)),
    ("execution.sizing.atr_stop_multiplier", float (3 / 2)), ("execution.sizing.reward_risk", float (3 / 2)),
    ("execution.sizing.min_stop_pct", float (15 / 100)), ("quant.consensus.min_score", float 60),
    ("quant.consensus.min_confidence", float (1 / 2)), ("quant.consensus.min_agreement", float (1 / 2)),
    ("quant.context.max_spread_bps", float 5), ("quant.context.atr_pct_low", float (5 / 100)),
    ("paper.initial_balance", float 10000), ("paper.slippage_bps", float 1), ("discord.enabled", .bool true),
    ("discord.min_level", .str "info"), ("ml.enabled", .bool false), ("ml.auto_activate", .bool false),
    ("ml.meta.enabled", .bool true), ("backtesting.criteria.min_profit_factor", float (16 / 10)),
    ("backtesting.criteria.min_sharpe", float (12 / 10)), ("backtesting.criteria.max_drawdown_pct", float 12)]

def putAll (tree : FieldTree (Json F)) (entries : List (String × Json F)) : FieldTree (Json F) :=
  entries.foldl (fun tree entry => tree.put (parts entry.1) entry.2) tree

theorem value_put_all (entries : List (String × Json F)) (tree : FieldTree (Json F)) (path : String) (listed : path ∈ whitelist)
    (whitelisted : ∀ entry ∈ entries, entry.1 ∈ whitelist) :
    (∃ entry ∈ entries, entry.1 = path ∧ (putAll tree entries).valueAt (parts path) = some entry.2) ∨
      path ∉ Json.keys entries ∧ (putAll tree entries).valueAt (parts path) = tree.valueAt (parts path) := by
  induction entries generalizing tree with
  | nil => exact .inr ⟨List.not_mem_nil, rfl⟩
  | cons entry rest ih =>
      rcases ih (tree.put (parts entry.1) entry.2) (fun other later => whitelisted other (List.mem_cons_of_mem entry later)) with
        ⟨found, member, own, read⟩ | ⟨absent, same⟩
      · exact .inl ⟨found, List.mem_cons_of_mem entry member, own, read⟩
      · by_cases here : entry.1 = path
        · subst here
          exact .inl ⟨entry, List.mem_cons_self, rfl, same.trans (FieldTree.value_put_here (parts entry.1) tree entry.2)⟩
        · have apart := whitelist_apart entry.1 path (whitelisted entry List.mem_cons_self) listed here
          have outside : path ∉ Json.keys (entry :: rest) := by
            rw [Json.keys, List.map_cons, List.mem_cons, not_or]
            exact ⟨Ne.symm here, absent⟩
          exact .inr ⟨outside, same.trans (FieldTree.value_put_apart _ _ tree entry.2 apart)⟩

theorem default_paths [Floats F] : Json.keys (defaultValues (F := F)) = whitelist := rfl

theorem default_listed [Floats F] (entry : String × Json F) (member : entry ∈ defaultValues) : entry.1 ∈ whitelist := by
  rw [← default_paths (F := F)]
  exact List.mem_map.mpr ⟨entry, member, rfl⟩

theorem default_complete [Floats F] (path : String) (listed : path ∈ whitelist) :
    ((putAll (.object []) (defaultValues (F := F))).valueAt (parts path)).isSome = true := by
  rcases value_put_all (defaultValues (F := F)) (.object []) path listed default_listed with ⟨entry, -, -, read⟩ | ⟨absent, -⟩
  · rw [read]
    rfl
  · exact absurd (default_paths (F := F) ▸ listed) absent

def Settings.default [Floats F] : Settings F := ⟨putAll (.object []) defaultValues, default_complete⟩

-- The document is read back as it was written.
structure Document (F : Type) where
  overrides : Dict String (Json F) := .empty
  strategies : Dict String (Dict String (Json F)) := .empty

inductive ConfigFile (F : Type) where
  | absent
  | unreadable
  | stored (document : Document F)

structure RuntimeConfigStore (F : Type) where
  overrides : Dict String (Json F)
  strategies : Dict String (Dict String (Json F))

namespace RuntimeConfigStore

def load (file : ConfigFile F) : RuntimeConfigStore F :=
  match file with
  | .stored document => ⟨document.overrides, document.strategies⟩
  | _ => ⟨.empty, .empty⟩

def persist (store : RuntimeConfigStore F) : ConfigFile F := .stored ⟨store.overrides, store.strategies⟩

structure Effective (F : Type) where
  value : Json F
  overridden : Bool
  default : Json F

def effectiveAt (store : RuntimeConfigStore F) (settings : Settings F) (path : String) : Effective F :=
  let default := resolve settings path
  ⟨(store.overrides.lookup path).getD default, store.overrides.contains path, default⟩

def effective (store : RuntimeConfigStore F) (settings : Settings F) : List (String × Effective F) :=
  whitelist.map (fun path => (path, store.effectiveAt settings path))

def reapplyEntry (settings : Settings F) (entry : String × Json F) : Settings F :=
  if listed : entry.1 ∈ whitelist then setLive settings entry.1 listed entry.2 else settings

def reapply (store : RuntimeConfigStore F) (settings : Settings F) : Settings F :=
  store.overrides.entries.foldl reapplyEntry settings

end RuntimeConfigStore

section

variable [PyFloat F]

-- A value is converted to the type of the current one.
def coerce (current value : Json F) : Except PyError (Json F) :=
  match current with
  | .bool _ => .ok (.bool value.toBool)
  | .int _ => value.toInt.map .int
  | .float _ => value.toFloat.map .float
  | _ => .ok value

-- What has been done when an entry raises stays done.
def applyEntries (settings : Settings F) (overrides applied : Dict String (Json F)) :
    List (String × Json F) → Except PyError (Dict String (Json F)) × Settings F × Dict String (Json F)
  | [] => (.ok applied, settings, overrides)
  | (key, value) :: rest =>
      if listed : key ∈ whitelist then
        match coerce (resolve settings key) value with
        | .error e => (.error e, settings, overrides)
        | .ok coerced =>
            applyEntries (setLive settings key listed coerced) (overrides.insert key coerced) (applied.insert key coerced) rest
      else (.error .key, settings, overrides)

end

-- The live settings, the store and its file.
structure System (F : Type) where
  settings : Settings F
  store : RuntimeConfigStore F
  file : ConfigFile F

namespace System

def apply [PyFloat F] (system : System F) (patch : Dict String (Json F)) :
    Except PyError (Dict String (Json F)) × System F :=
  match applyEntries system.settings system.store.overrides .empty patch.entries with
  | (.error e, settings, overrides) => (.error e, ⟨settings, { system.store with overrides }, system.file⟩)
  | (.ok applied, settings, overrides) =>
      let store := { system.store with overrides }
      (.ok applied, ⟨settings, store, store.persist⟩)

-- A process that starts on a file.
def start (fresh : Settings F) (file : ConfigFile F) : System F :=
  let store := RuntimeConfigStore.load file
  ⟨store.reapply fresh, store, file⟩

def step [PyFloat F] (system : System F) (patch : Dict String (Json F)) : System F := (system.apply patch).2

end System

end QuantEngine.ConfigStore
