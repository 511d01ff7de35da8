import QuantEngine.Brokers.Mt5
import QuantEngine.Library.Dict
import QuantEngine.Library.Run
import QuantEngine.Market.StreamConnection

set_option autoImplicit false

namespace QuantEngine.Resubscription

open StreamConnection

inductive ChannelType where
  | ticker
  | trades
  | orderbook
  | candles
  | funding
  | openInterest
  | liquidations
  | markPrice
deriving DecidableEq

-- What an exchange calls the stream of a channel and a symbol. One stream
-- never serves two symbols.
structure Exchange (A : Type) where
  stream : ChannelType → Option (String → A)
  owned : ∀ c d f g first second, stream c = some f → stream d = some g → f (upper first) = g (upper second) →
    upper first = upper second

theorem upper_list (text : String) : (upper text).toList = text.toList.map Char.toUpper := String.toList_ofList

theorem char_upper_lower (c : Char) : c.toLower.toUpper = c.toUpper := by
  unfold Char.toLower
  split
  · rename_i above
    unfold Char.toUpper
    have low := above.1
    have high := above.2
    simp only [UInt32.le_iff_toNat_le, ge_iff_le] at low high
    have sum : (c.val + ('a'.val - 'A'.val)).toNat = c.val.toNat + 32 := by
      rw [UInt32.toNat_add]
      simp at low high ⊢
      omega
    have small : ¬ (c.val ≥ 'a'.val ∧ c.val ≤ 'z'.val) := by
      simp only [UInt32.le_iff_toNat_le, ge_iff_le]
      simp at low high ⊢
      omega
    rw [dif_neg small]
    split
    · apply Char.ext
      apply UInt32.toNat_inj.mp
      simp only [UInt32.toNat_add] at sum ⊢
      simp at low high sum ⊢
      omega
    · rename_i outside
      exfalso
      apply outside
      simp only [UInt32.le_iff_toNat_le, sum]
      simp at low high ⊢
      omega
  · rfl

theorem upper_lower (text : String) : upper (lower text) = upper text := by
  simp only [upper, lower, String.toList_ofList, List.map_map, Function.comp_def, char_upper_lower]

theorem lower_upper_injective (first second : String) (same : lower (upper first) = lower (upper second)) :
    upper first = upper second := by
  have raised := congrArg upper same
  rwa [upper_lower, upper_lower, upper_upper, upper_upper] at raised

-- `"{s}@trade".format(s=symbol.lower())`.
def channelStreams : ChannelType → Option String
  | .ticker => some "@bookTicker"
  | .trades => some "@trade"
  | .orderbook => some "@depth@100ms"
  | .candles => some "@kline_1m"
  | .funding => some "@markPrice"
  | .markPrice => some "@markPrice"
  | .liquidations => some "@forceOrder"
  | .openInterest => none

-- `"publicTrade.{s}".format(s=symbol.upper())`.
def channelTopics : ChannelType → Option String
  | .ticker => some "tickers."
  | .trades => some "publicTrade."
  | .orderbook => some "orderbook.50."
  | .candles => some "kline.1."
  | .liquidations => some "liquidation."
  | .funding => none
  | .markPrice => none
  | .openInterest => none

def okxChannels : ChannelType → Option String
  | .ticker => some "tickers"
  | .trades => some "trades"
  | .orderbook => some "books"
  | .candles => some "candle1m"
  | .funding => some "funding-rate"
  | .openInterest => some "open-interest"
  | .liquidations => some "liquidation-orders"
  | .markPrice => none

theorem streams_apart (c d : ChannelType) (a b : String) (first : channelStreams c = some a) (second : channelStreams d = some b)
    (ends : a.toList <:+ b.toList) : a = b := by
  cases c <;> cases d <;> simp only [channelStreams, Option.some.injEq, reduceCtorEq] at first second <;>
    subst first <;> subst second <;> first | rfl | exact absurd ends (by decide)

theorem topics_apart (c d : ChannelType) (a b : String) (first : channelTopics c = some a) (second : channelTopics d = some b)
    (begins : a.toList <+: b.toList) : a = b := by
  cases c <;> cases d <;> simp only [channelTopics, Option.some.injEq, reduceCtorEq] at first second <;>
    subst first <;> subst second <;> first | rfl | exact absurd begins (by decide)

def quoteHints : List String := ["USDT", "USDC", "USD"]

def quoted (symbol quote : String) : Bool :=
  decide (quote.toList <:+ symbol.toList) && decide (quote.length < symbol.length)

def toOkxInstId (symbol : String) : String :=
  let upper := upper symbol
  match quoteHints.find? (quoted upper) with
  | some quote => String.ofList (upper.toList.take (upper.length - quote.length)) ++ "-" ++ quote
  | none => upper

example : toOkxInstId "btcusdt" = "BTC-USDT" := by decide

theorem inst_id_quoted (symbol quote : String) (found : quoteHints.find? (quoted (upper symbol)) = some quote) :
    ∃ base, (upper symbol).toList = base ++ quote.toList ∧ (toOkxInstId symbol).toList = base ++ '-' :: quote.toList := by
  have ends : quoted (upper symbol) quote = true := List.find?_some found
  rw [quoted, Bool.and_eq_true, decide_eq_true_eq, decide_eq_true_eq] at ends
  obtain ⟨base, split⟩ := ends.1
  refine ⟨base, split.symm, ?_⟩
  have long : (upper symbol).length - quote.length = base.length := by
    rw [← String.length_toList, ← String.length_toList, ← split, List.length_append]
    omega
  simp only [toOkxInstId, found]
  rw [long, ← split, List.take_left]
  simp

theorem inst_id_plain (symbol : String) (none_ : quoteHints.find? (quoted (upper symbol)) = none) :
    toOkxInstId symbol = upper symbol := by
  simp only [toOkxInstId, none_]

-- Two quote currencies end in different letters.
theorem quotes_apart (a b : String) (first : a ∈ quoteHints) (second : b ∈ quoteHints) (left right : List Char)
    (same : left ++ a.toList = right ++ b.toList) : a = b := by
  have ends := congrArg List.getLast? same
  simp only [quoteHints, List.mem_cons, List.not_mem_nil, or_false] at first second
  obtain rfl | rfl | rfl := first <;> obtain rfl | rfl | rfl := second <;> first | rfl | simp at ends

-- An identifier that the hyphen was put into could not have stayed as it is.
theorem inst_id_hyphened (symbol quote : String) (member : quote ∈ quoteHints) (base : List Char)
    (ends : (upper symbol).toList = base ++ '-' :: quote.toList) : quoteHints.find? (quoted (upper symbol)) ≠ none := by
  intro none_
  have unquoted := List.find?_eq_none.mp none_ quote member
  apply unquoted
  rw [quoted, Bool.and_eq_true, decide_eq_true_eq, decide_eq_true_eq]
  constructor
  · rw [ends, List.append_cons]
    exact List.suffix_append _ _
  · rw [← String.length_toList, ← String.length_toList, ends, List.length_append, List.length_cons]
    omega

theorem inst_id_injective (first second : String) (same : toOkxInstId first = toOkxInstId second) :
    upper first = upper second := by
  cases foundFirst : quoteHints.find? (quoted (upper first)) with
  | none =>
      rw [inst_id_plain first foundFirst] at same
      cases foundSecond : quoteHints.find? (quoted (upper second)) with
      | none => exact same.trans (inst_id_plain second foundSecond)
      | some quote =>
          obtain ⟨base, _, hyphened⟩ := inst_id_quoted second quote foundSecond
          rw [← same] at hyphened
          exact absurd foundFirst (inst_id_hyphened first quote (List.mem_of_find?_eq_some foundSecond) base hyphened)
  | some quote =>
      obtain ⟨base, split, hyphened⟩ := inst_id_quoted first quote foundFirst
      have member := List.mem_of_find?_eq_some foundFirst
      cases foundSecond : quoteHints.find? (quoted (upper second)) with
      | none =>
          rw [same, inst_id_plain second foundSecond] at hyphened
          exact absurd foundSecond (inst_id_hyphened second quote member base hyphened)
      | some other =>
          obtain ⟨stem, apart, joined⟩ := inst_id_quoted second other foundSecond
          have equal : base ++ '-' :: quote.toList = stem ++ '-' :: other.toList := by
            rw [← hyphened, ← joined, same]
          have one : quote = other := by
            apply quotes_apart quote other member (List.mem_of_find?_eq_some foundSecond) (base ++ ['-']) (stem ++ ['-'])
            simpa using equal
          subst one
          apply String.toList_inj.mp
          rw [split, apart, List.append_cancel_right equal]

-- `inst_id.replace("-", "").upper()`.
def toInternalSymbol (instId : String) : String :=
  upper (String.ofList (instId.toList.filter (fun c => decide (c ≠ '-'))))

theorem char_upper_hyphen (c : Char) : c.toUpper = '-' ↔ c = '-' := by
  unfold Char.toUpper
  split
  · rename_i lower
    have low := lower.1
    have high := lower.2
    simp only [UInt32.le_iff_toNat_le] at low high
    apply iff_of_false
    · intro same
      have value := congrArg (fun d : Char => d.val.toNat) same
      simp only [UInt32.toNat_add] at value
      simp at low high value
      omega
    · rintro rfl
      simp at low
  · exact Iff.rfl

theorem hyphen_upper (symbol : String) : '-' ∈ (upper symbol).toList ↔ '-' ∈ symbol.toList := by
  rw [upper_list, List.mem_map]
  constructor
  · intro found
    obtain ⟨c, member, same⟩ := found
    rwa [(char_upper_hyphen c).mp same] at member
  · exact fun member => ⟨'-', member, (char_upper_hyphen '-').mpr rfl⟩

theorem inst_id_letters (symbol : String) : (toOkxInstId symbol).toList.filter (fun c => decide (c ≠ '-')) =
    (upper symbol).toList.filter (fun c => decide (c ≠ '-')) := by
  cases found : quoteHints.find? (quoted (upper symbol)) with
  | none => rw [inst_id_plain symbol found]
  | some quote =>
      obtain ⟨base, split, hyphened⟩ := inst_id_quoted symbol quote found
      rw [split, hyphened, List.filter_append, List.filter_append, List.filter_cons_of_neg (by simp)]

-- A message of OKX comes back under the symbol that was subscribed, exactly
-- where the symbol has no hyphen of its own.
theorem inst_id_returns (symbol : String) : toInternalSymbol (toOkxInstId symbol) = upper symbol ↔ '-' ∉ symbol.toList := by
  rw [toInternalSymbol, inst_id_letters]
  constructor
  · intro same inside
    rw [← hyphen_upper, ← same, hyphen_upper, String.toList_ofList] at inside
    simp at inside
  · intro outside
    have kept : (upper symbol).toList.filter (fun c => decide (c ≠ '-')) = (upper symbol).toList := by
      rw [List.filter_eq_self]
      intro c member
      rw [decide_eq_true_eq]
      rintro rfl
      exact outside ((hyphen_upper symbol).mp member)
    rw [kept, String.ofList_toList, upper_upper]

def binance : Exchange String where
  stream channel := (channelStreams channel).map (fun ending symbol => lower symbol ++ ending)
  owned c d f g first second named other same := by
    obtain ⟨a, here, rfl⟩ := Option.map_eq_some_iff.mp named
    obtain ⟨b, there, rfl⟩ := Option.map_eq_some_iff.mp other
    have lists : (lower (upper first)).toList ++ a.toList = (lower (upper second)).toList ++ b.toList := by
      rw [← String.toList_append, ← String.toList_append]
      exact congrArg String.toList same
    have ends : b.toList <:+ (lower (upper first)).toList ++ a.toList := by
      rw [lists]
      exact List.suffix_append _ b.toList
    have one : a = b := by
      cases List.suffix_or_suffix_of_suffix (List.suffix_append _ a.toList) ends with
      | inl inside => exact streams_apart c d a b here there inside
      | inr inside => exact (streams_apart d c b a there here inside).symm
    rw [one] at lists
    exact lower_upper_injective first second (String.toList_inj.mp (List.append_cancel_right lists))

def bybit : Exchange String where
  stream channel := (channelTopics channel).map (fun topic symbol => topic ++ upper symbol)
  owned c d f g first second named other same := by
    obtain ⟨a, here, rfl⟩ := Option.map_eq_some_iff.mp named
    obtain ⟨b, there, rfl⟩ := Option.map_eq_some_iff.mp other
    have lists : a.toList ++ (upper (upper first)).toList = b.toList ++ (upper (upper second)).toList := by
      rw [← String.toList_append, ← String.toList_append]
      exact congrArg String.toList same
    have begins : b.toList <+: a.toList ++ (upper (upper first)).toList := by
      rw [lists]
      exact List.prefix_append b.toList _
    have one : a = b := by
      cases List.prefix_or_prefix_of_prefix (List.prefix_append a.toList _) begins with
      | inl inside => exact topics_apart c d a b here there inside
      | inr inside => exact (topics_apart d c b a there here inside).symm
    rw [one, upper_upper, upper_upper] at lists
    exact String.toList_inj.mp (List.append_cancel_left lists)

def okx : Exchange (String × String) where
  stream channel := (okxChannels channel).map (fun name symbol => (name, toOkxInstId symbol))
  owned c d f g first second named other same := by
    obtain ⟨a, here, rfl⟩ := Option.map_eq_some_iff.mp named
    obtain ⟨b, there, rfl⟩ := Option.map_eq_some_iff.mp other
    obtain ⟨_, ids⟩ := Prod.mk.inj same
    have apart := inst_id_injective (upper first) (upper second) ids
    rwa [upper_upper, upper_upper] at apart

inductive Op where
  | subscribe
  | unsubscribe
deriving DecidableEq

structure Frame (A : Type) where
  op : Op
  args : List A

variable {A : Type}

def Exchange.supports (exchange : Exchange A) (channel : ChannelType) : Bool := (exchange.stream channel).isSome

def Exchange.args (exchange : Exchange A) (symbol : String) (channels : List ChannelType) : List A :=
  channels.filterMap (fun channel => (exchange.stream channel).map (fun name => name symbol))

-- One frame for all the streams of a symbol, and none for no provider.
def Exchange.payload (exchange : Exchange A) (op : Op) (symbol : String) (channels : List ChannelType) : Option (Frame A) :=
  let args := exchange.args symbol channels
  if args.isEmpty then none else some ⟨op, args⟩

-- The iteration of `_on_connected` over the subscriptions: the keys it began
-- with, those it has not come to, and whether a key was taken away meanwhile.
structure Notification where
  keys : List String
  rest : List String
  disturbed : Bool := false

def Notification.disturb (notification : Notification) : Notification := { notification with disturbed := true }

-- `sent` is a ghost: the frames that each transport was given, in order.
structure BaseWSProvider (A : Type) where
  connection : WSConnection := {}
  subscriptions : Dict String (List ChannelType) := .empty
  notification : Option Notification := none
  sent : List (Nat × Frame A) := []

-- What an exchange streams that has got some frames.
def grant [DecidableEq A] (streams : List A) (frame : Frame A) : List A :=
  match frame.op with
  | .subscribe => streams ++ frame.args
  | .unsubscribe => streams.filter (fun name => decide (name ∉ frame.args))

-- A send of the loop is `notified` when it returns. Python may visit any keys
-- after one was taken away: those are `left`.
inductive ProviderEvent where
  | subscribe (symbol : String) (channels : List ChannelType)
  | unsubscribe (symbol : String)
  | notified (left : List String)
  | notifyRaised (jitter : Jitter)
  | loop (event : Event)

namespace BaseWSProvider

def framesOn (transport : Nat) (provider : BaseWSProvider A) : List (Frame A) :=
  (provider.sent.filter (fun entry => decide (entry.1 = transport))).map Prod.snd

def granted [DecidableEq A] (transport : Nat) (provider : BaseWSProvider A) : List A := (provider.framesOn transport).foldl grant []

-- `WSConnection.send`, which raises where the connection is not established.
def send (frame : Option (Frame A)) (provider : BaseWSProvider A) : BaseWSProvider A :=
  match frame, provider.connection.transport with
  | some frame, some transport =>
      if provider.connection.state = .connected then { provider with sent := provider.sent ++ [(transport, frame)] } else provider
  | _, _ => provider

def subscribe (exchange : Exchange A) (symbol : String) (channels : List ChannelType) (provider : BaseWSProvider A) : BaseWSProvider A :=
  let supported := channels.filter exchange.supports
  if supported.isEmpty then provider
  else { provider with subscriptions := provider.subscriptions.insert (upper symbol) supported }.send
    (exchange.payload .subscribe (upper symbol) supported)

def unsubscribe (exchange : Exchange A) (symbol : String) (provider : BaseWSProvider A) : BaseWSProvider A :=
  match provider.subscriptions.lookup (upper symbol) with
  | none => provider
  | some channels =>
      { provider with
        subscriptions := provider.subscriptions.erase (upper symbol)
        notification := provider.notification.map Notification.disturb }.send
        (exchange.payload .unsubscribe (upper symbol) channels)

-- The callback returns or raises, and the loop goes on from there.
def finish (config : WSConnectionConfig) (event : Event) (provider : BaseWSProvider A) : BaseWSProvider A :=
  { provider with notification := none, connection := provider.connection.step config event }

theorem unmoved_nonneg : (0 : ℚ) ≤ 0 := le_refl 0

theorem unmoved_below : (0 : ℚ) < 1 := zero_lt_one

def unmoved : Jitter := ⟨0, unmoved_nonneg, unmoved_below⟩

-- The loop of `_on_connected` up to its next send. An iterator whose
-- dictionary has changed its size raises a `RuntimeError`, at its end too.
def notify (exchange : Exchange A) (config : WSConnectionConfig) (notification : Notification) :
    List String → BaseWSProvider A → BaseWSProvider A
  | [], provider =>
      if provider.subscriptions.size = notification.keys.length then provider.finish config .returned
      else provider.finish config (.raised false unmoved)
  | symbol :: rest, provider =>
      if provider.subscriptions.size = notification.keys.length then
        match exchange.payload .subscribe symbol ((provider.subscriptions.lookup symbol).getD []) with
        | none => notify exchange config notification rest provider
        | some frame => { provider with notification := some { notification with rest := rest } }.send (some frame)
      else provider.finish config (.raised false unmoved)

def opened (exchange : Exchange A) (config : WSConnectionConfig) (provider : BaseWSProvider A) : BaseWSProvider A :=
  let keys := provider.subscriptions.keys
  notify exchange config ⟨keys, keys, false⟩ keys
    { provider with connection := provider.connection.step config .opened, notification := some ⟨keys, keys, false⟩ }

-- `returned` and `raised` come from the callback alone.
def step (exchange : Exchange A) (config : WSConnectionConfig) (provider : BaseWSProvider A) : ProviderEvent → BaseWSProvider A
  | .subscribe symbol channels => provider.subscribe exchange symbol channels
  | .unsubscribe symbol => provider.unsubscribe exchange symbol
  | .notified left =>
      match provider.notification with
      | none => provider
      | some notification =>
          notify exchange config notification (if notification.disturbed then left else notification.rest) provider
  | .notifyRaised jitter =>
      match provider.notification with
      | none => provider
      | some _ => provider.finish config (.raised true jitter)
  | .loop event =>
      match event with
      | .opened => if provider.connection.phase = .connecting then provider.opened exchange config else provider
      | .returned => provider
      | .raised _ _ => provider
      | event => { provider with connection := provider.connection.step config event }

end BaseWSProvider

open BaseWSProvider

variable (exchange : Exchange A) (config : WSConnectionConfig)

@[simp]
theorem send_connection (frame : Option (Frame A)) (provider : BaseWSProvider A) : (provider.send frame).connection = provider.connection := by
  unfold send
  split
  · split <;> rfl
  · rfl

@[simp]
theorem send_subscriptions (frame : Option (Frame A)) (provider : BaseWSProvider A) :
    (provider.send frame).subscriptions = provider.subscriptions := by
  unfold send
  split
  · split <;> rfl
  · rfl

@[simp]
theorem send_notification (frame : Option (Frame A)) (provider : BaseWSProvider A) :
    (provider.send frame).notification = provider.notification := by
  unfold send
  split
  · split <;> rfl
  · rfl

-- A stretch of the notification: it ends where the dictionary has another size,
-- it ends where no name is left that needs a frame, or it waits for a frame.
theorem notify_cases (notification : Notification) (rest : List String)
    (provider : BaseWSProvider A) :
    (provider.subscriptions.size ≠ notification.keys.length ∧
        notify exchange config notification rest provider = provider.finish config (.raised false unmoved)) ∨
      (provider.subscriptions.size = notification.keys.length ∧
        (∀ symbol ∈ rest, exchange.payload .subscribe symbol ((provider.subscriptions.lookup symbol).getD []) = none) ∧
        notify exchange config notification rest provider = provider.finish config .returned) ∨
      (provider.subscriptions.size = notification.keys.length ∧
        ∃ passed symbol later frame, rest = passed ++ symbol :: later ∧
          (∀ other ∈ passed, exchange.payload .subscribe other ((provider.subscriptions.lookup other).getD []) = none) ∧
          exchange.payload .subscribe symbol ((provider.subscriptions.lookup symbol).getD []) = some frame ∧
          notify exchange config notification rest provider =
            { provider with notification := some { notification with rest := later } }.send (some frame)) := by
  by_cases sized : provider.subscriptions.size = notification.keys.length
  · right
    induction rest with
    | nil => exact .inl ⟨sized, List.forall_mem_nil _, by rw [notify, if_pos sized]⟩
    | cons symbol rest ih =>
        cases payload : exchange.payload .subscribe symbol ((provider.subscriptions.lookup symbol).getD []) with
        | some frame =>
            refine .inr ⟨sized, [], symbol, rest, frame, rfl, List.forall_mem_nil _, payload, ?_⟩
            rw [notify, if_pos sized, payload]
        | none =>
            have unfolded : notify exchange config notification (symbol :: rest) provider =
                notify exchange config notification rest provider := by
              rw [notify, if_pos sized, payload]
            rw [unfolded]
            cases ih with
            | inl ended => exact .inl ⟨sized, List.forall_mem_cons.mpr ⟨payload, ended.2.1⟩, ended.2.2⟩
            | inr waits =>
                obtain ⟨_, passed, other, later, frame, split, silent, asked, after⟩ := waits
                refine .inr ⟨sized, symbol :: passed, other, later, frame, ?_, List.forall_mem_cons.mpr ⟨payload, silent⟩, asked, after⟩
                rw [split, List.cons_append]
  · left
    refine ⟨sized, ?_⟩
    cases rest with
    | nil => rw [notify, if_neg sized]
    | cons symbol rest => rw [notify, if_neg sized]

-- Where the loop waits for the callback or for messages, it has the transport.
structure Attached (connection : WSConnection) : Prop where
  held : ∀ transport, (connection.phase = .notifying transport ∨ connection.phase = .receiving transport) →
    connection.transport = some transport ∧ connection.state = .connected
  known : ∀ transport, connection.transport = some transport → transport < connection.opened

theorem attached_failure (connection : WSConnection) (jitter : Jitter)
    (known : ∀ transport, connection.transport = some transport → transport < connection.opened) :
    Attached (connection.afterFailure config jitter) := by
  unfold WSConnection.afterFailure
  dsimp only
  split
  · exact ⟨by simp, known⟩
  · split <;> exact ⟨by simp, known⟩

theorem step_attached (connection : WSConnection) (event : Event) (attached : Attached connection) :
    Attached (connection.step config event) := by
  unfold WSConnection.step
  split
  · exact attached_failure config connection _ attached.known
  · exact ⟨by simp [WSConnection.afterConnect], by simp [WSConnection.afterConnect]⟩
  · rename_i transport phase
    obtain ⟨current, state⟩ := attached.held transport (.inl phase)
    exact ⟨by simpa [current, eq_comm] using state, attached.known⟩
  · exact attached_failure config connection _ attached.known
  · exact ⟨by simp, attached.known⟩
  · exact ⟨attached.held, attached.known⟩
  · exact ⟨by simp, attached.known⟩
  · exact attached_failure config _ _ (by simp)
  · exact ⟨by simp, attached.known⟩
  · exact attached

theorem failure_phase (connection : WSConnection) (jitter : Jitter) :
    (∀ transport, (connection.afterFailure config jitter).phase ≠ .notifying transport) ∧
      (∀ transport, (connection.afterFailure config jitter).phase ≠ .receiving transport) ∧
      (connection.afterFailure config jitter).state ≠ .connected ∧
      (connection.afterFailure config jitter).opened = connection.opened := by
  unfold WSConnection.afterFailure
  dsimp only
  split
  · exact ⟨by simp, by simp, by simp, rfl⟩
  · split <;> exact ⟨by simp, by simp, by simp, rfl⟩

-- What the callback ends with takes the loop out of the notification.
theorem ended_phase (connection : WSConnection) (event : Event)
    (ends : event = .returned ∨ ∃ provider jitter, event = .raised provider jitter) (transport : Nat) :
    (connection.step config event).phase ≠ .notifying transport := by
  unfold WSConnection.step
  obtain rfl | ⟨provider, jitter, rfl⟩ := ends
  · cases phase : connection.phase <;> simp [phase]
  · cases phase : connection.phase <;> cases provider <;> simp [phase, failure_phase]

theorem step_opened (connection : WSConnection) (event : Event) :
    connection.opened ≤ (connection.step config event).opened := by
  unfold WSConnection.step
  split
  · exact (failure_phase config connection _).2.2.2.ge
  · exact Nat.le_succ _
  · exact le_rfl
  · exact (failure_phase config connection _).2.2.2.ge
  · exact le_rfl
  · exact le_rfl
  · exact le_rfl
  · exact (failure_phase config { connection with transport := none, closed := _ } _).2.2.2.ge
  · exact le_rfl
  · exact le_rfl

-- The loop notifies exactly as long as the iteration goes on, and no frame was
-- given to a transport that is yet to come.
structure Linked (provider : BaseWSProvider A) : Prop where
  attached : Attached provider.connection
  iterating : (∃ notification, provider.notification = some notification) ↔
    ∃ transport, provider.connection.phase = .notifying transport
  past : ∀ entry ∈ provider.sent, entry.1 < provider.connection.opened
  uppercase : ∀ symbol ∈ provider.subscriptions.keys, upper symbol = symbol

theorem linked_send (frame : Option (Frame A)) (provider : BaseWSProvider A) (linked : Linked provider) :
    Linked (provider.send frame) := by
  have past : ∀ entry ∈ (provider.send frame).sent, entry.1 < provider.connection.opened := by
    unfold send
    split
    · rename_i frame transport current
      split
      · intro entry member
        cases List.mem_append.mp member with
        | inl old => exact linked.past entry old
        | inr fresh =>
            cases List.mem_singleton.mp fresh
            exact linked.attached.known transport current
      · exact linked.past
    · exact linked.past
  exact ⟨by simpa using linked.attached, by simpa using linked.iterating, by simpa using past, by simpa using linked.uppercase⟩

theorem linked_finish (event : Event) (provider : BaseWSProvider A) (linked : Linked provider)
    (ends : event = .returned ∨ ∃ raised jitter, event = .raised raised jitter) : Linked (provider.finish config event) where
  attached := step_attached config provider.connection event linked.attached
  iterating := iff_of_false (by simp [finish]) (by simpa [finish] using ended_phase config provider.connection event ends)
  past entry member := (linked.past entry member).trans_le (step_opened config provider.connection event)
  uppercase := linked.uppercase

theorem linked_visiting (provider : BaseWSProvider A) (linked : Linked provider) (old new : Notification)
    (under : provider.notification = some old) : Linked { provider with notification := some new } where
  attached := linked.attached
  iterating := iff_of_true ⟨new, rfl⟩ (linked.iterating.mp ⟨old, under⟩)
  past := linked.past
  uppercase := linked.uppercase

theorem notify_keeps (Inv : BaseWSProvider A → Prop)
    (notification : Notification) (rest : List String) (provider : BaseWSProvider A)
    (ends : ∀ event, (event = .returned ∨ ∃ raised jitter, event = .raised raised jitter) → Inv (provider.finish config event))
    (sends : ∀ symbol later, Inv ({ provider with notification := some { notification with rest := later } }.send
      (exchange.payload .subscribe symbol ((provider.subscriptions.lookup symbol).getD [])))) :
    Inv (notify exchange config notification rest provider) := by
  cases notify_cases exchange config notification rest provider with
  | inl resized =>
      rw [resized.2]
      exact ends _ (.inr ⟨false, unmoved, rfl⟩)
  | inr others =>
      cases others with
      | inl ended =>
          rw [ended.2.2]
          exact ends _ (.inl rfl)
      | inr waits =>
          obtain ⟨_, _, symbol, later, frame, _, _, asked, after⟩ := waits
          rw [after, ← asked]
          exact sends symbol later

theorem linked_notify (notification old : Notification) (rest : List String)
    (provider : BaseWSProvider A) (linked : Linked provider) (under : provider.notification = some old) :
    Linked (notify exchange config notification rest provider) := by
  apply notify_keeps exchange config Linked notification rest provider
  · exact fun event ends => linked_finish config event provider linked ends
  · exact fun symbol later => linked_send _ _ (linked_visiting provider linked old _ under)

theorem linked_subscribe (symbol : String) (channels : List ChannelType) (provider : BaseWSProvider A)
    (linked : Linked provider) : Linked (provider.subscribe exchange symbol channels) := by
  unfold subscribe
  dsimp only
  split
  · exact linked
  · apply linked_send
    refine ⟨linked.attached, linked.iterating, linked.past, ?_⟩
    intro other member
    cases (Dict.mem_keys_insert _ _ _ _).mp member with
    | inl same => rw [same, upper_upper]
    | inr old => exact linked.uppercase other old

theorem linked_unsubscribe (symbol : String) (provider : BaseWSProvider A) (linked : Linked provider) :
    Linked (provider.unsubscribe exchange symbol) := by
  unfold unsubscribe
  split
  · exact linked
  · apply linked_send
    refine ⟨linked.attached, ?_, linked.past, ?_⟩
    · apply Iff.trans _ linked.iterating
      simp
    · intro other member
      exact linked.uppercase other ((Dict.mem_keys_erase _ _ _).mp member).1

-- What moves the loop besides the callback and a fresh transport leaves it
-- where it is, or takes it to a place without a transport in use.
theorem loop_phase (connection : WSConnection) (event : Event) (transport : Nat)
    (other : event ≠ .opened) (callback : event ≠ .returned ∧ ∀ raised jitter, event ≠ .raised raised jitter) :
    ((connection.step config event).phase = .notifying transport ↔ connection.phase = .notifying transport) ∧
      ((connection.step config event).phase = .receiving transport → connection.phase = .receiving transport) := by
  obtain ⟨fresh, refused⟩ := callback
  unfold WSConnection.step
  split <;> simp_all [failure_phase]

theorem linked_loop (event : Event) (provider : BaseWSProvider A) (linked : Linked provider)
    (other : event ≠ .opened) (callback : event ≠ .returned ∧ ∀ raised jitter, event ≠ .raised raised jitter) :
    Linked { provider with connection := provider.connection.step config event } where
  attached := step_attached config provider.connection event linked.attached
  iterating := linked.iterating.trans (exists_congr (fun transport => (loop_phase config _ event transport other callback).1.symm))
  past entry member := (linked.past entry member).trans_le (step_opened config provider.connection event)
  uppercase := linked.uppercase

theorem linked_open (provider : BaseWSProvider A) (linked : Linked provider)
    (ready : provider.connection.phase = .connecting) (notification : Notification) :
    Linked { provider with connection := provider.connection.step config .opened, notification := some notification } where
  attached := step_attached config provider.connection .opened linked.attached
  iterating := iff_of_true ⟨notification, rfl⟩
    ⟨provider.connection.opened, by simp [WSConnection.step, ready, WSConnection.afterConnect]⟩
  past entry member := (linked.past entry member).trans_le (step_opened config provider.connection .opened)
  uppercase := linked.uppercase

-- What one step does, said once for every invariant.
theorem step_keeps (Inv : BaseWSProvider A → Prop)
    (provider : BaseWSProvider A) (event : ProviderEvent) (inv : Inv provider)
    (subscribes : ∀ symbol channels, event = .subscribe symbol channels → Inv (provider.subscribe exchange symbol channels))
    (unsubscribes : ∀ symbol, event = .unsubscribe symbol → Inv (provider.unsubscribe exchange symbol))
    (notifies : ∀ notification rest, provider.notification = some notification →
      (notification.disturbed = false → rest = notification.rest) → Inv (notify exchange config notification rest provider))
    (fails : ∀ jitter, (∃ notification, provider.notification = some notification) →
      Inv (provider.finish config (.raised true jitter)))
    (opens : provider.connection.phase = .connecting → Inv (provider.opened exchange config))
    (loops : ∀ event, event ≠ .opened → (event ≠ .returned ∧ ∀ raised jitter, event ≠ .raised raised jitter) →
      Inv { provider with connection := provider.connection.step config event }) :
    Inv (provider.step exchange config event) := by
  cases event with
  | subscribe symbol channels => exact subscribes symbol channels rfl
  | unsubscribe symbol => exact unsubscribes symbol rfl
  | notified left =>
      cases under : provider.notification with
      | none => simpa only [step, under] using inv
      | some notification =>
          simp only [step, under]
          apply notifies notification _ under
          intro calm
          rw [calm]
          rfl
  | notifyRaised jitter =>
      cases under : provider.notification with
      | none => simpa only [step, under] using inv
      | some notification =>
          simp only [step, under]
          exact fails jitter ⟨notification, under⟩
  | loop event =>
      cases event with
      | opened =>
          by_cases ready : provider.connection.phase = .connecting
          · simpa only [step, if_pos ready] using opens ready
          · simpa only [step, if_neg ready] using inv
      | returned => exact inv
      | raised provider_ jitter => exact inv
      | refused jitter => exact loops _ (by simp) (by simp)
      | message => exact loops _ (by simp) (by simp)
      | failed => exact loops _ (by simp) (by simp)
      | closed jitter => exact loops _ (by simp) (by simp)
      | woke => exact loops _ (by simp) (by simp)

theorem step_linked (provider : BaseWSProvider A) (event : ProviderEvent)
    (linked : Linked provider) : Linked (provider.step exchange config event) := by
  apply step_keeps exchange config Linked provider event linked
  · exact fun symbol channels _ => linked_subscribe exchange symbol channels provider linked
  · exact fun symbol _ => linked_unsubscribe exchange symbol provider linked
  · exact fun notification rest under _ => linked_notify exchange config notification notification rest provider linked under
  · exact fun jitter _ => linked_finish config _ provider linked (.inr ⟨true, jitter, rfl⟩)
  · exact fun ready => linked_notify exchange config _ _ _ _ (linked_open config provider linked ready _) rfl
  · exact fun event other callback => linked_loop config event provider linked other callback

theorem payload_eq (op : Op) (symbol : String) (channels : List ChannelType) :
    exchange.payload op symbol channels = if exchange.args symbol channels = [] then none
      else some ⟨op, exchange.args symbol channels⟩ := by
  unfold Exchange.payload
  dsimp only
  by_cases empty : exchange.args symbol channels = []
  · rw [if_pos empty, empty]
    rfl
  · rw [if_neg empty, if_neg]
    simpa using empty

theorem no_args (provider : BaseWSProvider A) (symbol : String) (channels : List ChannelType)
    (silent : exchange.payload .subscribe symbol ((provider.subscriptions.lookup symbol).getD []) = none)
    (found : provider.subscriptions.lookup symbol = some channels) : exchange.args symbol channels = [] := by
  rw [found, Option.getD_some, payload_eq] at silent
  split at silent
  · assumption
  · cases silent

-- No symbol has a stream of another.
theorem args_apart (first second : String) (channels others : List ChannelType) (name : A)
    (here : name ∈ exchange.args (upper first) channels) (there : name ∈ exchange.args (upper second) others) :
    upper first = upper second := by
  obtain ⟨c, _, named⟩ := List.mem_filterMap.mp here
  obtain ⟨d, _, other⟩ := List.mem_filterMap.mp there
  obtain ⟨f, left, rfl⟩ := Option.map_eq_some_iff.mp named
  obtain ⟨g, right, same⟩ := Option.map_eq_some_iff.mp other
  exact exchange.owned c d f g first second left right same.symm

theorem linked_start : Linked ({} : BaseWSProvider A) where
  attached := ⟨by simp, by simp⟩
  iterating := by simp
  past := by simp
  uppercase := List.forall_mem_nil _

-- The connection is established before and after what is not a fresh one.
theorem step_held (connection : WSConnection) (event : Event) (other : event ≠ .opened)
    (transport : Nat) (current : (connection.step config event).transport = some transport)
    (connected : (connection.step config event).state = .connected) :
    connection.transport = some transport ∧ connection.state = .connected := by
  revert current connected
  unfold WSConnection.step
  split <;> simp_all [failure_phase]

def Wanted (exchange : Exchange A) (provider : BaseWSProvider A) (name : A) : Prop :=
  ∃ symbol channels, provider.subscriptions.lookup symbol = some channels ∧ name ∈ exchange.args symbol channels

section

variable [DecidableEq A]

theorem granted_send (provider : BaseWSProvider A) (frame : Frame A) (transport : Nat)
    (current : provider.connection.transport = some transport) (connected : provider.connection.state = .connected) :
    (provider.send (some frame)).granted transport = grant (provider.granted transport) frame := by
  simp [send, current, connected, granted, framesOn]

theorem granted_subscribe (symbol : String) (channels : List ChannelType) (provider : BaseWSProvider A)
    (transport : Nat) (current : provider.connection.transport = some transport)
    (connected : provider.connection.state = .connected) (name : A) :
    name ∈ (provider.send (exchange.payload .subscribe symbol channels)).granted transport ↔
      name ∈ provider.granted transport ∨ name ∈ exchange.args symbol channels := by
  rw [payload_eq]
  split
  · rename_i empty
    rw [empty]
    simp [send]
  · rw [granted_send provider _ transport current connected]
    simp [grant]

theorem granted_unsubscribe (symbol : String) (channels : List ChannelType) (provider : BaseWSProvider A)
    (transport : Nat) (current : provider.connection.transport = some transport)
    (connected : provider.connection.state = .connected) (name : A) :
    name ∈ (provider.send (exchange.payload .unsubscribe symbol channels)).granted transport ↔
      name ∈ provider.granted transport ∧ name ∉ exchange.args symbol channels := by
  rw [payload_eq]
  split
  · rename_i empty
    rw [empty]
    simp [send]
  · rw [granted_send provider _ transport current connected]
    simp [grant]

-- The streams of the symbols not left out are granted.
def Covers (exchange : Exchange A) (provider : BaseWSProvider A) (transport : Nat) (out : List String) : Prop :=
  ∀ symbol channels, provider.subscriptions.lookup symbol = some channels → symbol ∉ out →
    ∀ name ∈ exchange.args symbol channels, name ∈ provider.granted transport

def outstanding (provider : BaseWSProvider A) : List String := (provider.notification.map Notification.rest).getD []

structure Serving (exchange : Exchange A) (provider : BaseWSProvider A) : Prop where
  linked : Linked provider
  calm : ∀ notification, provider.notification = some notification → notification.disturbed = false
  covers : ∀ transport, (provider.connection.phase = .notifying transport ∨ provider.connection.phase = .receiving transport) →
    Covers exchange provider transport (outstanding provider)

theorem covers_subscribe (symbol : String) (channels : List ChannelType) (provider : BaseWSProvider A)
    (transport : Nat) (current : provider.connection.transport = some transport)
    (connected : provider.connection.state = .connected) (out : List String) (covers : Covers exchange provider transport out) :
    Covers exchange (provider.subscribe exchange symbol channels) transport out := by
  unfold subscribe
  dsimp only
  split
  · exact covers
  · intro other stored found inside name wanted
    apply (granted_subscribe exchange _ _ _ transport (by exact current) (by exact connected) name).mpr
    rw [send_subscriptions, Dict.lookup_insert] at found
    by_cases same : other = upper symbol
    · rw [if_pos same] at found
      cases found
      rw [same] at wanted
      exact .inr wanted
    · rw [if_neg same] at found
      exact .inl (covers other stored found inside name wanted)

theorem covers_unsubscribe (symbol : String) (provider : BaseWSProvider A) (linked : Linked provider)
    (transport : Nat) (current : provider.connection.transport = some transport)
    (connected : provider.connection.state = .connected) (out : List String) (covers : Covers exchange provider transport out) :
    Covers exchange (provider.unsubscribe exchange symbol) transport out := by
  unfold unsubscribe
  cases stored : provider.subscriptions.lookup (upper symbol) with
  | none => exact covers
  | some channels =>
      intro other others found inside name wanted
      apply (granted_unsubscribe exchange _ _ _ transport (by exact current) (by exact connected) name).mpr
      rw [send_subscriptions, Dict.lookup_erase] at found
      by_cases same : other = upper symbol
      · rw [if_pos same] at found
        cases found
      · rw [if_neg same] at found
        refine ⟨covers other others found inside name wanted, ?_⟩
        intro dropped
        apply same
        rw [← linked.uppercase other (Dict.mem_keys_of_lookup _ _ _ found)] at wanted ⊢
        exact args_apart exchange other symbol others channels name wanted dropped

theorem serving_notify (notification : Notification)
    (provider : BaseWSProvider A) (serving : Serving exchange provider) (under : provider.notification = some notification) :
    Serving exchange (notify exchange config notification notification.rest provider) := by
  have linked := linked_notify exchange config notification notification notification.rest provider serving.linked under
  obtain ⟨transport, phase⟩ := serving.linked.iterating.mp ⟨notification, under⟩
  obtain ⟨current, connected⟩ := serving.linked.attached.held transport (.inl phase)
  have covers : Covers exchange provider transport notification.rest := by
    have covered := serving.covers transport (.inl phase)
    rw [outstanding, under] at covered
    exact covered
  cases notify_cases exchange config notification notification.rest provider with
  | inl resized =>
      rw [resized.2] at linked ⊢
      refine ⟨linked, by simp [finish], ?_⟩
      intro other
      simp [finish, WSConnection.step, phase]
  | inr others =>
      cases others with
      | inl ended =>
          obtain ⟨_, silent, after⟩ := ended
          rw [after] at linked ⊢
          refine ⟨linked, by simp [finish], ?_⟩
          intro other reached
          simp only [finish, WSConnection.step, phase, reduceCtorEq, Phase.receiving.injEq, false_or] at reached
          cases reached
          intro symbol channels found _ name wanted
          by_cases inside : symbol ∈ notification.rest
          · rw [no_args exchange provider symbol channels (silent symbol inside) found] at wanted
            cases wanted
          · exact covers symbol channels found inside name wanted
      | inr waits =>
          obtain ⟨_, passed, symbol, later, frame, split_, silent, asked, after⟩ := waits
          rw [after] at linked ⊢
          refine ⟨linked, ?_, ?_⟩
          · intro visit under_
            rw [send_notification] at under_
            cases under_
            exact serving.calm notification under
          · intro other reached
            rw [send_connection] at reached
            simp only [phase, reduceCtorEq, Phase.notifying.injEq, or_false] at reached
            cases reached
            intro key channels found inside name wanted
            rw [← asked]
            apply (granted_subscribe exchange _ _ _ transport (by exact current) (by exact connected) name).mpr
            rw [send_subscriptions] at found
            have found_ : provider.subscriptions.lookup key = some channels := found
            have outside : key ∉ later := by simpa [outstanding] using inside
            by_cases here : key = symbol
            · rw [← here, found_]
              exact .inr wanted
            · left
              by_cases before : key ∈ passed
              · rw [no_args exchange provider key channels (silent key before) found_] at wanted
                cases wanted
              · apply covers key channels found_ _ name wanted
                rw [split_]
                simp [before, here, outside]

-- No symbol is dropped while the loop subscribes again.
def Calm (provider : BaseWSProvider A) (event : ProviderEvent) : Prop :=
  ∀ symbol, event = .unsubscribe symbol → provider.notification = none ∨ upper symbol ∉ provider.subscriptions.keys

theorem serving_unsubscribe (symbol : String) (provider : BaseWSProvider A)
    (serving : Serving exchange provider) (calm : provider.notification = none ∨ upper symbol ∉ provider.subscriptions.keys) :
    Serving exchange (provider.unsubscribe exchange symbol) := by
  cases stored : provider.subscriptions.lookup (upper symbol) with
  | none => simpa only [unsubscribe, stored] using serving
  | some channels =>
      have idle : provider.notification = none := by
        cases calm with
        | inl idle => exact idle
        | inr absent => exact absurd (Dict.mem_keys_of_lookup _ _ _ stored) absent
      have same : (provider.unsubscribe exchange symbol).connection = provider.connection ∧
          (provider.unsubscribe exchange symbol).notification = none := by
        simp [unsubscribe, stored, idle]
      refine ⟨linked_unsubscribe exchange symbol provider serving.linked, by simp [same.2], ?_⟩
      intro transport reached
      rw [same.1] at reached
      obtain ⟨current, connected⟩ := serving.linked.attached.held transport reached
      have covered := serving.covers transport reached
      rw [outstanding, idle] at covered
      rw [outstanding, same.2]
      exact covers_unsubscribe exchange symbol provider serving.linked transport current connected _ covered

theorem serving_subscribe (symbol : String) (channels : List ChannelType) (provider : BaseWSProvider A)
    (serving : Serving exchange provider) : Serving exchange (provider.subscribe exchange symbol channels) := by
  have same : (provider.subscribe exchange symbol channels).connection = provider.connection ∧
      (provider.subscribe exchange symbol channels).notification = provider.notification := by
    unfold subscribe
    dsimp only
    split
    · exact ⟨rfl, rfl⟩
    · simp
  refine ⟨linked_subscribe exchange symbol channels provider serving.linked, by simpa [same.2] using serving.calm, ?_⟩
  intro transport reached
  rw [same.1] at reached
  obtain ⟨current, connected⟩ := serving.linked.attached.held transport reached
  have covered := serving.covers transport reached
  rw [outstanding] at covered
  rw [outstanding, same.2]
  exact covers_subscribe exchange symbol channels provider transport current connected _ covered

theorem serving_open (provider : BaseWSProvider A)
    (serving : Serving exchange provider) (ready : provider.connection.phase = .connecting) :
    Serving exchange (provider.opened exchange config) := by
  apply serving_notify exchange config ⟨provider.subscriptions.keys, provider.subscriptions.keys, false⟩ _ _ rfl
  refine ⟨linked_open config provider serving.linked ready _, by simp, ?_⟩
  intro transport _ symbol channels found outside
  exact absurd (Dict.mem_keys_of_lookup _ _ _ found) outside

theorem step_serving (provider : BaseWSProvider A) (event : ProviderEvent)
    (serving : Serving exchange provider) (calm : Calm provider event) : Serving exchange (provider.step exchange config event) := by
  apply step_keeps exchange config (Serving exchange) provider event serving
  · exact fun symbol channels _ => serving_subscribe exchange symbol channels provider serving
  · exact fun symbol same => serving_unsubscribe exchange symbol provider serving (calm symbol same)
  · intro notification rest under undisturbed
    rw [undisturbed (serving.calm notification under)]
    exact serving_notify exchange config notification provider serving under
  · intro jitter under
    refine ⟨linked_finish config _ provider serving.linked (.inr ⟨true, jitter, rfl⟩), by simp [finish], ?_⟩
    obtain ⟨transport, phase⟩ := serving.linked.iterating.mp under
    intro other reached
    simp only [finish, WSConnection.step, phase] at reached
    obtain ⟨first, second, _⟩ := failure_phase config provider.connection jitter
    exact absurd reached (not_or.mpr ⟨first other, second other⟩)
  · exact fun ready => serving_open exchange config provider serving ready
  · intro event other callback
    refine ⟨linked_loop config event provider serving.linked other callback, serving.calm, ?_⟩
    intro transport reached
    obtain ⟨notifying, receiving⟩ := loop_phase config provider.connection event transport other callback
    exact serving.covers transport (reached.imp notifying.mp receiving)

theorem serving_start : Serving exchange ({} : BaseWSProvider A) :=
  ⟨linked_start, by simp, by simp⟩

-- Nothing is lost on the way through failures and reconnections: where the loop
-- receives, the exchange was asked for every stream that is wanted.
theorem nothing_missing (events : List ProviderEvent)
    (calm : Run.Each (step exchange config) Calm {} events) :
    Run.Always (step exchange config) (fun provider => ∀ transport, provider.connection.phase = .receiving transport →
      ∀ name, Wanted exchange provider name → name ∈ provider.granted transport) {} events := by
  apply Run.always_of_invariant _ Calm (Serving exchange) _ _ _ {} events (serving_start exchange) calm
  · exact fun provider event serving allowed => step_serving exchange config provider event serving allowed
  · intro provider serving transport phase name wanted
    obtain ⟨symbol, channels, found, inside⟩ := wanted
    have idle : provider.notification = none := by
      cases under : provider.notification with
      | none => rfl
      | some notification =>
          obtain ⟨other, elsewhere⟩ := serving.linked.iterating.mp ⟨notification, under⟩
          rw [phase] at elsewhere
          cases elsewhere
    have covered := serving.covers transport (.inr phase)
    rw [outstanding, idle] at covered
    exact covered symbol channels found (by simp) name inside

theorem nothing_missing_binance :
    let events := [.subscribe "btcusdt" [.ticker, .trades], .unsubscribe "ETHUSDT", .loop .opened, .notified [], .loop .message]
    Run.Always (step binance {}) (fun provider => ∀ transport, provider.connection.phase = .receiving transport →
      ∀ name, Wanted binance provider name → name ∈ provider.granted transport) {} events := by
  apply nothing_missing
  refine ⟨?_, ?_, ?_, ?_, ?_, trivial⟩
  · simp [Calm]
  · exact fun _ _ => .inl rfl
  · simp [Calm]
  · simp [Calm]
  · simp [Calm]

-- Each symbol is always subscribed to the channels of a plan, as the feed does
-- with those of its configuration.
def Steady (plan : String → List ChannelType) (_ : BaseWSProvider A) (event : ProviderEvent) : Prop :=
  ∀ symbol channels, event = .subscribe symbol channels → channels = plan (upper symbol)

structure Bounded (exchange : Exchange A) (plan : String → List ChannelType) (provider : BaseWSProvider A) : Prop where
  linked : Linked provider
  planned : ∀ symbol channels, provider.subscriptions.lookup symbol = some channels →
    channels = (plan symbol).filter exchange.supports
  bounded : ∀ transport, provider.connection.transport = some transport → provider.connection.state = .connected →
    ∀ name ∈ provider.granted transport, Wanted exchange provider name

theorem granted_fresh (provider : BaseWSProvider A) (linked : Linked provider) :
    provider.granted provider.connection.opened = [] := by
  have none_ : provider.framesOn provider.connection.opened = [] := by
    rw [framesOn, List.map_eq_nil_iff, List.filter_eq_nil_iff]
    intro entry member
    have before := linked.past entry member
    simp only [decide_eq_true_eq]
    omega
  rw [granted, none_]
  rfl

theorem bounded_subscribe (plan : String → List ChannelType) (symbol : String)
    (channels : List ChannelType) (provider : BaseWSProvider A) (bounded : Bounded exchange plan provider)
    (steady : channels = plan (upper symbol)) : Bounded exchange plan (provider.subscribe exchange symbol channels) := by
  have linked := linked_subscribe exchange symbol channels provider bounded.linked
  unfold subscribe at linked ⊢
  dsimp only at linked ⊢
  split
  · exact bounded
  · rename_i some_
    rw [if_neg some_] at linked
    refine ⟨linked, ?_, ?_⟩
    · intro other stored found
      rw [send_subscriptions, Dict.lookup_insert] at found
      by_cases same : other = upper symbol
      · rw [if_pos same] at found
        cases found
        rw [same, steady]
      · rw [if_neg same] at found
        exact bounded.planned other stored found
    · intro transport current connected name inside
      rw [send_connection] at current connected
      cases (granted_subscribe exchange _ _ _ transport current connected name).mp inside with
      | inl old =>
          obtain ⟨other, stored, found, wanted⟩ := bounded.bounded transport current connected name old
          refine ⟨other, stored, ?_, wanted⟩
          rw [send_subscriptions, Dict.lookup_insert]
          by_cases same : other = upper symbol
          · rw [if_pos same, bounded.planned other stored found, same, steady]
          · rw [if_neg same]
            exact found
      | inr new =>
          refine ⟨upper symbol, channels.filter exchange.supports, ?_, new⟩
          rw [send_subscriptions, Dict.lookup_insert, if_pos rfl]

theorem bounded_unsubscribe (plan : String → List ChannelType) (symbol : String)
    (provider : BaseWSProvider A) (bounded : Bounded exchange plan provider) :
    Bounded exchange plan (provider.unsubscribe exchange symbol) := by
  have linked := linked_unsubscribe exchange symbol provider bounded.linked
  unfold unsubscribe at linked ⊢
  cases stored : provider.subscriptions.lookup (upper symbol) with
  | none => exact bounded
  | some channels =>
      simp only [stored] at linked
      refine ⟨linked, ?_, ?_⟩
      · intro other others found
        rw [send_subscriptions, Dict.lookup_erase] at found
        by_cases same : other = upper symbol
        · rw [if_pos same] at found
          cases found
        · rw [if_neg same] at found
          exact bounded.planned other others found
      · intro transport current connected name inside
        rw [send_connection] at current connected
        obtain ⟨old, kept⟩ := (granted_unsubscribe exchange _ _ _ transport current connected name).mp inside
        obtain ⟨other, others, found, wanted⟩ := bounded.bounded transport current connected name old
        refine ⟨other, others, ?_, wanted⟩
        rw [send_subscriptions, Dict.lookup_erase]
        by_cases same : other = upper symbol
        · rw [same, stored] at found
          cases found
          rw [same] at wanted
          exact absurd wanted kept
        · rw [if_neg same]
          exact found

theorem bounded_finish (plan : String → List ChannelType) (config : WSConnectionConfig) (event : Event)
    (provider : BaseWSProvider A) (bounded : Bounded exchange plan provider)
    (ends : event = .returned ∨ ∃ raised jitter, event = .raised raised jitter) :
    Bounded exchange plan (provider.finish config event) := by
  refine ⟨linked_finish config event provider bounded.linked ends, bounded.planned, ?_⟩
  intro transport current connected
  have other : event ≠ .opened := by
    obtain rfl | ⟨raised, jitter, rfl⟩ := ends <;> simp
  obtain ⟨before, established⟩ := step_held config provider.connection event other transport current connected
  exact bounded.bounded transport before established

theorem bounded_notify (plan : String → List ChannelType) (config : WSConnectionConfig)
    (notification old : Notification) (rest : List String) (provider : BaseWSProvider A)
    (bounded : Bounded exchange plan provider) (under : provider.notification = some old) :
    Bounded exchange plan (notify exchange config notification rest provider) := by
  apply notify_keeps exchange config (Bounded exchange plan) notification rest provider
  · exact fun event ends => bounded_finish exchange plan config event provider bounded ends
  · intro symbol later
    refine ⟨linked_send _ _ (linked_visiting provider bounded.linked old _ under), ?_, ?_⟩
    · rw [send_subscriptions]
      exact bounded.planned
    · intro transport current connected name inside
      rw [send_connection] at current connected
      rw [Wanted, send_subscriptions]
      cases (granted_subscribe exchange _ _ _ transport current connected name).mp inside with
      | inl before => exact bounded.bounded transport current connected name before
      | inr new =>
          cases found : provider.subscriptions.lookup symbol with
          | none =>
              rw [found] at new
              cases new
          | some channels =>
              rw [found] at new
              exact ⟨symbol, channels, found, new⟩

theorem step_bounded (plan : String → List ChannelType) (config : WSConnectionConfig)
    (provider : BaseWSProvider A) (event : ProviderEvent) (bounded : Bounded exchange plan provider)
    (steady : Steady plan provider event) : Bounded exchange plan (provider.step exchange config event) := by
  apply step_keeps exchange config (Bounded exchange plan) provider event bounded
  · exact fun symbol channels same => bounded_subscribe exchange plan symbol channels provider bounded (steady symbol channels same)
  · exact fun symbol _ => bounded_unsubscribe exchange plan symbol provider bounded
  · exact fun notification rest under _ => bounded_notify exchange plan config notification notification rest provider bounded under
  · exact fun jitter _ => bounded_finish exchange plan config _ provider bounded (.inr ⟨true, jitter, rfl⟩)
  · intro ready
    refine bounded_notify exchange plan config _ _ _ _ ⟨linked_open config provider bounded.linked ready _, bounded.planned, ?_⟩ rfl
    intro transport current _ name inside
    simp only [WSConnection.step, ready, WSConnection.afterConnect, Option.some.injEq] at current
    cases current
    have none_ := granted_fresh provider bounded.linked
    rw [granted, framesOn] at none_ inside
    rw [none_] at inside
    cases inside
  · intro event other callback
    refine ⟨linked_loop config event provider bounded.linked other callback, bounded.planned, ?_⟩
    intro transport current connected
    obtain ⟨before, established⟩ := step_held config provider.connection event other transport current connected
    exact bounded.bounded transport before established

-- Nothing is streamed besides: what the exchange was asked for and not told to
-- stop is still wanted.
theorem nothing_besides (plan : String → List ChannelType) (config : WSConnectionConfig)
    (events : List ProviderEvent) (steady : Run.Each (step exchange config) (Steady plan) {} events) :
    Run.Always (step exchange config) (fun provider => ∀ transport, provider.connection.transport = some transport →
      provider.connection.state = .connected → ∀ name ∈ provider.granted transport, Wanted exchange provider name) {} events := by
  apply Run.always_of_invariant _ (Steady plan) (Bounded exchange plan) _ _ _ {} events _ steady
  · exact fun provider event bounded allowed => step_bounded exchange plan config provider event bounded allowed
  · exact fun provider bounded => bounded.bounded
  · exact ⟨linked_start, by simp [Dict.lookup, Dict.empty], by simp⟩

theorem nothing_besides_okx :
    let events := [.subscribe "btcusdt" [.ticker, .trades], .loop .opened, .subscribe "BTCUSDT" [.ticker, .trades], .notified []]
    Run.Always (step okx {}) (fun provider => ∀ transport, provider.connection.transport = some transport →
      provider.connection.state = .connected → ∀ name ∈ provider.granted transport, Wanted okx provider name) {} events := by
  apply nothing_besides okx (fun _ => [.ticker, .trades])
  refine ⟨?_, ?_, ?_, ?_, trivial⟩
  · simp [Steady]
  · simp [Steady]
  · simp [Steady]
  · simp [Steady]

end

-- The connection says that it is established, and no loop serves it.
def Silent (provider : BaseWSProvider A) : Prop :=
  provider.connection.phase = .ended ∧ provider.connection.state = .connected

-- The number of the subscriptions changed since the iteration over them began.
def Resized (provider : BaseWSProvider A) : Prop :=
  ∃ notification, provider.notification = some notification ∧ provider.subscriptions.size ≠ notification.keys.length

theorem subscribe_connection (symbol : String) (channels : List ChannelType)
    (provider : BaseWSProvider A) : (provider.subscribe exchange symbol channels).connection = provider.connection := by
  unfold subscribe
  dsimp only
  split <;> simp

theorem unsubscribe_connection (symbol : String) (provider : BaseWSProvider A) :
    (provider.unsubscribe exchange symbol).connection = provider.connection := by
  unfold unsubscribe
  split <;> simp

theorem silent_loop (connection : WSConnection) (event : Event)
    (callback : event ≠ .returned ∧ ∀ raised jitter, event ≠ .raised raised jitter) :
    ((connection.step config event).phase = .ended ∧ (connection.step config event).state = .connected) ↔
      connection.phase = .ended ∧ connection.state = .connected := by
  obtain ⟨fresh, refused⟩ := callback
  unfold WSConnection.step
  split <;> simp_all [failure_phase, WSConnection.afterConnect]

theorem silent_notify (notification : Notification) (rest : List String)
    (provider : BaseWSProvider A) (transport : Nat) (phase : provider.connection.phase = .notifying transport)
    (connected : provider.connection.state = .connected) :
    Silent (notify exchange config notification rest provider) ↔ provider.subscriptions.size ≠ notification.keys.length := by
  cases notify_cases exchange config notification rest provider with
  | inl resized =>
      rw [resized.2]
      apply iff_of_true _ resized.1
      simp [Silent, finish, WSConnection.step, phase, connected]
  | inr others =>
      cases others with
      | inl ended =>
          rw [ended.2.2]
          apply iff_of_false _ (not_not.mpr ended.1)
          simp [Silent, finish, WSConnection.step, phase]
      | inr waits =>
          obtain ⟨sized, _, _, _, _, _, _, _, after⟩ := waits
          rw [after]
          apply iff_of_false _ (not_not.mpr sized)
          simp [Silent, phase]

theorem silent_step (provider : BaseWSProvider A) (event : ProviderEvent)
    (linked : Linked provider) : Silent (provider.step exchange config event) ↔
      Silent provider ∨ ((∃ left, event = .notified left) ∧ Resized provider) := by
  cases event with
  | subscribe symbol channels => simp [step, Silent, subscribe_connection]
  | unsubscribe symbol => simp [step, Silent, unsubscribe_connection]
  | notified left =>
      cases under : provider.notification with
      | none => simp [step, under, Resized]
      | some notification =>
          obtain ⟨transport, phase⟩ := linked.iterating.mp ⟨notification, under⟩
          have connected := (linked.attached.held transport (.inl phase)).2
          simp only [step, under]
          rw [silent_notify exchange config notification _ provider transport phase connected]
          simp [Silent, Resized, phase, under]
  | notifyRaised jitter =>
      cases under : provider.notification with
      | none => simp [step, under]
      | some notification =>
          obtain ⟨transport, phase⟩ := linked.iterating.mp ⟨notification, under⟩
          have lost := (failure_phase config provider.connection jitter).2.2.1
          simp [step, under, Silent, finish, WSConnection.step, phase, lost]
  | loop event =>
      cases event with
      | opened =>
          by_cases ready : provider.connection.phase = .connecting
          · simp only [step, if_pos ready, opened]
            rw [silent_notify exchange config _ _ _ provider.connection.opened
              (by simp [WSConnection.step, ready, WSConnection.afterConnect])
              (by simp [WSConnection.step, ready, WSConnection.afterConnect])]
            simp [Silent, ready, Dict.size, Dict.keys]
          · simp [step, if_neg ready]
      | returned => simp [step]
      | raised provider_ jitter => simp [step]
      | refused jitter => simpa [step, Silent] using silent_loop config provider.connection (.refused jitter) (by simp)
      | message => simpa [step, Silent] using silent_loop config provider.connection .message (by simp)
      | failed => simpa [step, Silent] using silent_loop config provider.connection .failed (by simp)
      | closed jitter => simpa [step, Silent] using silent_loop config provider.connection (.closed jitter) (by simp)
      | woke => simpa [step, Silent] using silent_loop config provider.connection .woke (by simp)

example : Silent (Run.final (step binance {}) {}
    [.subscribe "btcusdt" [.ticker], .loop .opened, .subscribe "ethusdt" [.ticker], .notified []]) := ⟨rfl, rfl⟩

end QuantEngine.Resubscription
