import QuantEngine.Library.Coroutine
import QuantEngine.Market.Resubscription

set_option autoImplicit false

namespace QuantEngine.FeedRouting

open Resubscription (ChannelType)

-- A provider that the registry made. It runs from the return of its start to
-- its stop.
structure Instance where
  name : String
  symbols : List String := []
  running : Bool := false

def Instance.add (symbol : String) (instance_ : Instance) : Instance :=
  { instance_ with symbols := if symbol ∈ instance_.symbols then instance_.symbols else instance_.symbols ++ [symbol] }

def Instance.drop (symbol : String) (instance_ : Instance) : Instance :=
  { instance_ with symbols := instance_.symbols.filter (fun other => decide (other ≠ symbol)) }

structure MarketSettings where
  providerFor : String → String
  channels : List ChannelType
  available : List String
  capabilities : String → List ChannelType

-- `provider_name or settings.provider_for(symbol)`.
def MarketSettings.chosen (settings : MarketSettings) (symbol : String) (providerName : Option String) : String :=
  match providerName with
  | some name => if name = "" then settings.providerFor symbol else name
  | none => settings.providerFor symbol

-- Where a call waits: for the start of the provider it made, for the provider's
-- own subscription, for its unsubscription, for the stop of one of the providers.
inductive Wait where
  | starting (instance_ : Nat) (symbol : String) (channels : List ChannelType)
  | subscribing (instance_ : Nat) (symbol : String) (name : String)
  | unsubscribing (symbol : String)
  | stopping (size : Nat) (rest : List String)

-- `instances` is a ghost: the feed knows only those in `providers`.
structure MarketFeed where
  providers : Dict String Nat := .empty
  subscriptions : Dict String String := .empty
  instances : List Instance := []
  waiting : List Wait := []

inductive Call where
  | subscribe (symbol : String) (channels : Option (List ChannelType)) (providerName : Option String)
  | unsubscribe (symbol : String)
  | stop

inductive Outcome where
  | returned
  | raised
deriving DecidableEq

inductive Action where
  | call (call : Call)
  | resume (index : Nat) (outcome : Outcome)

namespace MarketFeed

def change (place : Nat) (f : Instance → Instance) (feed : MarketFeed) : MarketFeed :=
  { feed with instances := feed.instances.modify place f }

def wait (at_ : Wait) (feed : MarketFeed) : MarketFeed := { feed with waiting := feed.waiting ++ [at_] }

-- `provider.subscribe`, which records a symbol it has some channel for.
def join (settings : MarketSettings) (place : Nat) (name symbol : String) (channels : List ChannelType)
    (feed : MarketFeed) : MarketFeed :=
  let served := channels.any (fun channel => decide (channel ∈ settings.capabilities name))
  (if served then feed.change place (Instance.add symbol) else feed).wait (.subscribing place symbol name)

-- `_ensure_provider`: the one that is held, or a new one whose start is waited for.
def subscribe (settings : MarketSettings) (symbol : String) (channels : Option (List ChannelType))
    (providerName : Option String) (feed : MarketFeed) : MarketFeed :=
  let symbol := upper symbol
  let name := settings.chosen symbol providerName
  let selected := channels.getD settings.channels
  match feed.providers.lookup name with
  | some place => feed.join settings place name symbol selected
  | none =>
      if name ∈ settings.available then
        { feed with instances := feed.instances ++ [({ name := name } : Instance)] }.wait (.starting feed.instances.length symbol selected)
      else feed

def unsubscribe (symbol : String) (feed : MarketFeed) : MarketFeed :=
  let symbol := upper symbol
  match feed.subscriptions.lookup symbol with
  | none => feed
  | some name =>
      let popped := { feed with subscriptions := feed.subscriptions.erase symbol }
      match feed.providers.lookup name with
      | none => popped
      | some place => (popped.change place (Instance.drop symbol)).wait (.unsubscribing symbol)

-- The loop of `_on_stop` to its next provider. A dictionary that has changed its
-- size ends it with a `RuntimeError`, which `Service.stop` logs.
def halt (size : Nat) (rest : List String) (feed : MarketFeed) : MarketFeed :=
  if feed.providers.size = size then
    match rest with
    | [] => { feed with providers := .empty }
    | name :: rest =>
        match feed.providers.lookup name with
        | none => feed
        | some place => (feed.change place (fun instance_ => { instance_ with running := false })).wait (.stopping size rest)
  else feed

def stop (feed : MarketFeed) : MarketFeed := feed.halt feed.providers.size feed.providers.keys

def begin (settings : MarketSettings) (feed : MarketFeed) : Call → MarketFeed
  | .subscribe symbol channels providerName => feed.subscribe settings symbol channels providerName
  | .unsubscribe symbol => feed.unsubscribe symbol
  | .stop => feed.stop

-- The provider's start has returned: it is held from here on, whatever was held
-- under its name.
def hold (place : Nat) (name : String) (feed : MarketFeed) : MarketFeed :=
  { feed.change place (fun instance_ => { instance_ with running := true }) with
    providers := feed.providers.insert name place }

-- A call goes on after its wait, or leaves with what was raised there.
def proceed (settings : MarketSettings) (at_ : Wait) (outcome : Outcome) (feed : MarketFeed) : MarketFeed :=
  match outcome, at_ with
  | .raised, _ => feed
  | .returned, .starting place symbol channels =>
      match feed.instances[place]? with
      | none => feed
      | some instance_ => (feed.hold place instance_.name).join settings place instance_.name symbol channels
  | .returned, .subscribing _ symbol name => { feed with subscriptions := feed.subscriptions.insert symbol name }
  | .returned, .unsubscribing _ => feed
  | .returned, .stopping size rest => feed.halt size rest

def step (settings : MarketSettings) (feed : MarketFeed) : Action → MarketFeed
  | .call call => feed.begin settings call
  | .resume index outcome =>
      match feed.waiting[index]? with
      | none => feed
      | some at_ => { feed with waiting := feed.waiting.eraseIdx index }.proceed settings at_ outcome

def Runs (feed : MarketFeed) (place : Nat) : Prop :=
  ∃ instance_, feed.instances[place]? = some instance_ ∧ instance_.running = true

def Held (feed : MarketFeed) (place : Nat) : Prop := ∃ name, feed.providers.lookup name = some place

-- A provider runs that the feed does not know: nothing will ever stop it.
def Leaks (feed : MarketFeed) : Prop := ∃ place, feed.Runs place ∧ ¬ feed.Held place

-- What the providers' bookkeeping is about.
def view (feed : MarketFeed) (place : Nat) : Option (String × Bool) :=
  (feed.instances[place]?).map (fun instance_ => (instance_.name, instance_.running))

def startingOf : Wait → Option Nat
  | .starting place _ _ => some place
  | _ => none

def starts (feed : MarketFeed) : List Nat := feed.waiting.filterMap startingOf

structure Sound (feed : MarketFeed) : Prop where
  named : ∀ name place, feed.providers.lookup name = some place → ∃ running, feed.view place = some (name, running)
  starting : ∀ place ∈ feed.starts, (∃ name, feed.view place = some (name, false)) ∧ ¬ feed.Held place
  distinct : feed.starts.Nodup

-- A change of symbols, subscriptions or waits, besides the starts.
structure Quiet (before after : MarketFeed) : Prop where
  providers : after.providers = before.providers
  view : after.view = before.view
  starts : after.starts.Sublist before.starts

theorem runs_iff (feed : MarketFeed) (place : Nat) : feed.Runs place ↔ ∃ name, feed.view place = some (name, true) := by
  unfold Runs view
  cases feed.instances[place]? with
  | none => simp
  | some instance_ => simp

theorem quiet_refl (feed : MarketFeed) : Quiet feed feed := ⟨rfl, rfl, List.Sublist.refl _⟩

theorem quiet_trans (a b c : MarketFeed) (first : Quiet a b) (second : Quiet b c) : Quiet a c :=
  ⟨second.providers.trans first.providers, second.view.trans first.view, second.starts.trans first.starts⟩

theorem quiet_sound (before after : MarketFeed) (quiet : Quiet before after) (sound : Sound before) : Sound after where
  named name place found := by
    rw [quiet.providers] at found
    rw [quiet.view]
    exact sound.named name place found
  starting place member := by
    rw [Held, quiet.providers, quiet.view]
    exact sound.starting place (quiet.starts.subset member)
  distinct := sound.distinct.sublist quiet.starts

theorem quiet_leaks (before after : MarketFeed) (quiet : Quiet before after) : Leaks after ↔ Leaks before := by
  simp only [Leaks, runs_iff, Held, quiet.providers, quiet.view]

theorem view_change (feed : MarketFeed) (place other : Nat) (f : Instance → Instance) :
    (feed.change place f).view other = (feed.instances[other]?).map (fun instance_ =>
      if other = place then ((f instance_).name, (f instance_).running) else (instance_.name, instance_.running)) := by
  simp only [view, change, List.getElem?_modify]
  cases feed.instances[other]? with
  | none => simp
  | some instance_ =>
      by_cases same : other = place
      · simp [same]
      · simp [same, Ne.symm same]

theorem quiet_change (feed : MarketFeed) (place : Nat) (f : Instance → Instance)
    (same : ∀ instance_, (f instance_).name = instance_.name ∧ (f instance_).running = instance_.running) :
    Quiet feed (feed.change place f) := by
  refine ⟨rfl, ?_, List.Sublist.refl _⟩
  funext other
  rw [view_change]
  simp [same, view]

theorem quiet_wait (feed : MarketFeed) (at_ : Wait) (other : startingOf at_ = none) : Quiet feed (feed.wait at_) := by
  refine ⟨rfl, rfl, ?_⟩
  simp [starts, wait, other]

theorem quiet_join (settings : MarketSettings) (place : Nat) (name symbol : String) (channels : List ChannelType)
    (feed : MarketFeed) : Quiet feed (feed.join settings place name symbol channels) := by
  apply quiet_trans _ _ _ _ (quiet_wait _ _ rfl)
  split
  · exact quiet_change feed place _ (fun _ => ⟨rfl, rfl⟩)
  · exact quiet_refl feed

theorem quiet_unsubscribe (symbol : String) (feed : MarketFeed) : Quiet feed (feed.unsubscribe symbol) := by
  unfold unsubscribe
  dsimp only
  split
  · exact quiet_refl feed
  · split
    · exact ⟨rfl, rfl, List.Sublist.refl _⟩
    · apply quiet_trans _ _ _ _ (quiet_wait _ _ rfl)
      apply quiet_trans _ _ _ _ (quiet_change _ _ (Instance.drop _) (fun _ => ⟨rfl, rfl⟩))
      exact ⟨rfl, rfl, List.Sublist.refl _⟩

-- A provider that is made: it neither runs nor is it held.
theorem created (feed : MarketFeed) (sound : Sound feed) (name symbol : String) (channels : List ChannelType) :
    let after := { feed with instances := feed.instances ++ [({ name := name } : Instance)] }.wait
      (.starting feed.instances.length symbol channels)
    Sound after ∧ (Leaks after ↔ Leaks feed) := by
  intro after
  have old : ∀ place, place < feed.instances.length → after.view place = feed.view place := by
    intro place below
    simp [after, view, wait, List.getElem?_append_left below]
  have new : after.view feed.instances.length = some (name, false) := by
    simp [after, view, wait]
  have known : ∀ place entry, feed.view place = some entry → place < feed.instances.length := by
    intro place entry found
    obtain ⟨instance_, there, _⟩ := Option.map_eq_some_iff.mp found
    exact (List.getElem?_eq_some_iff.mp there).1
  have unheld : ¬ Held feed feed.instances.length := by
    intro held
    obtain ⟨other, found⟩ := held
    obtain ⟨running, seen⟩ := sound.named other _ found
    exact absurd (known _ _ seen) (Nat.lt_irrefl _)
  have started : after.starts = feed.starts ++ [feed.instances.length] := by
    simp [after, starts, wait, startingOf]
  refine ⟨⟨?_, ?_, ?_⟩, ?_⟩
  · intro other place found
    obtain ⟨running, seen⟩ := sound.named other place found
    exact ⟨running, (old place (known _ _ seen)).trans seen⟩
  · intro place member
    rw [started, List.mem_append, List.mem_singleton] at member
    cases member with
    | inl before =>
        obtain ⟨⟨other, seen⟩, free⟩ := sound.starting place before
        exact ⟨⟨other, (old place (known _ _ seen)).trans seen⟩, free⟩
    | inr fresh =>
        rw [fresh]
        exact ⟨⟨name, new⟩, unheld⟩
  · rw [started]
    apply List.Nodup.append sound.distinct (List.nodup_singleton _)
    rw [List.disjoint_singleton]
    intro member
    obtain ⟨⟨other, seen⟩, _⟩ := sound.starting _ member
    exact absurd (known _ _ seen) (Nat.lt_irrefl _)
  · simp only [Leaks, runs_iff]
    constructor
    · intro leak
      obtain ⟨place, ⟨other, seen⟩, free⟩ := leak
      refine ⟨place, ⟨other, ?_⟩, free⟩
      by_cases below : place < feed.instances.length
      · rw [← old place below]
        exact seen
      · exfalso
        by_cases same : place = feed.instances.length
        · rw [same, new] at seen
          cases seen
        · have beyond : after.view place = none := by
            simp only [after, view, wait, Option.map_eq_none_iff, List.getElem?_eq_none_iff, List.length_append,
              List.length_singleton]
            omega
          rw [beyond] at seen
          cases seen
    · intro leak
      obtain ⟨place, ⟨other, seen⟩, free⟩ := leak
      exact ⟨place, ⟨other, (old place (known _ _ seen)).trans seen⟩, free⟩

-- A start that returns: what ran under the name before is held no longer.
theorem holding (feed : MarketFeed) (sound : Sound feed) (place : Nat) (name : String)
    (seen : feed.view place = some (name, false)) (free : ¬ feed.Held place) (gone : place ∉ feed.starts) :
    Sound (feed.hold place name) ∧ (Leaks (feed.hold place name) ↔
      Leaks feed ∨ ∃ other, feed.providers.lookup name = some other ∧ feed.Runs other) := by
  have here : (feed.hold place name).view place = some (name, true) := by
    obtain ⟨instance_, there, same⟩ := Option.map_eq_some_iff.mp seen
    have named : instance_.name = name := congrArg Prod.fst same
    have changed := view_change feed place place (fun instance_ => { instance_ with running := true })
    rw [there, Option.map_some, if_pos rfl, named] at changed
    exact changed
  have elsewhere : ∀ other, other ≠ place → (feed.hold place name).view other = feed.view other := by
    intro other apart
    have changed := view_change feed place other (fun instance_ => { instance_ with running := true })
    simp only [if_neg apart] at changed
    exact changed
  have found : ∀ other, (feed.hold place name).providers.lookup other =
      if other = name then some place else feed.providers.lookup other := fun other =>
    Dict.lookup_insert feed.providers name other place
  have stays : ∀ other, other ≠ place → ((feed.hold place name).Held other ↔
      ∃ key, key ≠ name ∧ feed.providers.lookup key = some other) := by
    intro other apart
    constructor
    · intro held
      obtain ⟨key, at_⟩ := held
      rw [found] at at_
      by_cases same : key = name
      · rw [if_pos same] at at_
        exact absurd (Option.some.inj at_).symm apart
      · rw [if_neg same] at at_
        exact ⟨key, same, at_⟩
    · intro held
      obtain ⟨key, different, at_⟩ := held
      exact ⟨key, by rw [found, if_neg different, at_]⟩
  refine ⟨⟨?_, ?_, sound.distinct⟩, ?_⟩
  · intro key other at_
    rw [found] at at_
    by_cases same : key = name
    · rw [if_pos same] at at_
      rw [← Option.some.inj at_, same]
      exact ⟨true, here⟩
    · rw [if_neg same] at at_
      obtain ⟨running, before⟩ := sound.named key other at_
      have apart : other ≠ place := fun equal => free ⟨key, equal ▸ at_⟩
      exact ⟨running, (elsewhere other apart).trans before⟩
  · intro other member
    have apart : other ≠ place := fun equal => gone (equal ▸ member)
    obtain ⟨⟨key, before⟩, unheld⟩ := sound.starting other member
    refine ⟨⟨key, (elsewhere other apart).trans before⟩, ?_⟩
    rw [stays other apart]
    intro held
    obtain ⟨key, _, at_⟩ := held
    exact unheld ⟨key, at_⟩
  · simp only [Leaks, runs_iff]
    constructor
    · intro leak
      obtain ⟨other, ⟨key, running⟩, unheld⟩ := leak
      have apart : other ≠ place := by
        intro equal
        apply unheld
        rw [equal]
        exact ⟨name, by rw [found, if_pos rfl]⟩
      rw [elsewhere other apart] at running
      rw [stays other apart] at unheld
      by_cases held : ∃ key, feed.providers.lookup key = some other
      · right
        obtain ⟨key_, at_⟩ := held
        by_cases same : key_ = name
        · exact ⟨other, same ▸ at_, key, running⟩
        · exact absurd ⟨key_, same, at_⟩ unheld
      · exact .inl ⟨other, ⟨key, running⟩, held⟩
    · intro either
      cases either with
      | inl leak =>
          obtain ⟨other, ⟨key, running⟩, unheld⟩ := leak
          have apart : other ≠ place := by
            intro equal
            rw [equal, seen] at running
            cases running
          refine ⟨other, ⟨key, (elsewhere other apart).trans running⟩, ?_⟩
          rw [stays other apart]
          intro held
          obtain ⟨key, _, at_⟩ := held
          exact unheld ⟨key, at_⟩
      | inr displaced =>
          obtain ⟨other, at_, key, running⟩ := displaced
          have apart : other ≠ place := fun equal => free ⟨name, equal ▸ at_⟩
          refine ⟨other, ⟨key, (elsewhere other apart).trans running⟩, ?_⟩
          rw [stays other apart]
          intro held
          obtain ⟨key_, different, also⟩ := held
          obtain ⟨_, first⟩ := sound.named name other at_
          obtain ⟨_, second⟩ := sound.named key_ other also
          rw [first] at second
          exact different (congrArg Prod.fst (Option.some.inj second)).symm

-- The end of a stop that goes through: the feed forgets what it still holds.
def Clears (feed : MarketFeed) (size : Nat) (rest : List String) : Prop := feed.providers.size = size ∧ rest = []

theorem stopped (feed : MarketFeed) (sound : Sound feed) (name : String) (place : Nat)
    (found : feed.providers.lookup name = some place) (size : Nat) (rest : List String) :
    let after := (feed.change place (fun instance_ => { instance_ with running := false })).wait (.stopping size rest)
    Sound after ∧ (Leaks after ↔ Leaks feed) := by
  intro after
  have seen : ∀ other, after.view other = if other = place then (feed.view other).map (fun entry => (entry.1, false))
      else feed.view other := by
    intro other
    have changed := view_change feed place other (fun instance_ => { instance_ with running := false })
    apply changed.trans
    by_cases same : other = place
    · simp [same, view, Function.comp_def]
    · simp [same, view]
  have started : after.starts = feed.starts := by simp [after, starts, wait, change, startingOf]
  refine ⟨⟨?_, ?_, started ▸ sound.distinct⟩, ?_⟩
  · intro key other at_
    obtain ⟨running, before⟩ := sound.named key other at_
    rw [seen]
    by_cases same : other = place
    · rw [if_pos same, before]
      exact ⟨false, rfl⟩
    · rw [if_neg same]
      exact ⟨running, before⟩
  · intro other member
    rw [started] at member
    obtain ⟨⟨key, before⟩, free⟩ := sound.starting other member
    have apart : other ≠ place := fun equal => free ⟨name, equal ▸ found⟩
    refine ⟨⟨key, ?_⟩, free⟩
    rw [seen, if_neg apart]
    exact before
  · simp only [Leaks, runs_iff]
    apply exists_congr
    intro other
    apply and_congr_left
    intro free
    have apart : other ≠ place := fun equal => free ⟨name, equal ▸ found⟩
    rw [seen, if_neg apart]

theorem halted (feed : MarketFeed) (sound : Sound feed) (size : Nat) (rest : List String) :
    Sound (feed.halt size rest) ∧ (Leaks (feed.halt size rest) ↔
      Leaks feed ∨ (feed.Clears size rest ∧ ∃ place, feed.Held place ∧ feed.Runs place)) := by
  unfold halt
  by_cases sized : feed.providers.size = size
  · rw [if_pos sized]
    cases rest with
    | nil =>
        have forgotten : ∀ place, ¬ Held { feed with providers := .empty } place := by
          intro place held
          obtain ⟨name, found⟩ := held
          cases found
        refine ⟨⟨?_, ?_, sound.distinct⟩, ?_⟩
        · intro name place found
          cases found
        · exact fun place member => ⟨(sound.starting place member).1, forgotten place⟩
        · constructor
          · intro leak
            obtain ⟨place, runs, _⟩ := leak
            by_cases held : feed.Held place
            · exact .inr ⟨⟨sized, rfl⟩, place, held, runs⟩
            · exact .inl ⟨place, runs, held⟩
          · intro either
            cases either with
            | inl leak =>
                obtain ⟨place, runs, _⟩ := leak
                exact ⟨place, runs, forgotten place⟩
            | inr cleared =>
                obtain ⟨_, place, _, runs⟩ := cleared
                exact ⟨place, runs, forgotten place⟩
    | cons name rest =>
        have unclear : ¬ feed.Clears size (name :: rest) := fun clears => by cases clears.2
        simp only [unclear, false_and, or_false]
        cases found : feed.providers.lookup name with
        | none => exact ⟨sound, Iff.rfl⟩
        | some place => exact stopped feed sound name place found size rest
  · rw [if_neg sized]
    have unclear : ¬ feed.Clears size rest := fun clears => sized clears.1
    exact ⟨sound, (or_iff_left (fun both => unclear both.1)).symm⟩

-- A step lets go of a provider that runs: its name is taken over by a second
-- one whose start returns, or a stop forgets what was started behind its back.
def Drops (feed : MarketFeed) : Action → Prop
  | .resume index .returned =>
      (∃ place symbol channels instance_ other, feed.waiting[index]? = some (.starting place symbol channels) ∧
        feed.instances[place]? = some instance_ ∧ feed.providers.lookup instance_.name = some other ∧ feed.Runs other) ∨
      (∃ size rest place, feed.waiting[index]? = some (.stopping size rest) ∧ feed.Clears size rest ∧
        feed.Held place ∧ feed.Runs place)
  | _ => False

theorem quiet_erase (feed : MarketFeed) (index : Nat) : Quiet feed { feed with waiting := feed.waiting.eraseIdx index } :=
  ⟨rfl, rfl, (List.eraseIdx_sublist feed.waiting index).filterMap startingOf⟩

theorem perm_apart_starts (feed : MarketFeed) (index place : Nat) (symbol : String) (channels : List ChannelType)
    (waits : feed.waiting[index]? = some (.starting place symbol channels)) :
    feed.starts.Perm (place :: ({ feed with waiting := feed.waiting.eraseIdx index } : MarketFeed).starts) :=
  (Pool.perm_apart feed.waiting index _ waits).filterMap startingOf

theorem call_sound (settings : MarketSettings) (feed : MarketFeed) (call : Call) (sound : Sound feed) :
    Sound (feed.begin settings call) ∧ (Leaks (feed.begin settings call) ↔ Leaks feed) := by
  cases call with
  | subscribe symbol channels providerName =>
      simp only [begin, subscribe]
      cases feed.providers.lookup (settings.chosen (upper symbol) providerName) with
      | some place =>
          have quiet := quiet_join settings place (settings.chosen (upper symbol) providerName) (upper symbol)
            (channels.getD settings.channels) feed
          exact ⟨quiet_sound _ _ quiet sound, quiet_leaks _ _ quiet⟩
      | none =>
          by_cases known : settings.chosen (upper symbol) providerName ∈ settings.available
          · simp only [if_pos known]
            exact created feed sound _ _ _
          · simpa only [if_neg known, iff_self, and_true] using sound
  | unsubscribe symbol =>
      have quiet := quiet_unsubscribe symbol feed
      exact ⟨quiet_sound _ _ quiet sound, quiet_leaks _ _ quiet⟩
  | stop =>
      obtain ⟨kept, leaks⟩ := halted feed sound feed.providers.size feed.providers.keys
      refine ⟨kept, leaks.trans (or_iff_left ?_)⟩
      intro cleared
      obtain ⟨⟨_, none_⟩, place, ⟨name, found⟩, _⟩ := cleared
      have member := Dict.mem_keys_of_lookup _ _ _ found
      rw [none_] at member
      cases member

theorem proceed_sound (settings : MarketSettings) (feed : MarketFeed) (index : Nat) (at_ : Wait)
    (waits : feed.waiting[index]? = some at_) (sound : Sound feed) :
    let after := { feed with waiting := feed.waiting.eraseIdx index }.proceed settings at_ .returned
    Sound after ∧ (Leaks after ↔ Leaks feed ∨ Drops feed (.resume index .returned)) := by
  have erased := quiet_erase feed index
  have kept := quiet_sound _ _ erased sound
  have same := quiet_leaks _ _ erased
  cases at_ with
  | subscribing place symbol name =>
      have quiet : Quiet feed ({ feed with waiting := feed.waiting.eraseIdx index }.proceed settings
          (.subscribing place symbol name) .returned) := ⟨rfl, rfl, erased.starts⟩
      refine ⟨quiet_sound _ _ quiet sound, (quiet_leaks _ _ quiet).trans ?_⟩
      simp [Drops, waits]
  | unsubscribing symbol =>
      refine ⟨kept, same.trans ?_⟩
      simp [Drops, waits]
  | stopping size rest =>
      obtain ⟨halted_, leaks⟩ := halted _ kept size rest
      refine ⟨halted_, leaks.trans (or_congr same ?_)⟩
      simp only [Drops, waits, Option.some.injEq, reduceCtorEq, false_and, exists_false, false_or, Wait.stopping.injEq]
      constructor
      · intro cleared
        obtain ⟨clears, place, held, runs⟩ := cleared
        exact ⟨size, rest, place, ⟨rfl, rfl⟩, clears, held, runs⟩
      · intro cleared
        obtain ⟨_, _, place, ⟨rfl, rfl⟩, clears, held, runs⟩ := cleared
        exact ⟨clears, place, held, runs⟩
  | starting place symbol channels =>
      have member : place ∈ feed.starts :=
        List.mem_filterMap.mpr ⟨_, List.mem_of_getElem? waits, rfl⟩
      obtain ⟨⟨name, seen⟩, free⟩ := sound.starting place member
      obtain ⟨instance_, there, about⟩ := Option.map_eq_some_iff.mp seen
      have named : instance_.name = name := congrArg Prod.fst about
      have gone : place ∉ ({ feed with waiting := feed.waiting.eraseIdx index } : MarketFeed).starts := by
        have apart := (perm_apart_starts feed index place symbol channels waits).nodup_iff.mp sound.distinct
        exact (List.nodup_cons.mp apart).1
      have unfolded : { feed with waiting := feed.waiting.eraseIdx index }.proceed settings (.starting place symbol channels)
          .returned = ({ feed with waiting := feed.waiting.eraseIdx index }.hold place name).join settings place name symbol
            channels := by
        simp only [proceed, there, named]
      obtain ⟨held, leaks⟩ := holding { feed with waiting := feed.waiting.eraseIdx index } kept place name seen free gone
      have quiet := quiet_join settings place name symbol channels
        ({ feed with waiting := feed.waiting.eraseIdx index }.hold place name)
      rw [unfolded]
      refine ⟨quiet_sound _ _ quiet held, (quiet_leaks _ _ quiet).trans (leaks.trans (or_congr same ?_))⟩
      simp only [Drops, waits, Option.some.injEq, reduceCtorEq, false_and, exists_false, or_false, Wait.starting.injEq]
      constructor
      · intro taken
        obtain ⟨other, found, runs⟩ := taken
        exact ⟨place, symbol, channels, instance_, other, ⟨rfl, rfl, rfl⟩, there, named ▸ found, runs⟩
      · intro taken
        obtain ⟨_, _, _, instance2, other, ⟨rfl, rfl, rfl⟩, at_, found, runs⟩ := taken
        rw [there] at at_
        rw [← Option.some.inj at_, named] at found
        exact ⟨other, found, runs⟩

theorem step_sound (settings : MarketSettings) (feed : MarketFeed) (action : Action) (sound : Sound feed) :
    Sound (feed.step settings action) ∧ (Leaks (feed.step settings action) ↔ Leaks feed ∨ Drops feed action) := by
  cases action with
  | call call =>
      obtain ⟨kept, same⟩ := call_sound settings feed call sound
      exact ⟨kept, same.trans (or_iff_left (fun drops => drops)).symm⟩
  | resume index outcome =>
      simp only [step]
      cases waits : feed.waiting[index]? with
      | none =>
          refine ⟨sound, (or_iff_left ?_).symm⟩
          cases outcome <;> simp [Drops, waits]
      | some at_ =>
          cases outcome with
          | returned => exact proceed_sound settings feed index at_ waits sound
          | raised =>
              have erased := quiet_erase feed index
              exact ⟨quiet_sound _ _ erased sound, (quiet_leaks _ _ erased).trans (or_iff_left (fun drops => drops)).symm⟩

-- Whatever calls overlap, a provider runs on unknown to the feed exactly where
-- two first uses of one name overlapped, or a first use overlapped a stop.
theorem leaks_exactly (settings : MarketSettings) (actions : List Action) :
    Leaks (Run.final (step settings) {} actions) ↔ ∃ before action after,
      actions = before ++ action :: after ∧ Drops (Run.final (step settings) {} before) action := by
  have start : Sound {} := ⟨fun _ _ found => (by cases found), List.forall_mem_nil _, List.nodup_nil⟩
  have happened := Run.final_iff_happened (step settings) Sound Leaks Drops
    (fun feed action sound => (step_sound settings feed action sound).1)
    (fun feed action sound => (step_sound settings feed action sound).2) {} actions start
  apply happened.trans
  apply or_iff_right
  intro leaks
  obtain ⟨place, ⟨_, there, _⟩, _⟩ := leaks
  cases there

end MarketFeed

open StreamConnection

inductive ConnectionEvent where
  | lost
  | restored
deriving DecidableEq

-- The states of a connection as the feed hears of them, with what it publishes.
structure Hearing where
  connection : WSConnection := {}
  reconnections : Nat := 0
  published : List ConnectionEvent := []

def Hearing.onProviderState (state : ConnectionState) (hearing : Hearing) : Hearing :=
  match state with
  | .reconnecting =>
      { hearing with reconnections := hearing.reconnections + 1, published := hearing.published ++ [.lost] }
  | .connected => { hearing with published := hearing.published ++ [.restored] }
  | _ => hearing

-- `_set_state` says nothing where the state is the same.
def Hearing.step (config : WSConnectionConfig) (hearing : Hearing) (event : Event) : Hearing :=
  let after := hearing.connection.step config event
  if after.state = hearing.connection.state then { hearing with connection := after }
  else { hearing with connection := after }.onProviderState after.state

-- Where the loop is about to connect, and where it sleeps.
structure Placed (connection : WSConnection) : Prop where
  ready : connection.phase = .connecting → connection.state = .connecting
  asleep : ∀ delay, connection.phase = .sleeping delay → connection.state = .reconnecting

theorem failure_state (config : WSConnectionConfig) (endless : config.maxRetries = 0) (connection : WSConnection)
    (jitter : Jitter) : (connection.afterFailure config jitter).state = .reconnecting ∧
      (connection.afterFailure config jitter).opened = connection.opened ∧
      (connection.afterFailure config jitter).phase ≠ .connecting := by
  unfold WSConnection.afterFailure
  dsimp only
  rw [if_neg (fun limit => limit.1 endless)]
  split
  · exact ⟨rfl, rfl, by simp⟩
  · exact ⟨rfl, rfl, by simp⟩

-- A step establishes a fresh connection, or it fails, or it wakes up, or the
-- state stays.
theorem step_states (config : WSConnectionConfig) (endless : config.maxRetries = 0) (connection : WSConnection)
    (event : Event) (placed : Placed connection) :
    let after := connection.step config event
    Placed after ∧
      ((after.state = .connected ∧ connection.state ≠ .connected ∧ after.opened = connection.opened + 1) ∨
        (after.opened = connection.opened ∧ after.state = .reconnecting) ∨
        (after.opened = connection.opened ∧ after.state = .connecting ∧ connection.state = .reconnecting) ∨
        (after.opened = connection.opened ∧ after.state = connection.state)) := by
  intro after
  have failure (other : WSConnection) (jitter : Jitter) (same : other.opened = connection.opened) :
      Placed (other.afterFailure config jitter) ∧
        (other.afterFailure config jitter).opened = connection.opened ∧
        (other.afterFailure config jitter).state = .reconnecting := by
    obtain ⟨state, opened, phase⟩ := failure_state config endless other jitter
    exact ⟨⟨fun ready => absurd ready phase, fun _ _ => state⟩, opened.trans same, state⟩
  unfold after WSConnection.step
  split
  · obtain ⟨kept, opened, state⟩ := failure connection _ rfl
    exact ⟨kept, .inr (.inl ⟨opened, state⟩)⟩
  · rename_i phase
    refine ⟨⟨by simp [WSConnection.afterConnect], by simp [WSConnection.afterConnect]⟩, .inl ⟨rfl, ?_, rfl⟩⟩
    rw [placed.ready phase]
    simp
  · exact ⟨⟨by simp, by simp⟩, .inr (.inr (.inr ⟨rfl, rfl⟩))⟩
  · obtain ⟨kept, opened, state⟩ := failure connection _ rfl
    exact ⟨kept, .inr (.inl ⟨opened, state⟩)⟩
  · exact ⟨⟨by simp, by simp⟩, .inr (.inr (.inr ⟨rfl, rfl⟩))⟩
  · exact ⟨⟨placed.ready, placed.asleep⟩, .inr (.inr (.inr ⟨rfl, rfl⟩))⟩
  · exact ⟨⟨by simp, by simp⟩, .inr (.inr (.inr ⟨rfl, rfl⟩))⟩
  · rename_i transport jitter phase
    obtain ⟨kept, opened, state⟩ := failure { connection with transport := none, closed := transport :: connection.closed }
      jitter rfl
    exact ⟨kept, .inr (.inl ⟨opened, state⟩)⟩
  · rename_i delay phase
    exact ⟨⟨by simp, by simp⟩, .inr (.inr (.inl ⟨rfl, rfl, placed.asleep delay phase⟩))⟩
  · exact ⟨placed, .inr (.inr (.inr ⟨rfl, rfl⟩))⟩

structure Told (hearing : Hearing) : Prop where
  placed : Placed hearing.connection
  restored : hearing.published.count .restored = hearing.connection.opened
  lost : hearing.published.count .lost = hearing.reconnections
  last : hearing.published.getLast? = some .restored ↔ hearing.connection.state = .connected
  between : hearing.connection.opened ≤ hearing.reconnections + if hearing.connection.state = .connected then 1 else 0

theorem step_told (config : WSConnectionConfig) (endless : config.maxRetries = 0) (hearing : Hearing) (event : Event)
    (told : Told hearing) : Told (hearing.step config event) := by
  obtain ⟨placed, moved⟩ := step_states config endless hearing.connection event told.placed
  have between := told.between
  unfold Hearing.step
  dsimp only at placed moved ⊢
  by_cases same : (hearing.connection.step config event).state = hearing.connection.state
  · rw [if_pos same]
    have opened : (hearing.connection.step config event).opened = hearing.connection.opened := by
      obtain fresh | failed | woken | stayed := moved
      · exact absurd (same.symm.trans fresh.1) fresh.2.1
      · exact failed.1
      · exact woken.1
      · exact stayed.1
    refine ⟨placed, told.restored.trans opened.symm, told.lost, ?_, ?_⟩
    · dsimp only
      rw [same]
      exact told.last
    · dsimp only
      rw [same, opened]
      exact between
  · rw [if_neg same]
    obtain fresh | failed | woken | stayed := moved
    · obtain ⟨state, before, opened⟩ := fresh
      rw [if_neg before] at between
      simp only [Hearing.onProviderState, state]
      refine ⟨placed, ?_, ?_, ?_, ?_⟩
      · simp [told.restored, opened]
      · simp [told.lost]
      · simp [state]
      · simp only [state, if_true, opened]
        omega
    · obtain ⟨opened, state⟩ := failed
      simp only [Hearing.onProviderState, state]
      refine ⟨placed, ?_, ?_, ?_, ?_⟩
      · simp [told.restored, opened]
      · simp [told.lost]
      · simp [state]
      · simp only [state, reduceCtorEq, if_false, opened]
        split at between <;> omega
    · obtain ⟨opened, state, before⟩ := woken
      rw [before] at between
      simp only [Hearing.onProviderState, state]
      refine ⟨placed, told.restored.trans opened.symm, told.lost, ?_, ?_⟩
      · apply told.last.trans
        simp [before, state]
      · simpa [state, opened] using between
    · exact absurd stayed.2 same

-- Who listens to the events knows the state: the last one says that the
-- connection is back exactly where it is up, and two returns have a loss
-- between them. The metric counts the losses, one for each failed attempt.
theorem announcements_follow (config : WSConnectionConfig) (endless : config.maxRetries = 0) (events : List Event) :
    Run.Always (Hearing.step config) (fun hearing =>
      (hearing.published.getLast? = some .restored ↔ hearing.connection.state = .connected) ∧
      hearing.published.count .restored = hearing.connection.opened ∧
      hearing.published.count .lost = hearing.reconnections ∧
      hearing.connection.opened ≤ hearing.reconnections + 1) {} events := by
  apply Run.always_of_invariant _ (fun _ _ => True) Told _ (fun hearing event told _ => step_told config endless hearing event told)
  · intro hearing told
    have between := told.between
    refine ⟨told.last, told.restored, told.lost, ?_⟩
    split at between <;> omega
  · exact ⟨⟨fun _ => rfl, fun _ asleep => by cases asleep⟩, rfl, rfl, by simp, Nat.zero_le _⟩
  · exact Run.each_of_all _ _ (fun _ _ => trivial) _ _

theorem announcements_follow_standard :
    let events := [.refused half, .woke, .opened, .returned, .message, .failed, .closed half]
    Run.Always (Hearing.step standard) (fun hearing =>
      (hearing.published.getLast? = some .restored ↔ hearing.connection.state = .connected) ∧
      hearing.published.count .restored = hearing.connection.opened ∧
      hearing.published.count .lost = hearing.reconnections ∧
      hearing.connection.opened ≤ hearing.reconnections + 1) {} events :=
  announcements_follow standard rfl _

end QuantEngine.FeedRouting
