import CredentialVault.Vault.Session

/-!
# The session cache

The cache holds at most one session. Observers are told of every change: a new observer is told the
present value at once, and each change is delivered to the observers that were registered when it
happened, in the order of their subscription. What observers do when they are told is data
(`Reaction`), and what they saw is a log of events, so that a run of the cache is a value. An
observer that fails is passed over: its failure ends what it does (`SessionCache.attend`), and is
caught where the value is handed over (`SessionCache.handOver`), so that the round goes on with the
next observer.

An observer that is told of a lock starts no further delivery, and one that is told of an unlock
starts at most one more round, which tells of a lock; this bounds every run.
-/

namespace CredentialVault

/-- What an observer does when it is told the value of the cache, after it has noted it. -/
inductive Reaction where
  /-- Nothing more. -/
  | watch
  /-- Fails at every delivery. -/
  | fail
  /-- Fails when told of a session. -/
  | failOnUnlock
  /-- Fails when told that there is none. -/
  | failOnLock
  /-- Fails at the deliveries of some numbers; the first one has the number 0. -/
  | failAt (numbers : List Nat)
  /-- Reads the cache and compares. -/
  | read
  /-- Cancels its own subscription. -/
  | unsubscribe
  /-- Clears the cache when told of a session. -/
  | clearOnUnlock
  /-- Subscribes another observer when told of a session. -/
  | subscribeOnUnlock
  /-- Notes the value as one that another observer subscribed. -/
  | watchNested
deriving DecidableEq, Repr

/-- Whether an observer fails at a delivery, which has a number and tells a value. -/
def Reaction.fails (number : Nat) (value : Option Session) : Reaction → Bool
  | fail => true
  | failOnUnlock => value.isSome
  | failOnLock => value.isNone
  | failAt numbers => numbers.contains number
  | watch | read | unsubscribe | clearOnUnlock | subscribeOnUnlock | watchNested => false

/-- What the observer `observer` noted; a session is noted by the id of its vault. -/
inductive Event where
  /-- It was told the value. -/
  | told (observer : Nat) (value : Option String)
  /-- As an observer that another one subscribed, it was told the value. -/
  | toldNested (observer : Nat) (value : Option String)
  /-- It read the value, which was or was not the session that it was told of. -/
  | read (observer : Nat) (value : Option String) (isSame : Bool)
  /-- It cancelled its subscription, with success or not; none while it did not know the
  subscription. -/
  | unsubscribed (observer : Nat) (result : Option Bool)
deriving DecidableEq, Repr

/-- A registered observer. -/
structure Subscription where
  /-- The id of the subscription. -/
  id : Nat
  /-- The number by which the observer notes events. -/
  observer : Nat
  /-- What the observer does. -/
  reaction : Reaction
deriving DecidableEq, Repr

/-- A value that was delivered to an observer. -/
structure Delivery where
  /-- The id of the subscription of the observer. -/
  subscription : Nat
  /-- The value. -/
  value : Option Session
deriving DecidableEq, Repr

/-- The slot for the current session, with its observers. -/
structure SessionCache where
  /-- The current session. -/
  slot : Option Session
  /-- The id of the next subscription. -/
  nextId : Nat
  /-- The observers, in the order of their subscription. -/
  subscriptions : List Subscription
  /-- What was delivered to observers, in order. -/
  deliveries : List Delivery
  /-- What observers noted, in order. -/
  events : List Event
deriving DecidableEq, Repr

/-- Runs an observer, which may fail. -/
abbrev ObserverM := ExceptT Unit (StateM SessionCache)

namespace SessionCache

/-- A cache without session and observers. -/
def empty : SessionCache := ⟨none, 0, [], [], []⟩

/-- The cache after an observer noted an event. -/
def note (cache : SessionCache) (event : Event) : SessionCache :=
  { cache with events := cache.events ++ [event] }

/-- The cache without a subscription, and whether there was one. -/
def unsubscribe (cache : SessionCache) (id : Nat) : Bool × SessionCache :=
  let kept := cache.subscriptions.filter (·.id ≠ id)
  (kept.length ≠ cache.subscriptions.length, { cache with subscriptions := kept })

/-- The cache with one more subscription, which has the id `cache.nextId`. -/
def register (cache : SessionCache) (observer : Nat) (reaction : Reaction) : SessionCache :=
  { cache with
    nextId := cache.nextId + 1
    subscriptions := cache.subscriptions ++ [⟨cache.nextId, observer, reaction⟩] }

/-- What was delivered to an observer so far. -/
def deliveriesTo (cache : SessionCache) (id : Nat) : List (Option Session) :=
  (cache.deliveries.filter (·.subscription = id)).map (·.value)

/-- What every observer does first when a value is delivered to it: it notes the value, and may read
the cache, cancel its subscription, or fail. In a replay the observer does not know its subscription
yet. -/
def attend (subscription : Subscription) (number : Nat) (value : Option Session) (isReplay : Bool) :
    ObserverM Unit := do
  let observer := subscription.observer
  let vaultId := value.map (·.vaultId)
  match subscription.reaction with
  | .watchNested => modify (·.note (.toldNested observer vaultId))
  | .read =>
    modify (·.note (.told observer vaultId))
    modify fun cache => cache.note
      (.read observer (cache.slot.map (·.vaultId)) (value.isSome && value == cache.slot))
  | .unsubscribe =>
    modify (·.note (.told observer vaultId))
    if isReplay then modify (·.note (.unsubscribed observer none))
    else
      let result ← modifyGet (·.unsubscribe subscription.id)
      modify (·.note (.unsubscribed observer (some result)))
  | reaction =>
    modify (·.note (.told observer vaultId))
    if reaction.fails number value then throw ()

/-- The cache with one more delivery. -/
def noteDelivery (cache : SessionCache) (subscription : Subscription) (value : Option Session) :
    SessionCache :=
  { cache with deliveries := cache.deliveries ++ [⟨subscription.id, value⟩] }

/-- Delivers a value to an observer, and runs what the observer does with it, by the number of the
delivery. A failure is caught; otherwise it would end the round in which the observer is told. -/
def handOver (subscription : Subscription) (value : Option Session) (act : Nat → ObserverM Unit) :
    ObserverM Unit := do
  let number := ((← get).deliveriesTo subscription.id).length
  modify (·.noteDelivery subscription value)
  try act number
  catch _ => pure ()

/-- Does something for each of the observers registered now, until it fails for one of them. -/
def round (act : Subscription → ObserverM Unit) : ObserverM Unit := do
  for subscription in (← get).subscriptions do
    act subscription

/-- Delivers a value to an observer that does not call back into the cache. -/
def tell (subscription : Subscription) (value : Option Session) (isReplay : Bool) :
    ObserverM Unit :=
  handOver subscription value fun number => attend subscription number value isReplay

/-- Drops the session and tells the observers. -/
def drop : ObserverM Unit := do
  modify fun cache => { cache with slot := none }
  round fun subscription => tell subscription none false

/-- What an observer does with the cache after it attended to a value. -/
def callBack (subscription : Subscription) (value : Option Session) : ObserverM Unit :=
  match subscription.reaction, value with
  | .clearOnUnlock, some _ => drop
  | .subscribeOnUnlock, some _ => do
    let id := (← get).nextId
    modify (·.register subscription.observer .watchNested)
    tell ⟨id, subscription.observer, .watchNested⟩ (← get).slot true
  | _, _ => return

/-- Delivers a value to one observer. -/
def deliver (subscription : Subscription) (value : Option Session) (isReplay : Bool) :
    ObserverM Unit :=
  handOver subscription value fun number => do
    attend subscription number value isReplay
    callBack subscription value

/-- Holds a session in place of any other and tells the observers. -/
def hold (session : Session) : ObserverM Unit := do
  modify fun cache => { cache with slot := some session }
  round fun subscription => deliver subscription (some session) false

/-- The cache after the session was dropped and the observers were told. -/
def clear (cache : SessionCache) : SessionCache := (drop cache).2

/-- The cache after a session was put in place of any other and the observers were told. -/
def set (cache : SessionCache) (session : Session) : SessionCache := (hold session cache).2

/-- Drops the session of the given vault and tells the observers; does nothing when the slot holds
no session of that vault. The result says whether it did. -/
def clearVault (cache : SessionCache) (vaultId : String) : Bool × SessionCache :=
  if cache.slot.any (·.vaultId = vaultId) then (true, cache.clear) else (false, cache)

/-- Registers an observer and tells it the present value; the result is the id of the
subscription. -/
def subscribe (cache : SessionCache) (observer : Nat) (reaction : Reaction) :
    Nat × SessionCache :=
  let registered := cache.register observer reaction
  (cache.nextId,
    (deliver ⟨cache.nextId, observer, reaction⟩ registered.slot true registered).2)

/-- How a subscription is shown. -/
def subscriptionText (id : Nat) : String := s!"SubscriptionId({id})"

/-- The session of the given vault, if the slot holds one. -/
def sessionOf (cache : SessionCache) (vaultId : String) : Option Session :=
  cache.slot.filter (·.vaultId = vaultId)

end SessionCache

end CredentialVault
