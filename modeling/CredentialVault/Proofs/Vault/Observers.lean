import Mathlib.Data.List.Basic
import Mathlib.Data.List.Induction
import CredentialVault.Proofs.Vault.SessionCache

/-!
# What observers are told

Observers that do not call back into the cache are told of every change exactly once and in order,
whichever of them fail, and at whichever deliveries. Such a cache is seen as its session, the ids of
its subscriptions, and what was delivered (`CacheView`): every step changes this view by itself
(`CacheStep.run_view`), in a way that knows nothing of what observers do. What each observer is told
follows from the view alone (`CacheView.deliveriesTo_after`), and with it all that is said of runs
that begin with an empty cache (`observers_told`).
-/

namespace CredentialVault

open Operation

/-! ## Steps of a cache -/

/-- A step of a cache. -/
inductive CacheStep where
  /-- Holds a session. -/
  | set (session : Session)
  /-- Drops the session. -/
  | clear
  /-- Drops the session of a vault. -/
  | clearVault (vaultId : String)
  /-- Registers an observer. -/
  | subscribe (observer : Nat) (reaction : Reaction)
  /-- Cancels a subscription. -/
  | unsubscribe (id : Nat)
deriving DecidableEq

/-- What a step of a cache gives. -/
inductive CacheAnswer where
  /-- Nothing. -/
  | done
  /-- Whether something was dropped or cancelled. -/
  | was (result : Bool)
  /-- The id of a subscription. -/
  | subscribed (id : Nat)
deriving DecidableEq, Repr

/-- The id of a subscription that an answer gives, if it does. -/
def CacheAnswer.id? : CacheAnswer → Option Nat
  | subscribed id => some id
  | done | was _ => none

/-- An observer does not call back into the cache; it may fail. -/
def Reaction.IsPassive : Reaction → Prop
  | watch | fail | failOnUnlock | failOnLock | failAt _ | watchNested => True
  | read | unsubscribe | clearOnUnlock | subscribeOnUnlock => False

namespace CacheStep

/-- The step of the cache. -/
def run : CacheStep → SessionCache → CacheAnswer × SessionCache
  | set session, cache => (.done, cache.set session)
  | clear, cache => (.done, cache.clear)
  | clearVault vaultId, cache => (cache.clearVault vaultId).map .was id
  | subscribe observer reaction, cache => (cache.subscribe observer reaction).map .subscribed id
  | unsubscribe name, cache => (cache.unsubscribe name).map .was id

/-- The observers that a step registers do not call back into the cache. -/
def IsPassive : CacheStep → Prop
  | subscribe _ reaction => reaction.IsPassive
  | set _ | clear | clearVault _ | unsubscribe _ => True

/-- The step with an observer that never fails. -/
def calm : CacheStep → CacheStep
  | subscribe observer _ => subscribe observer .watch
  | step => step

/-- A step with an observer that never fails is passive. -/
theorem isPassive_calm (step : CacheStep) : step.calm.IsPassive := by
  cases step <;> trivial

/-- What a step tells all observers, if it changes the session, by the session that there is. -/
def tells (slot : Option Session) : CacheStep → Option (Option Session)
  | set session => some (some session)
  | clear => some none
  | clearVault vaultId => if slot.any (·.vaultId = vaultId) then some none else none
  | subscribe .. | unsubscribe _ => none

end CacheStep

namespace SessionCache

/-- The cache after some steps. -/
def after (cache : SessionCache) (steps : List CacheStep) : SessionCache :=
  steps.foldl (fun cache step => (step.run cache).2) cache

/-- What the steps give, one after another. -/
def answers : List CacheStep → SessionCache → List CacheAnswer
  | [], _ => []
  | step :: steps, cache => (step.run cache).1 :: answers steps (step.run cache).2

/-- What steps tell all observers, one after another. -/
def transitions (slot : Option Session) : List CacheStep → List (Option Session)
  | [] => []
  | step :: steps =>
    (step.tells slot).toList ++ transitions ((step.tells slot).getD slot) steps

end SessionCache

/-! ## What is seen of a cache -/

/-- What is seen of a cache: all but what its observers do. -/
structure CacheView where
  /-- The session. -/
  slot : Option Session
  /-- The ids of the subscriptions, in their order. -/
  registered : List Nat
  /-- The id of the next subscription. -/
  nextId : Nat
  /-- What was delivered. -/
  deliveries : List Delivery
deriving DecidableEq, Repr

/-- What is seen of a cache. -/
def SessionCache.view (cache : SessionCache) : CacheView :=
  ⟨cache.slot, cache.subscriptions.map (·.id), cache.nextId, cache.deliveries⟩

namespace CacheStep

/-- What a step gives. -/
def answer (view : CacheView) : CacheStep → CacheAnswer
  | set _ | clear => .done
  | clearVault vaultId => .was (view.slot.any (·.vaultId = vaultId))
  | subscribe .. => .subscribed view.nextId
  | unsubscribe id => .was (view.registered.contains id)

/-- What a step delivers: the session that there is to a new observer, and a change to all observers
in the order of their subscription. -/
def delivers (view : CacheView) : CacheStep → List Delivery
  | subscribe .. => [⟨view.nextId, view.slot⟩]
  | step => (step.tells view.slot).toList.flatMap fun value => view.registered.map (⟨·, value⟩)

/-- The subscriptions after a step. -/
def registers (view : CacheView) : CacheStep → List Nat
  | subscribe .. => view.registered ++ [view.nextId]
  | unsubscribe id => view.registered.filter (· ≠ id)
  | set _ | clear | clearVault _ => view.registered

/-- The id of the next subscription after a step. -/
def nextId (view : CacheView) : CacheStep → Nat
  | subscribe .. => view.nextId + 1
  | set _ | clear | clearVault _ | unsubscribe _ => view.nextId

/-- What is seen after a step. -/
def act (step : CacheStep) (view : CacheView) : CacheView where
  slot := (step.tells view.slot).getD view.slot
  registered := step.registers view
  nextId := step.nextId view
  deliveries := view.deliveries ++ step.delivers view

end CacheStep

namespace SessionCache

/-- The observers of a cache do not call back into it. -/
def IsPassive (cache : SessionCache) : Prop :=
  ∀ subscription ∈ cache.subscriptions, subscription.reaction.IsPassive

/-- A cache without observers is passive. -/
theorem isPassive_empty : empty.IsPassive := nofun

/-- What stays when an observer attends to a value without calling back: all but what observers
note. -/
def standing (cache : SessionCache) :
    Option Session × Nat × List Subscription × List Delivery :=
  (cache.slot, cache.nextId, cache.subscriptions, cache.deliveries)

variable {subscription : Subscription}

/-- An observer that does not call back attends to a value and leaves the cache standing, whether it
fails or not. -/
theorem preserves_attend (h : subscription.reaction.IsPassive) (number : Nat) (value : Option Session)
    (isReplay : Bool) : Preserves standing (attend subscription number value isReplay) := by
  have hnote : ∀ event, Preserves standing (modify (·.note event) : ObserverM PUnit) :=
    fun _ => .modify fun _ => rfl
  unfold attend
  dsimp only
  split
  · exact hnote _
  · -- An observer that calls back is not passive; here, one that reads.
    next hread =>
    rw [hread] at h
    cases h
  · next hunsubscribe =>
    rw [hunsubscribe] at h
    cases h
  · refine (hnote _).bind fun _ => ?_
    split
    · exact .throw _
    · exact .pure _

/-- An observer that does not call back is told a value, and nothing else happens that stays. -/
theorem standing_tell (h : subscription.reaction.IsPassive) (value : Option Session)
    (isReplay : Bool) (cache : SessionCache) : (tell subscription value isReplay cache).2.standing =
      (cache.noteDelivery subscription value).standing := by
  unfold tell
  rw [run_handOver]
  exact preserves_attend h _ _ _ _

/-- To deliver a value to an observer that does not call back is to tell it the value. -/
theorem deliver_eq_tell (h : subscription.reaction.IsPassive) (value : Option Session)
    (isReplay : Bool) : deliver subscription value isReplay = tell subscription value isReplay := by
  have hnone : callBack subscription value = pure () := by
    unfold callBack
    cases hreaction : subscription.reaction with
    | clearOnUnlock | subscribeOnUnlock =>
      rw [hreaction] at h
      cases h
    | watch | fail | failOnUnlock | failOnLock | failAt | read | unsubscribe | watchNested => rfl
  unfold deliver tell
  rw [hnone]
  simp only [bind_pure_unit]

/-- Observers that do not call back are told a value one after another. -/
theorem standing_foldl_tell {subscriptions : List Subscription}
    (h : ∀ s ∈ subscriptions, s.reaction.IsPassive) (value : Option Session)
    (cache : SessionCache) :
    (subscriptions.foldl (fun cache s => (tell s value false cache).2) cache).standing =
      standing { cache with
        deliveries := cache.deliveries ++ subscriptions.map (⟨·.id, value⟩) } := by
  induction subscriptions generalizing cache with
  | nil => rw [List.foldl_nil, List.map_nil, List.append_nil]
  | cons subscription subscriptions ih =>
    have hhead := standing_tell (h subscription (by simp)) value false cache
    simp only [standing, noteDelivery, Prod.mk.injEq] at hhead ih ⊢
    obtain ⟨hslot, hnextId, hsubscriptions, hdeliveries⟩ := hhead
    obtain ⟨hslot', hnextId', hsubscriptions', hdeliveries'⟩ :=
      ih (fun s hs => h s (by simp [hs])) (tell subscription value false cache).2
    refine ⟨hslot'.trans hslot, hnextId'.trans hnextId, hsubscriptions'.trans hsubscriptions, ?_⟩
    rw [List.foldl_cons, hdeliveries', hdeliveries, List.map_cons, List.append_assoc,
      List.singleton_append]

variable {cache : SessionCache}

/-- What is seen of a cache, and that its observers do not call back, is told by what stands. -/
theorem view_of_standing {other : SessionCache} (h : cache.standing = other.standing)
    (hpassive : other.IsPassive) : cache.view = other.view ∧ cache.IsPassive := by
  simp only [standing, Prod.mk.injEq] at h
  obtain ⟨hslot, hnextId, hsubscriptions, hdeliveries⟩ := h
  unfold view IsPassive
  rw [hslot, hnextId, hsubscriptions, hdeliveries]
  exact ⟨rfl, hpassive⟩

/-- When a session is put in place or dropped, the round reaches all observers, whichever fail. -/
theorem view_round (h : cache.IsPassive) (value : Option Session) :
    let told := (round (fun s => tell s value false) { cache with slot := value }).2
    told.view = { cache.view with
      slot := value
      deliveries := cache.view.deliveries ++ cache.view.registered.map (⟨·, value⟩) } ∧
        told.IsPassive := by
  intro told
  have hround : told = cache.subscriptions.foldl (fun cache s => (tell s value false cache).2)
      { cache with slot := value } :=
    congrArg Prod.snd (run_round (fun s => tell_ok s value false) { cache with slot := value })
  obtain ⟨hview, hpassive⟩ :=
    view_of_standing (standing_foldl_tell h value { cache with slot := value }) h
  rw [hround]
  refine ⟨hview.trans ?_, hpassive⟩
  unfold view
  rw [List.map_map]
  rfl

/-- To hold a session changes what is seen as the step does. -/
theorem view_set (h : cache.IsPassive) (session : Session) :
    (cache.set session).view = (CacheStep.set session).act cache.view ∧
      (cache.set session).IsPassive := by
  have htold := view_round h (some session)
  have hset : cache.set session =
      (round (fun s => tell s (some session) false) { cache with slot := some session }).2 := by
    refine (congrArg Prod.snd (run_round (fun s => deliver_ok s (some session) false) _)).trans ?_
    rw [run_round fun s => tell_ok s (some session) false]
    exact List.foldl_ext _ _ _ fun told s hs => by rw [deliver_eq_tell (h s hs)]
  rw [hset]
  refine ⟨htold.1.trans ?_, htold.2⟩
  simp [CacheStep.act, CacheStep.tells, CacheStep.delivers, CacheStep.registers, CacheStep.nextId]

/-- To drop the session changes what is seen as the step does. -/
theorem view_clear (h : cache.IsPassive) :
    cache.clear.view = CacheStep.clear.act cache.view ∧ cache.clear.IsPassive := by
  have htold := view_round h none
  refine ⟨htold.1.trans ?_, htold.2⟩
  simp [CacheStep.act, CacheStep.tells, CacheStep.delivers, CacheStep.registers, CacheStep.nextId]

/-- To drop the session of a vault is to drop the session if it is that of the vault, and nothing
otherwise. -/
theorem view_clearVault (h : cache.IsPassive) (vaultId : String) :
    (cache.clearVault vaultId).2.view = (CacheStep.clearVault vaultId).act cache.view ∧
      (cache.clearVault vaultId).2.IsPassive := by
  rw [clearVault_snd]
  by_cases hheld : cache.slot.any (·.vaultId = vaultId) = true
  · have hloud : (CacheStep.clearVault vaultId).tells cache.view.slot = some none := if_pos hheld
    have htold := view_round h none
    rw [if_pos hheld]
    refine ⟨htold.1.trans ?_, htold.2⟩
    simp [CacheStep.act, CacheStep.delivers, CacheStep.registers, CacheStep.nextId, hloud]
  · have hquiet : (CacheStep.clearVault vaultId).tells cache.view.slot = none := if_neg hheld
    rw [if_neg hheld]
    refine ⟨?_, h⟩
    simp [CacheStep.act, CacheStep.delivers, CacheStep.registers, CacheStep.nextId, hquiet]

/-- To subscribe an observer that does not call back changes what is seen as the step does. -/
theorem view_subscribe (h : cache.IsPassive) {reaction : Reaction} (hreaction : reaction.IsPassive)
    (observer : Nat) :
    (cache.subscribe observer reaction).2.view =
        (CacheStep.subscribe observer reaction).act cache.view ∧
      (cache.subscribe observer reaction).2.IsPassive := by
  have hregistered : (cache.register observer reaction).IsPassive := by
    intro s hs
    rcases List.mem_append.mp hs with hs | hs
    · exact h s hs
    · rw [List.mem_singleton.mp hs]
      exact hreaction
  -- The observer is registered first, and then told alone what the cache has.
  let subscription : Subscription := ⟨cache.nextId, observer, reaction⟩
  have hpassive : subscription.reaction.IsPassive := hreaction
  have htold := view_of_standing
    (standing_tell hpassive cache.slot true (cache.register observer reaction)) hregistered
  rw [← deliver_eq_tell hpassive] at htold
  refine ⟨htold.1.trans ?_, htold.2⟩
  simp [CacheStep.act, CacheStep.tells, CacheStep.delivers, CacheStep.registers, CacheStep.nextId,
    view, register, noteDelivery, subscription]

/-- A subscription is cancelled if there is one with the id. -/
theorem unsubscribe_fst (cache : SessionCache) (id : Nat) :
    (cache.unsubscribe id).1 = (cache.subscriptions.map (·.id)).contains id := by
  simp [unsubscribe]

/-- To cancel a subscription changes what is seen as the step does. -/
theorem view_unsubscribe (h : cache.IsPassive) (id : Nat) :
    (cache.unsubscribe id).2.view = (CacheStep.unsubscribe id).act cache.view ∧
      (cache.unsubscribe id).2.IsPassive := by
  refine ⟨?_, fun s hs => h s (List.mem_filter.mp hs).1⟩
  simp [CacheStep.act, CacheStep.tells, CacheStep.delivers, CacheStep.registers, CacheStep.nextId,
    view, unsubscribe, List.filter_map, Function.comp_def]

end SessionCache

/-- When the observers of a cache do not call back, a step gives what is told by what is seen of the
cache, and changes this by itself. -/
theorem CacheStep.run_view {cache : SessionCache} (hcache : cache.IsPassive) {step : CacheStep}
    (hstep : step.IsPassive) :
    (step.run cache).1 = step.answer cache.view ∧
      (step.run cache).2.view = step.act cache.view ∧ (step.run cache).2.IsPassive := by
  cases step with
  | set session => exact ⟨rfl, SessionCache.view_set hcache session⟩
  | clear => exact ⟨rfl, SessionCache.view_clear hcache⟩
  | clearVault vaultId =>
    exact ⟨congrArg CacheAnswer.was (cache.clearVault_fst vaultId),
      SessionCache.view_clearVault hcache vaultId⟩
  | subscribe observer reaction => exact ⟨rfl, SessionCache.view_subscribe hcache hstep observer⟩
  | unsubscribe id =>
    exact ⟨congrArg CacheAnswer.was (cache.unsubscribe_fst id),
      SessionCache.view_unsubscribe hcache id⟩

/-! ## What is seen of runs -/

namespace CacheView

/-- What is seen after some steps. -/
def after (view : CacheView) (steps : List CacheStep) : CacheView :=
  steps.foldl (fun view step => step.act view) view

/-- What the steps give, one after another. -/
def answers : List CacheStep → CacheView → List CacheAnswer
  | [], _ => []
  | step :: steps, view => step.answer view :: answers steps (step.act view)

/-- What was delivered to an observer. -/
def deliveriesTo (view : CacheView) (id : Nat) : List (Option Session) :=
  (view.deliveries.filter (·.subscription = id)).map (·.value)

/-- What is seen of a cache without session and observers. -/
def empty : CacheView := ⟨none, [], 0, []⟩

/-- What is seen after one more step. -/
theorem after_concat (view : CacheView) (steps : List CacheStep) (step : CacheStep) :
    view.after (steps ++ [step]) = step.act (view.after steps) := by
  rw [after, List.foldl_append]
  rfl

end CacheView

namespace SessionCache

variable {cache : SessionCache} {steps : List CacheStep}

/-- Steps give what is told by what is seen of the cache, and change this by themselves. -/
theorem view_after (hcache : cache.IsPassive) (hsteps : ∀ step ∈ steps, step.IsPassive) :
    answers steps cache = CacheView.answers steps cache.view ∧
      (cache.after steps).view = cache.view.after steps ∧ (cache.after steps).IsPassive := by
  induction steps generalizing cache with
  | nil => exact ⟨rfl, rfl, hcache⟩
  | cons step steps ih =>
    obtain ⟨hanswer, hview, hpassive⟩ := CacheStep.run_view hcache (hsteps step (by simp))
    obtain ⟨hanswers, hviews, hlast⟩ := ih hpassive fun step hstep => hsteps step (by simp [hstep])
    rw [hview] at hanswers hviews
    refine ⟨?_, hviews, hlast⟩
    rw [answers, CacheView.answers, hanswer, hanswers]

end SessionCache

/-- What is seen does not depend on what observers do. -/
theorem CacheView.after_calm (view : CacheView) (steps : List CacheStep) :
    answers (steps.map CacheStep.calm) view = answers steps view ∧
      view.after (steps.map CacheStep.calm) = view.after steps := by
  induction steps generalizing view with
  | nil => exact ⟨rfl, rfl⟩
  | cons step steps ih =>
    obtain ⟨hanswers, hafter⟩ := ih (step.act view)
    have hact : step.calm.act view = step.act view := by cases step <;> rfl
    have hanswer : step.calm.answer view = step.answer view := by cases step <;> rfl
    constructor
    · rw [List.map_cons, answers, answers, hanswer, hact, hanswers]
    · rw [List.map_cons, after, List.foldl_cons, hact]
      exact hafter

/-! ## What is delivered -/

namespace CacheView

variable {view : CacheView} {step : CacheStep} {id : Nat}

/-- The ids of the subscriptions are in order, and all ids that were given are below the next
one. -/
structure Ordered (view : CacheView) : Prop where
  /-- The ids of the subscriptions are in order. -/
  sorted : view.registered.Pairwise (· < ·)
  /-- The ids of the subscriptions were given. -/
  below : ∀ id ∈ view.registered, id < view.nextId
  /-- The ids to which something was delivered were given. -/
  delivered : ∀ delivery ∈ view.deliveries, delivery.subscription < view.nextId

/-- What is delivered to an observer of the subscriptions is delivered to it once, to others not. -/
theorem filter_map_delivery {registered : List Nat} (h : registered.Pairwise (· < ·)) (id : Nat)
    (value : Option Session) :
    ((registered.map (⟨·, value⟩ : Nat → Delivery)).filter (·.subscription = id)).map (·.value) =
      if id ∈ registered then [value] else [] := by
  induction registered with
  | nil => rfl
  | cons first registered ih =>
    obtain ⟨hfirst, hrest⟩ := List.pairwise_cons.mp h
    rw [List.map_cons]
    by_cases hid : first = id
    · subst hid
      have hout : first ∉ registered := fun hmem => absurd (hfirst first hmem) (Nat.lt_irrefl first)
      rw [List.filter_cons_of_pos (by simp), List.map_cons, ih hrest, if_neg hout,
        if_pos List.mem_cons_self]
    · rw [List.filter_cons_of_neg (by simpa using hid), ih hrest]
      simp [Ne.symm hid]

/-- Ids are given in ascending order. -/
theorem nextId_le (step : CacheStep) : view.nextId ≤ step.nextId view := by
  cases step <;> simp [CacheStep.nextId]

/-- After a step the subscriptions are those that it did not cancel, and the one that it added. -/
theorem mem_registers : id ∈ step.registers view ↔
    (id ∈ view.registered ∧ step ≠ .unsubscribe id) ∨
      (id = view.nextId ∧ ∃ observer reaction, step = .subscribe observer reaction) := by
  cases step with
  | set | clear | clearVault => simp [CacheStep.registers]
  | subscribe => simp [CacheStep.registers]
  | unsubscribe other =>
    have hother : id ≠ other ↔ other ≠ id := ne_comm
    simp [CacheStep.registers, hother]

namespace Ordered

/-- A cache without observers is ordered. -/
theorem empty : Ordered .empty := ⟨.nil, nofun, nofun⟩

/-- A step keeps the order. -/
theorem act (h : view.Ordered) (step : CacheStep) : (step.act view).Ordered := by
  have hnext : view.nextId ≤ step.nextId view := nextId_le step
  have htold : ∀ delivery ∈ step.delivers view, delivery.subscription < step.nextId view := by
    intro delivery hmem
    cases step with
    | subscribe =>
      rw [List.mem_singleton.mp hmem]
      exact Nat.lt_succ_self _
    | set | clear | clearVault | unsubscribe =>
      obtain ⟨value, -, hmem⟩ := List.mem_flatMap.mp hmem
      obtain ⟨id, hid, rfl⟩ := List.mem_map.mp hmem
      exact h.below id hid
  refine ⟨?_, fun id hid => ?_, fun delivery hmem => ?_⟩
  · cases step with
    | set | clear | clearVault => exact h.sorted
    | subscribe =>
      refine List.pairwise_append.mpr
        ⟨h.sorted, List.pairwise_singleton _ _, fun id hid next hnext => ?_⟩
      rw [List.mem_singleton.mp hnext]
      exact h.below id hid
    | unsubscribe => exact h.sorted.filter _
  · rcases mem_registers.mp hid with ⟨hid, -⟩ | ⟨rfl, observer, reaction, rfl⟩
    · exact Nat.lt_of_lt_of_le (h.below id hid) hnext
    · exact Nat.lt_succ_self _
  · rcases List.mem_append.mp hmem with hmem | hmem
    · exact Nat.lt_of_lt_of_le (h.delivered delivery hmem) hnext
    · exact htold delivery hmem

/-- Steps keep the order. -/
theorem after (h : view.Ordered) (steps : List CacheStep) : (view.after steps).Ordered := by
  induction steps generalizing view with
  | nil => exact h
  | cons step steps ih => exact ih (h.act step)

/-- To an observer that is not registered yet nothing was delivered. -/
theorem deliveriesTo_nextId (h : view.Ordered) : view.deliveriesTo view.nextId = [] := by
  have hnone : view.deliveries.filter (·.subscription = view.nextId) = [] := by
    refine List.filter_eq_nil_iff.mpr fun delivery hmem => ?_
    have hbelow := h.delivered delivery hmem
    simp only [decide_eq_true_eq]
    omega
  rw [deliveriesTo, hnone, List.map_nil]

/-- A step tells an observer a change once, if it is registered. -/
theorem deliveriesTo_act (h : view.Ordered) (hid : id < view.nextId) (step : CacheStep) :
    (step.act view).deliveriesTo id = view.deliveriesTo id ++
      if id ∈ view.registered then (step.tells view.slot).toList else [] := by
  unfold deliveriesTo CacheStep.act
  rw [List.filter_append, List.map_append]
  refine congrArg _ ?_
  cases step with
  | subscribe observer reaction =>
    have hother : view.nextId ≠ id := by omega
    simp [CacheStep.delivers, CacheStep.tells, hother]
  | set | clear | clearVault | unsubscribe =>
    unfold CacheStep.delivers
    dsimp only
    generalize CacheStep.tells view.slot _ = told
    rcases told with _ | value
    · simp
    · rw [Option.toList_some, List.flatMap_singleton, filter_map_delivery h.sorted]

/-- An observer that is not registered is told nothing more. -/
theorem deliveriesTo_after_of_not_mem (h : view.Ordered) (hid : id < view.nextId)
    (hout : id ∉ view.registered) (steps : List CacheStep) :
    (view.after steps).deliveriesTo id = view.deliveriesTo id := by
  induction steps generalizing view with
  | nil => rfl
  | cons step steps ih =>
    have hnext : id < (step.act view).nextId := Nat.lt_of_lt_of_le hid (nextId_le step)
    have hstays : id ∉ (step.act view).registered := by
      intro hmem
      rcases mem_registers.mp hmem with ⟨hmem, -⟩ | ⟨rfl, -⟩
      · exact hout hmem
      · exact absurd hid (Nat.lt_irrefl _)
    have htold := h.deliveriesTo_act hid step
    rw [if_neg hout, List.append_nil] at htold
    rw [← htold]
    exact ih (h.act step) hnext hstays

/-- A registered observer is told every change until its subscription is cancelled. -/
theorem deliveriesTo_after (h : view.Ordered) (hid : id ∈ view.registered) (steps : List CacheStep) :
    (view.after steps).deliveriesTo id = view.deliveriesTo id ++
      SessionCache.transitions view.slot (steps.takeWhile (· ≠ .unsubscribe id)) := by
  induction steps generalizing view with
  | nil => exact (List.append_nil _).symm
  | cons step steps ih =>
    have htold := h.deliveriesTo_act (h.below id hid) step
    rw [if_pos hid] at htold
    by_cases hstep : step = .unsubscribe id
    · -- The step is the first that cancels the subscription: nothing that follows counts.
      subst hstep
      have hout : id ∉ ((CacheStep.unsubscribe id).act view).registered := by
        simp [CacheStep.act, CacheStep.registers]
      have hrest := (h.act (.unsubscribe id)).deliveriesTo_after_of_not_mem
        (h.below id hid) hout steps
      rw [List.takeWhile_cons_of_neg (by simp), SessionCache.transitions, List.append_nil]
      exact hrest.trans (htold.trans (List.append_nil _))
    · have hstays : id ∈ (step.act view).registered := mem_registers.mpr (.inl ⟨hid, hstep⟩)
      rw [List.takeWhile_cons_of_pos (by simpa using hstep), SessionCache.transitions,
        ← List.append_assoc, ← htold]
      exact ih (h.act step) hstays

/-- A new observer is told the session that there is. -/
theorem deliveriesTo_subscribe (h : view.Ordered) (observer : Nat) (reaction : Reaction) :
    ((CacheStep.subscribe observer reaction).act view).deliveriesTo view.nextId = [view.slot] := by
  have hnone := h.deliveriesTo_nextId
  unfold deliveriesTo at hnone ⊢
  rw [CacheStep.act, List.filter_append, List.map_append, hnone]
  simp [CacheStep.delivers]

/-- A new observer is told the session that there is, and then every change until its subscription
is cancelled. -/
theorem deliveriesTo_after_subscribe (h : view.Ordered) (observer : Nat) (reaction : Reaction)
    (steps : List CacheStep) :
    (view.after (.subscribe observer reaction :: steps)).deliveriesTo view.nextId =
      view.slot ::
        SessionCache.transitions view.slot (steps.takeWhile (· ≠ .unsubscribe view.nextId)) := by
  have hnew : view.nextId ∈ ((CacheStep.subscribe observer reaction).act view).registered :=
    mem_registers.mpr (.inr ⟨rfl, observer, reaction, rfl⟩)
  have htold := (h.act (.subscribe observer reaction)).deliveriesTo_after hnew steps
  rwa [h.deliveriesTo_subscribe] at htold

end Ordered

/-- What was delivered last to every registered observer is the session that there is. -/
def UpToDate (view : CacheView) : Prop :=
  ∀ id ∈ view.registered, (view.deliveriesTo id).getLast? = some view.slot

/-- A cache without observers is up to date. -/
theorem UpToDate.empty : UpToDate .empty := fun _ h => nomatch h

/-- A step keeps every registered observer up to date. -/
theorem UpToDate.act (h : view.UpToDate) (hordered : view.Ordered) (step : CacheStep) :
    (step.act view).UpToDate := by
  intro id hid
  rcases mem_registers.mp hid with ⟨hid, -⟩ | ⟨rfl, observer, reaction, rfl⟩
  · rw [hordered.deliveriesTo_act (hordered.below id hid), if_pos hid, CacheStep.act]
    rcases step.tells view.slot with _ | value
    · simpa using h id hid
    · simp
  · rw [hordered.deliveriesTo_subscribe]
    rfl

/-- Steps keep every registered observer up to date. -/
theorem UpToDate.after (h : view.UpToDate) (hordered : view.Ordered) (steps : List CacheStep) :
    (view.after steps).UpToDate := by
  induction steps generalizing view with
  | nil => exact h
  | cons step steps ih => exact ih (h.act hordered step) (hordered.act step)

/-! ## Which ids are registered -/

/-- An id is registered if a subscription was given it that was not cancelled since. -/
theorem mem_registered_after (steps : List CacheStep) (id : Nat) :
    id ∈ (empty.after steps).registered ↔ ∃ before observer reaction later,
      steps = before ++ .subscribe observer reaction :: later ∧ (empty.after before).nextId = id ∧
        .unsubscribe id ∉ later := by
  induction steps using List.reverseRecOn with
  | nil => simp [after, empty]
  | append_singleton steps step ih =>
    rw [after_concat, CacheStep.act, mem_registers, ih]
    constructor
    · rintro (⟨⟨before, observer, reaction, later, rfl, hnext, hlater⟩, hstep⟩ |
        ⟨hnext, observer, reaction, rfl⟩)
      · refine ⟨before, observer, reaction, later ++ [step], by simp, hnext, fun hmem => ?_⟩
        rcases List.mem_append.mp hmem with hmem | hmem
        · exact hlater hmem
        · exact hstep (List.mem_singleton.mp hmem).symm
      · exact ⟨steps, observer, reaction, [], rfl, hnext.symm, List.not_mem_nil⟩
    · rintro ⟨before, observer, reaction, later, heq, hnext, hlater⟩
      -- Either the last step subscribed the observer, or an earlier one did and the last kept it.
      rcases List.eq_nil_or_concat later with rfl | ⟨earlier, last, rfl⟩
      · obtain ⟨rfl, hlast⟩ := List.append_inj' heq rfl
        exact .inr ⟨hnext.symm, observer, reaction, List.singleton_inj.mp hlast⟩
      · rw [List.concat_eq_append, ← List.cons_append, ← List.append_assoc] at heq
        obtain ⟨rfl, hlast⟩ := List.append_inj' heq rfl
        obtain rfl := List.singleton_inj.mp hlast
        rw [List.concat_eq_append, List.mem_append, not_or] at hlater
        exact .inl ⟨⟨before, observer, reaction, earlier, rfl, hnext, hlater.1⟩,
          fun hstep => hlater.2 (List.mem_singleton.mpr hstep.symm)⟩

/-- The ids that are given ascend from the next one. -/
theorem pairwise_ids (steps : List CacheStep) (view : CacheView) :
    ((answers steps view).filterMap CacheAnswer.id?).Pairwise (· < ·) ∧
      ∀ id ∈ (answers steps view).filterMap CacheAnswer.id?, view.nextId ≤ id := by
  induction steps generalizing view with
  | nil => exact ⟨.nil, nofun⟩
  | cons step steps ih =>
    obtain ⟨hpairwise, hleast⟩ := ih (step.act view)
    have hother : ∀ id ∈ (answers steps (step.act view)).filterMap CacheAnswer.id?,
        view.nextId ≤ id :=
      fun id hid => Nat.le_trans (nextId_le step) (hleast id hid)
    cases step with
    | set | clear | clearVault | unsubscribe => exact ⟨hpairwise, hother⟩
    | subscribe =>
      have hids : ∀ observer reaction,
          (answers (.subscribe observer reaction :: steps) view).filterMap CacheAnswer.id? =
            view.nextId :: (answers steps ((CacheStep.subscribe observer reaction).act view)).filterMap
              CacheAnswer.id? := fun _ _ => rfl
      rw [hids]
      refine ⟨List.pairwise_cons.mpr ⟨hleast, hpairwise⟩, fun id hid => ?_⟩
      rcases List.mem_cons.mp hid with rfl | hid
      · exact Nat.le_refl _
      · exact hother id hid

end CacheView

/-! ## Runs of an empty cache -/

/-- Steps on a cache that was empty subscribed an observer under an id. -/
def SubscribedIn (steps before : List CacheStep) (id : Nat) (later : List CacheStep) : Prop :=
  ∃ observer reaction, steps = before ++ .subscribe observer reaction :: later ∧
    ((CacheStep.subscribe observer reaction).run (SessionCache.empty.after before)).1 = .subscribed id

section Runs

variable {steps before later : List CacheStep} {id : Nat}

/-- What is seen after steps of an empty cache. -/
theorem SessionCache.view_after_empty (h : ∀ step ∈ steps, step.IsPassive) :
    (SessionCache.empty.after steps).view = CacheView.empty.after steps :=
  (view_after isPassive_empty h).2.1

/-- The steps before an observer was subscribed are passive if all are. -/
theorem SubscribedIn.isPassive (h : SubscribedIn steps before id later)
    (hsteps : ∀ step ∈ steps, step.IsPassive) : ∀ step ∈ before, step.IsPassive := by
  obtain ⟨observer, reaction, rfl, -⟩ := h
  exact fun step hstep => hsteps step (by simp [hstep])

/-- The id of a subscription is the next one that is seen. -/
theorem subscribedIn_iff (h : ∀ step ∈ steps, step.IsPassive) : SubscribedIn steps before id later ↔
    ∃ observer reaction, steps = before ++ .subscribe observer reaction :: later ∧
      (CacheView.empty.after before).nextId = id := by
  refine exists_congr fun observer => exists_congr fun reaction => and_congr_right fun heq => ?_
  have hbefore : ∀ step ∈ before, step.IsPassive := fun step hstep => h step (by simp [heq, hstep])
  rw [← SessionCache.view_after_empty hbefore]
  exact CacheAnswer.subscribed.injEq _ _ ▸ Iff.rfl

/-- An observer was told the session that there was when it was subscribed, and then every change
until its subscription was cancelled. -/
theorem SubscribedIn.deliveriesTo_eq (h : SubscribedIn steps before id later)
    (hsteps : ∀ step ∈ steps, step.IsPassive) :
    (SessionCache.empty.after steps).deliveriesTo id = (SessionCache.empty.after before).slot ::
      SessionCache.transitions (SessionCache.empty.after before).slot
        (later.takeWhile (· ≠ .unsubscribe id)) := by
  have hslot : (SessionCache.empty.after before).slot = (CacheView.empty.after before).slot :=
    congrArg CacheView.slot (SessionCache.view_after_empty (h.isPassive hsteps))
  have hdelivered : (SessionCache.empty.after steps).deliveriesTo id =
      (CacheView.empty.after steps).deliveriesTo id :=
    congrArg (CacheView.deliveriesTo · id) (SessionCache.view_after_empty hsteps)
  obtain ⟨observer, reaction, heq, rfl⟩ := (subscribedIn_iff hsteps).mp h
  have hafter : CacheView.empty.after steps =
      (CacheView.empty.after before).after (.subscribe observer reaction :: later) := by
    rw [heq, CacheView.after, List.foldl_append]
    rfl
  rw [hdelivered, hafter, hslot]
  exact (CacheView.Ordered.empty.after before).deliveriesTo_after_subscribe observer reaction later

/-- A subscription is cancelled if its id was given and it was not cancelled since. -/
theorem SessionCache.unsubscribe_after (h : ∀ step ∈ steps, step.IsPassive) :
    ((SessionCache.empty.after steps).unsubscribe id).1 = true ↔
      ∃ before later, SubscribedIn steps before id later ∧ .unsubscribe id ∉ later := by
  have hregistered : (SessionCache.empty.after steps).subscriptions.map (·.id) =
      (CacheView.empty.after steps).registered := congrArg CacheView.registered (view_after_empty h)
  rw [unsubscribe_fst, hregistered, List.contains_iff_mem, CacheView.mem_registered_after]
  constructor
  · rintro ⟨before, observer, reaction, later, heq, hnext, hlater⟩
    exact ⟨before, later, (subscribedIn_iff h).mpr ⟨observer, reaction, heq, hnext⟩, hlater⟩
  · rintro ⟨before, later, hid, hlater⟩
    obtain ⟨observer, reaction, heq, hnext⟩ := (subscribedIn_iff h).mp hid
    exact ⟨before, observer, reaction, later, heq, hnext, hlater⟩

/-- Failures of observers change nothing of what is seen, and nothing of what steps give. -/
theorem SessionCache.after_calm (h : ∀ step ∈ steps, step.IsPassive) :
    (SessionCache.empty.after steps).view =
        (SessionCache.empty.after (steps.map CacheStep.calm)).view ∧
      answers steps .empty = answers (steps.map CacheStep.calm) .empty := by
  have hcalm : ∀ step ∈ steps.map CacheStep.calm, step.IsPassive := by
    intro step hstep
    obtain ⟨step, -, rfl⟩ := List.mem_map.mp hstep
    exact step.isPassive_calm
  obtain ⟨hanswers, hview, -⟩ := view_after isPassive_empty h
  obtain ⟨hanswers', hview', -⟩ := view_after isPassive_empty hcalm
  obtain ⟨hsame, hsame'⟩ := CacheView.after_calm SessionCache.empty.view steps
  exact ⟨by rw [hview, hview', hsame'], by rw [hanswers, hanswers', hsame]⟩

/-- Steps were made on an empty cache, with observers that do not call back into it and that may
fail at any deliveries. An observer was told the session that there was when it was subscribed, and
then, until its subscription was cancelled, every session that was held and every time that the
session was dropped; each step gave, delivered and registered what it should by what is seen of the
cache, in the order of the subscriptions; failures changed nothing of what is seen or given; and
every registered observer was told last what the cache has now. The session of a vault is dropped
exactly if the cache holds one of the vault, a subscription is cancelled exactly if its id was given
and it was not cancelled since, and ids ascend, so that none is given again. -/
theorem observers_told {steps : List CacheStep} (h : ∀ step ∈ steps, step.IsPassive) :
    let cache := SessionCache.empty.after steps
    (∀ before id later, SubscribedIn steps before id later →
      cache.deliveriesTo id = (SessionCache.empty.after before).slot ::
        SessionCache.transitions (SessionCache.empty.after before).slot
          (later.takeWhile (· ≠ .unsubscribe id))) ∧
    (∀ step : CacheStep, step.IsPassive →
      (step.run cache).1 = step.answer cache.view ∧ (step.run cache).2.view = step.act cache.view) ∧
    (cache.subscriptions.map (·.id)).Pairwise (· < ·) ∧
    (cache.view = (SessionCache.empty.after (steps.map CacheStep.calm)).view ∧
      SessionCache.answers steps .empty =
        SessionCache.answers (steps.map CacheStep.calm) .empty) ∧
    (∀ subscription ∈ cache.subscriptions,
      (cache.deliveriesTo subscription.id).getLast? = some cache.slot) ∧
    (∀ vaultId, (cache.clearVault vaultId).1 = true ↔
      ∃ session, cache.slot = some session ∧ session.vaultId = vaultId) ∧
    (∀ id, (cache.unsubscribe id).1 = true ↔
      ∃ before later, SubscribedIn steps before id later ∧ .unsubscribe id ∉ later) ∧
    ((SessionCache.answers steps .empty).filterMap CacheAnswer.id?).Pairwise (· < ·) := by
  intro cache
  obtain ⟨hanswers, -, hpassive⟩ := SessionCache.view_after SessionCache.isPassive_empty h
  have hview : cache.view = CacheView.empty.after steps := SessionCache.view_after_empty h
  have hordered : cache.view.Ordered := hview ▸ CacheView.Ordered.empty.after steps
  have hupToDate : cache.view.UpToDate :=
    hview ▸ CacheView.UpToDate.empty.after .empty steps
  have hrun : ∀ step : CacheStep, step.IsPassive →
      (step.run cache).1 = step.answer cache.view ∧ (step.run cache).2.view = step.act cache.view :=
    fun step hstep =>
      ⟨(CacheStep.run_view hpassive hstep).1, (CacheStep.run_view hpassive hstep).2.1⟩
  refine ⟨fun before id later hid => hid.deliveriesTo_eq h, hrun, hordered.sorted,
    SessionCache.after_calm h, fun subscription hmem => ?_, fun vaultId => ?_,
    fun id => SessionCache.unsubscribe_after h, hanswers ▸ (CacheView.pairwise_ids steps _).1⟩
  · exact hupToDate subscription.id (List.mem_map_of_mem hmem)
  · simp [cache.clearVault_fst, Option.any_eq_true]

end Runs

/-- Of two observers one fails when it is subscribed and the other always; both are told of the
session and of the lock, the second one until its subscription is cancelled, which succeeds once. -/
theorem observers_told_failing : ∃ session : Session,
    let steps : List CacheStep := [.subscribe 0 (.failAt [0]), .set session, .subscribe 1 .fail,
      .clearVault "default", .unsubscribe 1, .set session]
    let cache := SessionCache.empty.after steps
    (∀ step ∈ steps, step.IsPassive) ∧
      cache.deliveriesTo 0 = [none, some session, none, some session] ∧
      cache.deliveriesTo 1 = [some session, none] ∧
      (cache.unsubscribe 0).1 = true ∧ (cache.unsubscribe 1).1 = false ∧
      (cache.clearVault "default").1 = true := by
  let key : Keys.PrivateKey := ⟨List.replicate Keys.privateKeySize 1, List.length_replicate⟩
  let session : Session := ⟨"default", ⟨[]⟩, ⟨0⟩, key, key, ""⟩
  let steps : List CacheStep := [.subscribe 0 (.failAt [0]), .set session, .subscribe 1 .fail,
    .clearVault "default", .unsubscribe 1, .set session]
  have hpassive : ∀ step ∈ steps, step.IsPassive := by
    simp [steps, CacheStep.IsPassive, Reaction.IsPassive]
  obtain ⟨htold, -, -, -, -, hclear, hunsubscribe, -⟩ := observers_told hpassive
  have hfirst : SubscribedIn steps [] 0 (steps.drop 1) := ⟨0, .failAt [0], rfl, rfl⟩
  have hsecond : SubscribedIn steps (steps.take 2) 1 (steps.drop 3) := ⟨1, .fail, rfl, rfl⟩
  refine ⟨session, hpassive, (htold _ _ _ hfirst).trans ?_, (htold _ _ _ hsecond).trans ?_,
    (hunsubscribe 0).mpr ⟨[], _, hfirst, ?_⟩, ?_, (hclear _).mpr ⟨session, ?_, rfl⟩⟩
  · decide +kernel
  · decide +kernel
  · decide +kernel
  · decide +kernel
  · decide +kernel

end CredentialVault
