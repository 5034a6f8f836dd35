import CredentialVault.Proofs.Operation
import CredentialVault.Vault.SessionCache

/-!
# What the session cache holds

Whatever observers do, after a session was put into the cache the slot holds that session or, if an
observer cleared the cache at once, none (`slot_set`). Without such an observer it holds the session
(`IsQuiet.set`). Clearing leaves the slot empty (`slot_clear`).
-/

namespace CredentialVault.SessionCache

open Operation

/-- No observer clears the cache when it is told of a session. -/
def IsQuiet (cache : SessionCache) : Prop :=
  ∀ subscription ∈ cache.subscriptions, subscription.reaction ≠ .clearOnUnlock

/-- A cache without observers is quiet. -/
theorem isQuiet_empty : empty.IsQuiet := by simp [IsQuiet, empty]

/-! ## Handing a value over -/

/-- What an observer does with a value is done after the delivery was noted, and no failure of it is
left. -/
theorem run_handOver (subscription : Subscription) (value : Option Session)
    (act : Nat → ObserverM Unit) (cache : SessionCache) :
    handOver subscription value act cache =
      (.ok (), (act (cache.deliveriesTo subscription.id).length
        (cache.noteDelivery subscription value)).2) := by
  unfold handOver
  rw [run_bind_of_ok (run_get cache), run_bind_of_ok (run_modify _ cache), run_tryCatch]
  split
  · next h => rw [h]
  · next h =>
    rw [h]
    rfl

section Rounds

variable {R : SessionCache → SessionCache → Prop} [Sequential R]

/-- To hand a value over stays within a relation when the noting of the delivery does, and what the
observer does. -/
theorem within_handOver {subscription : Subscription} {value : Option Session}
    (hnote : ∀ cache, R cache (cache.noteDelivery subscription value)) {act : Nat → ObserverM Unit}
    (hact : ∀ number, Within R (act number)) : Within R (handOver subscription value act) := by
  intro cache
  rw [run_handOver]
  exact Sequential.trans (hnote cache) (hact _ _)

/-- A round stays within a relation when it does so for each observer that is registered. -/
theorem within_round {act : Subscription → ObserverM Unit} {cache : SessionCache}
    (hact : ∀ s ∈ cache.subscriptions, Within R (act s)) : R cache (round act cache).2 := by
  unfold round
  rw [run_bind_of_ok (run_get cache)]
  exact Within.bind (.forIn hact) (fun _ => .pure _) cache

end Rounds

/-- A round in which every failure is caught reaches all observers that were registered when it
began. -/
theorem run_round {act : Subscription → ObserverM Unit} (h : ∀ s cache, (act s cache).1 = .ok ())
    (cache : SessionCache) :
    round act cache =
      (.ok (), cache.subscriptions.foldl (fun cache s => (act s cache).2) cache) := by
  unfold round
  rw [run_bind_of_ok (run_get cache)]
  exact run_bind_of_ok (run_forIn h cache)

/-- No failure of an observer is left when it was told a value. -/
theorem tell_ok (subscription : Subscription) (value : Option Session) (isReplay : Bool)
    (cache : SessionCache) : (tell subscription value isReplay cache).1 = .ok () :=
  congrArg Prod.fst (run_handOver ..)

/-- No failure of an observer is left when a value was delivered to it. -/
theorem deliver_ok (subscription : Subscription) (value : Option Session) (isReplay : Bool)
    (cache : SessionCache) : (deliver subscription value isReplay cache).1 = .ok () :=
  congrArg Prod.fst (run_handOver ..)

/-! ## Observers that do not call back -/

/-- What an observer can change when it is told a value: the slot stays, and nobody is
registered. -/
structure Told (cache cache' : SessionCache) : Prop where
  /-- The slot is as it was. -/
  slot : cache'.slot = cache.slot
  /-- Nobody is registered. -/
  subscriptions : ∀ s ∈ cache'.subscriptions, s ∈ cache.subscriptions

instance : Sequential Told where
  refl _ := ⟨rfl, fun _ h => h⟩
  trans h h' := ⟨h'.slot.trans h.slot, fun s hs => h.subscriptions s (h'.subscriptions s hs)⟩

/-- An observer that attends to a value changes no more than that, whether it fails or not. -/
theorem within_attend (subscription : Subscription) (number : Nat) (value : Option Session)
    (isReplay : Bool) : Within Told (attend subscription number value isReplay) := by
  have hnote : ∀ event : SessionCache → Event, Within Told
      (modify fun cache => cache.note (event cache) : ObserverM PUnit) :=
    fun _ => .modify fun _ => ⟨rfl, fun _ h => h⟩
  unfold attend
  dsimp only
  split
  · exact hnote _
  · exact (hnote _).bind fun _ => hnote _
  · refine (hnote _).bind fun _ => ?_
    split
    · exact hnote _
    · refine .bind (.modifyGet fun cache => ⟨rfl, fun s h => ?_⟩) fun _ => hnote _
      exact (List.mem_filter.mp h).1
  · refine (hnote _).bind fun _ => ?_
    split
    · exact .throw _
    · exact .pure _

/-- To tell an observer a value does not change the slot, and registers nobody. -/
theorem within_tell (subscription : Subscription) (value : Option Session) (isReplay : Bool) :
    Within Told (tell subscription value isReplay) :=
  within_handOver (fun _ => ⟨rfl, fun _ h => h⟩) fun _ => within_attend _ _ _ _

/-- A cache that was cleared holds no session, and has no other observers than before. -/
theorem told_clear (cache : SessionCache) : Told { cache with slot := none } cache.clear :=
  within_round fun _ _ => within_tell _ _ _

/-- A cache that was cleared holds no session. -/
theorem slot_clear (cache : SessionCache) : cache.clear.slot = none :=
  cache.told_clear.slot

/-- A quiet cache stays quiet when nobody is registered. -/
theorem IsQuiet.of_told {cache cache' : SessionCache} (h : cache.IsQuiet) (htold : Told cache cache') :
    cache'.IsQuiet :=
  fun s hs => h s (htold.subscriptions s hs)

/-- A quiet cache stays quiet when it is cleared. -/
theorem IsQuiet.clear {cache : SessionCache} (h : cache.IsQuiet) : cache.clear.IsQuiet :=
  fun s hs => h s (cache.told_clear.subscriptions s hs)

/-! ## Observers that call back -/

/-- The slot is as it was, or empty. -/
def Empties (cache cache' : SessionCache) : Prop := cache'.slot = cache.slot ∨ cache'.slot = none

instance : Sequential Empties where
  refl _ := .inl rfl
  trans h h' := h'.elim (fun h' => h.imp h'.trans h'.trans) .inr

/-- Only an observer that clears the cache empties the slot when it calls back. -/
theorem within_callBack (subscription : Subscription) (session : Session) :
    Within Empties (callBack subscription (some session)) ∧
      (subscription.reaction ≠ .clearOnUnlock →
        Preserves (·.slot) (callBack subscription (some session))) := by
  unfold callBack
  split
  · next hreaction _ => exact ⟨fun cache => .inr (slot_clear cache), fun h => absurd hreaction h⟩
  · -- An observer registers another one, which is told of the session in its turn.
    have hnested : Preserves (·.slot) (do
        let id := (← get).nextId
        modify (·.register subscription.observer .watchNested)
        tell ⟨id, subscription.observer, .watchNested⟩ (← get).slot true : ObserverM Unit) :=
      .bind .get fun _ => .bind (.modify fun _ => rfl) fun _ => .bind .get fun _ cache =>
        (within_tell _ _ _ cache).slot
    exact ⟨fun cache => .inl (hnested cache), fun _ => hnested⟩
  · exact ⟨.pure _, fun _ => .pure _⟩

/-- An observer that is told of a session leaves the slot as it is or empties it; only an observer
that clears the cache empties it. -/
theorem within_deliver (subscription : Subscription) (session : Session) (isReplay : Bool) :
    Within Empties (deliver subscription (some session) isReplay) ∧
      (subscription.reaction ≠ .clearOnUnlock →
        Preserves (·.slot) (deliver subscription (some session) isReplay)) := by
  obtain ⟨hempties, hslot⟩ := within_callBack subscription session
  constructor
  · refine within_handOver (fun _ => .inl rfl) fun _ => .bind (fun cache => ?_) fun _ => hempties
    exact .inl (within_attend _ _ _ _ cache).slot
  · intro hreaction
    refine within_handOver (R := Same (·.slot)) (fun _ => rfl) fun _ =>
      .bind (fun cache => ?_) fun _ => hslot hreaction
    exact (within_attend _ _ _ _ cache).slot

/-- A quiet cache stays quiet when an observer calls back. -/
theorem keeps_isQuiet_callBack (subscription : Subscription) (session : Session) :
    Within (Keeps IsQuiet) (callBack subscription (some session)) := by
  unfold callBack
  split
  · exact fun _ h => h.clear
  · -- The observer that is registered meanwhile only watches.
    refine .bind .get fun _ => .bind (.modify fun cache h s hs => ?_) fun _ => .bind .get fun _ =>
      fun cache h => h.of_told (within_tell _ _ _ cache)
    rcases List.mem_append.mp hs with hs | hs
    · exact h s hs
    · rw [List.mem_singleton.mp hs]
      exact nofun
  · exact .pure _

/-- A quiet cache stays quiet when an observer is told of a session. -/
theorem keeps_isQuiet_deliver (subscription : Subscription) (session : Session) (isReplay : Bool) :
    Within (Keeps IsQuiet) (deliver subscription (some session) isReplay) :=
  within_handOver (fun _ h => h) fun _ =>
    .bind (fun cache h => h.of_told (within_attend _ _ _ _ cache)) fun _ =>
      keeps_isQuiet_callBack _ _

/-! ## All observers -/

/-- A session that was put into the cache is there, or an observer cleared the cache at once. -/
theorem slot_set (cache : SessionCache) (session : Session) :
    (cache.set session).slot = some session ∨ (cache.set session).slot = none := by
  have htold : Empties { cache with slot := some session } (cache.set session) :=
    within_round fun s _ => (within_deliver s session false).1
  exact htold

/-- A quiet cache holds the session that was put into it, and stays quiet. -/
theorem IsQuiet.set {cache : SessionCache} (h : cache.IsQuiet) (session : Session) :
    (cache.set session).slot = some session ∧ (cache.set session).IsQuiet := by
  have htold : Same (·.slot) { cache with slot := some session } (cache.set session) :=
    within_round fun s hs => (within_deliver s session false).2 (h s hs)
  have hquiet : Keeps IsQuiet { cache with slot := some session } (cache.set session) :=
    within_round fun s _ => keeps_isQuiet_deliver s session false
  exact ⟨htold, hquiet h⟩

/-- The session of a vault is dropped if there is one. -/
theorem clearVault_fst (cache : SessionCache) (vaultId : String) :
    (cache.clearVault vaultId).1 = cache.slot.any (·.vaultId = vaultId) := by
  unfold clearVault
  split
  · next hheld => exact hheld.symm
  · next hheld => exact (Bool.eq_false_iff.mpr hheld).symm

/-- To clear the session of a vault empties the slot if it holds one of the vault, and changes
nothing else. -/
theorem clearVault_snd (cache : SessionCache) (vaultId : String) :
    (cache.clearVault vaultId).2 =
      if cache.slot.any (·.vaultId = vaultId) then cache.clear else cache := by
  unfold clearVault
  split <;> rfl

/-- A quiet cache stays quiet when the session of a vault is cleared. -/
theorem IsQuiet.clearVault {cache : SessionCache} (h : cache.IsQuiet) (vaultId : String) :
    (cache.clearVault vaultId).2.IsQuiet := by
  rw [clearVault_snd]
  split
  · exact h.clear
  · exact h

/-- After the session of a vault was cleared, the slot holds none of the vault, and any other
session that it held. -/
theorem slot_clearVault (cache : SessionCache) (vaultId : String) :
    (cache.clearVault vaultId).2.slot = cache.slot.filter (·.vaultId ≠ vaultId) := by
  rw [clearVault_snd]
  rcases hslot : cache.slot with _ | session
  · simp [hslot]
  · by_cases hid : session.vaultId = vaultId
    · simp [Option.filter, hid, slot_clear]
    · simp [Option.filter, hid, hslot]

/-- The session of a vault is the one in the slot. -/
theorem sessionOf_eq_some {cache : SessionCache} {vaultId : String} {session : Session} :
    cache.sessionOf vaultId = some session ↔ cache.slot = some session ∧ session.vaultId = vaultId := by
  simp [sessionOf, Option.filter_eq_some_iff]

/-- A session that is put into the cache is the only one that can be there. -/
theorem sessionOf_set {cache : SessionCache} {session found : Session} {vaultId : String}
    (h : (cache.set session).sessionOf vaultId = some found) :
    found = session ∧ session.vaultId = vaultId := by
  rw [sessionOf_eq_some] at h
  rcases cache.slot_set session with hslot | hslot <;> rw [hslot] at h
  · obtain ⟨hfound, hid⟩ := h
    obtain rfl := Option.some.inj hfound
    exact ⟨rfl, hid⟩
  · cases h.1

/-- After the session of a vault was cleared, there is none of the vault. -/
theorem sessionOf_clearVault_self (cache : SessionCache) (vaultId : String) :
    (cache.clearVault vaultId).2.sessionOf vaultId = none := by
  rw [sessionOf, slot_clearVault]
  rcases cache.slot with _ | session
  · rfl
  · by_cases hid : session.vaultId = vaultId <;> simp [Option.filter, hid]

/-- A session that is there after the session of some vault was cleared was there before. -/
theorem sessionOf_clearVault {cache : SessionCache} {session : Session} {vaultId other : String}
    (h : (cache.clearVault other).2.sessionOf vaultId = some session) :
    cache.sessionOf vaultId = some session := by
  rw [sessionOf_eq_some, slot_clearVault, Option.filter_eq_some_iff] at h
  exact sessionOf_eq_some.mpr ⟨h.1.1, h.2⟩

end CredentialVault.SessionCache
