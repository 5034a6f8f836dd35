import CredentialVault.Proofs.Text.Hex
import CredentialVault.Proofs.Vault.LegacyKey
import CredentialVault.Proofs.Vault.MigrationUndo
import CredentialVault.Proofs.Vault.PublicFlags

/-!
# What the making of a vault leaves behind

A vault that was made leaves its record, the flags that describe it if they were free, and its
session in the cache (`LeavesBehind`, `create_leavesBehind`). If it took over a legacy key, the key
and its identifier are gone, and the marker of the registration has moved to the public key of the
vault (`TakenOver`); else no other flag has changed, and the counters were reset.
-/

namespace CredentialVault

open Operation VaultM

/-! ## What comes after the record was stored -/

namespace LegacyKey

/-- The flags after the legacy key was erased, and its identifier before it. -/
theorem erase_ok {s t : Store}
    (h : (do
      StoreM.removeFlag Flags.legacyPublicKey
      StoreM.removeFlag Flags.legacyPrivateKey : StoreM Unit) s = (.ok (), t)) (key : String) :
    t.flag? key =
      if key = Flags.legacyPrivateKey ∨ key = Flags.legacyPublicKey then none else s.flag? key := by
  obtain ⟨_, u, hpublic, hprivate⟩ := bind_ok h
  rw [(StoreM.removeFlag_ok hprivate).2, (StoreM.removeFlag_ok hpublic).2]
  by_cases hkey : key = Flags.legacyPrivateKey <;> simp [hkey]

/-- The flags after a move: the legacy key and its identifier are gone, and the marker, if there was
one, is where the new one belongs, and no longer where it was, unless that is the same. -/
theorem Traces.move_ok {traces : Traces} {s t : Store} (h : traces.move s = (.ok (), t))
    (key : String) :
    t.flag? key = if key = Flags.legacyPrivateKey ∨ key = Flags.legacyPublicKey then none else
      match traces.marker with
      | none => s.flag? key
      | some value =>
        if key = traces.newMarker then some value
        else if key = traces.oldMarker then none else s.flag? key := by
  unfold move at h
  rcases hmarker : traces.marker with _ | value <;> rw [hmarker] at h <;> dsimp only at h ⊢
  · exact erase_ok h key
  · obtain ⟨_, u, hnew, h₁⟩ := bind_ok h
    have hnew := (StoreM.setFlag_ok hnew).2
    by_cases hsame : traces.oldMarker = traces.newMarker
    · rw [if_neg (not_not_intro hsame)] at h₁
      rw [erase_ok h₁, hnew, hsame]
      refine ite_congr rfl (fun _ => rfl) fun _ => ?_
      by_cases hkey : key = traces.newMarker <;> simp [hkey]
    · rw [if_pos hsame] at h₁
      obtain ⟨_, v, hold, h₂⟩ := bind_ok h₁
      rw [erase_ok h₂, (StoreM.removeFlag_ok hold).2, hnew]
      refine ite_congr rfl (fun _ => rfl) fun _ => ?_
      by_cases hkey : key = traces.newMarker
      · rw [hkey, if_neg (Ne.symm hsame), if_pos rfl, if_pos rfl]
      · rw [if_neg hkey, if_neg hkey]

/-- A migration that ends has moved what was noted, and reset no counters. -/
theorem finish_ok {legacy : LegacyKey} {publicKeyHex : String} {w w' : World}
    (h : legacy.finish publicKeyHex w = (.ok (), w')) :
    w'.resets = w.resets ∧ ∀ key, w'.store.flag? key =
      if key = Flags.legacyPrivateKey ∨ key = Flags.legacyPublicKey then none else
        match w.store.flag? (Flags.registered legacy.identifier) with
        | none => w.store.flag? key
        | some value =>
          if key = Flags.registered publicKeyHex then some value
          else if key = Flags.registered legacy.identifier then none else w.store.flag? key := by
  rw [finish_eq] at h
  obtain ⟨traces, u, htraces, h₁⟩ := bind_ok h
  have hsame : Unwritten w u := (legacy.preserves_traces (fun _ _ => rfl) _).of_run htraces
  obtain rfl := traces_ok htraces
  rcases tryCatch_cases h₁ with ⟨_, -, hmove⟩ | ⟨e, v, -, hhandle⟩
  · obtain ⟨store, hmoved, rfl⟩ := onStore_run hmove
    refine ⟨hsame.resets, fun key => ?_⟩
    rw [Traces.move_ok hmoved key, hsame.flag? key]
  · obtain ⟨_, _, -, hthrow⟩ := bind_ok hhandle
    cases hthrow

end LegacyKey

/-- The keys for which counters are reset when there is a new one: that key, if there are any. -/
def Counters.keysReset : Counters → String → List String
  | absent, _ => []
  | present .., publicKeyHex => [publicKeyHex]

/-- Counters that were reset note the key, if there are any, and nothing else has changed. -/
theorem Counters.reset_ok {counters : Counters} {publicKeyHex : String} {w w' : World}
    (h : counters.reset publicKeyHex w = (.ok (), w')) :
    w' = { w with resets := w.resets ++ counters.keysReset publicKeyHex } := by
  cases counters with
  | absent =>
    cases h
    simp [keysReset]
  | present outcome breaksStore =>
    rw [reset_present] at h
    rcases houtcome : outcome w.resets publicKeyHex with e | _ <;> rw [houtcome] at h <;> cases h
    rfl

namespace Vault

/-! ## What is stored, and what is left -/

/-- A record that was stored, with what belongs to it: before what comes last, the flags are as they
were, but for those that describe a vault, and no counters were reset. -/
theorem persist_settled {vault : Vault} {record : VaultRecord} {legacy : Option LegacyKey}
    {w w' : World} (h : vault.persist record legacy w = (.ok (), w')) :
    ∃ described, (∀ key ∉ Flags.describing, described.store.flag? key = w.store.flag? key) ∧
      described.resets = w.resets ∧ vault.settle record legacy described = (.ok (), w') := by
  cases persist_run h with
  | @done takes w₁ w₂ w₃ _ howns hput hdescribe hsettle =>
    refine ⟨w₃, fun key hkey => ?_, ?_, hsettle⟩
    · have hframe := frame_flag key
      have hmiss : ∀ other ∈ Flags.describing, ∀ value, ¬FlagWrite key (.setFlag other value) := by
        intro other hother value hwrite
        exact hkey (flagWrite_setFlag.mp hwrite ▸ hother)
      calc w₃.store.flag? key
        _ = w₂.store.flag? key := (hframe.describeIf hmiss _ record).of_run hdescribe
        _ = w₁.store.flag? key := (hframe.put record nofun).of_run hput
        _ = w.store.flag? key := (unwritten_of_ownsFlags howns).flag? key
    · have hstore : ∀ {act : StoreM Unit}, Preserves World.resets (onStore act) := fun _ => rfl
      have hif : Preserves World.resets (if takes then onStore (describe record) else pure ()) := by
        split
        · exact hstore
        · exact .pure _
      exact (hif.of_run hdescribe).trans ((hstore.of_run hput).trans
        (unwritten_of_ownsFlags howns).resets)

end Vault

/-- The identifier under which a legacy key is registered: the stored one, or else its own. -/
def Store.legacyIdentifier (store : Store) (key : Keys.PrivateKey) : String :=
  (store.flag? Flags.legacyPublicKey).getD key.publicKeyHex

/-- A legacy key was taken over from one world to the other. -/
structure TakenOver (w w' : World) (key : Keys.PrivateKey) : Prop where
  /-- The flag of the legacy key held the 64 digits of the key, in either case. -/
  held : ∃ text, w.store.flag? Flags.legacyPrivateKey = some text ∧
    (Text.trim text).length = 64 ∧ Hex.Denotes (Text.trim text) key.bytes
  /-- The legacy key is gone. -/
  privateKey_gone : w'.store.flag? Flags.legacyPrivateKey = none
  /-- Its identifier is gone. -/
  publicKey_gone : w'.store.flag? Flags.legacyPublicKey = none
  /-- A marker of the identifier is now one of the public key, and none of the identifier, unless
  both are the same. -/
  marker_moved : ∀ value,
    w.store.flag? (Flags.registered (w.store.legacyIdentifier key)) = some value →
      w'.store.flag? (Flags.registered key.publicKeyHex) = some value ∧
        (Flags.registered (w.store.legacyIdentifier key) ≠ Flags.registered key.publicKeyHex →
          w'.store.flag? (Flags.registered (w.store.legacyIdentifier key)) = none)
  /-- Without such a marker no marker has changed. -/
  marker_left : w.store.flag? (Flags.registered (w.store.legacyIdentifier key)) = none →
    ∀ identity, w'.store.flag? (Flags.registered identity) =
      w.store.flag? (Flags.registered identity)
  /-- No other marker has changed. -/
  others : ∀ identity, Flags.registered identity ≠ Flags.registered key.publicKeyHex →
    Flags.registered identity ≠ Flags.registered (w.store.legacyIdentifier key) →
      w'.store.flag? (Flags.registered identity) = w.store.flag? (Flags.registered identity)
  /-- No counters were reset. -/
  resets : w'.resets = w.resets

/-- What the making of a vault leaves behind. -/
structure LeavesBehind (vault : Vault) (migrates : Bool) (w : World) (created : CreatedVault)
    (w' : World) : Prop where
  /-- The row of the vault reads as a record of the session, which the flags describe, if they named
  no stored vault. -/
  record : ∃ text record, w'.store.recordText? vault.id = some text ∧
    VaultRecord.ofStored text = .ok record ∧ record.id = vault.id ∧ record.version = 1 ∧
    record.salt.length = 32 ∧ record.envelope.iv.length = 12 ∧
    record.credentialId = created.session.credentialId ∧
    record.publicKeyHex = created.session.primaryKey.publicKeyHex ∧
    (¬w.store.NamesStored → w'.store.Describes record)
  /-- The other rows are as before. -/
  rows : ∀ id, id ≠ vault.id → w'.store.recordText? id = w.store.recordText? id
  /-- Flags that named a stored vault are as before. -/
  flags : w.store.NamesStored → ∀ key ∈ Flags.describing, w'.store.flag? key = w.store.flag? key
  /-- The session of the vault is in the cache, besides what was there. -/
  cache : created.session.vaultId = vault.id ∧ w'.cache = w.cache.set created.session
  /-- A key was taken over if that was wanted and there was one. -/
  isMigrated_iff : created.isMigrated = true ↔
    migrates = true ∧ (w.store.flag? Flags.legacyPrivateKey).isSome
  /-- If so, it is the primary key of the session. -/
  takenOver : created.isMigrated = true → TakenOver w w' created.session.primaryKey
  /-- If not, no flags but those that describe a vault have changed, and the counters were reset for
  the new public key, if there are any. -/
  fresh : created.isMigrated = false →
    (∀ key ∉ Flags.describing, w'.store.flag? key = w.store.flag? key) ∧
      w'.resets = w.resets ++
        vault.counters.keysReset created.session.primaryKey.publicKeyHex

/-- A marker does not describe a vault. -/
theorem Flags.registered_not_describing (identity : String) :
    registered identity ∉ describing := by
  intro hmem
  have hhead : ∀ key ∈ describing, key.toList.head? ≠ some 'r' := by decide
  exact registered_ne (hhead _ hmem) rfl

/-- The key that is taken over, if one is wanted and there is one. -/
theorem LegacyKey.found_cases {migrates : Bool} {store : Store} {legacy : Option LegacyKey}
    (h : if migrates then FoundIn store legacy else legacy = none) :
    (legacy = none ∧ ¬(migrates = true ∧ (store.flag? Flags.legacyPrivateKey).isSome)) ∨
      ∃ text key, migrates = true ∧ store.flag? Flags.legacyPrivateKey = some text ∧
        parse text = .ok key ∧ legacy = some ⟨key, store.legacyIdentifier key⟩ := by
  cases migrates with
  | false => exact .inl ⟨h, fun hwanted => Bool.false_ne_true hwanted.1⟩
  | true =>
    rw [if_pos rfl, FoundIn] at h
    rcases hflag : store.flag? Flags.legacyPrivateKey with _ | text <;> rw [hflag] at h
    · exact .inl ⟨h, fun hwanted => Bool.false_ne_true hwanted.2⟩
    · obtain ⟨key, hparse, rfl⟩ := h
      exact .inr ⟨text, key, rfl, rfl, hparse, rfl⟩

/-- A key that was found, and was moved to its own public key, was taken over. -/
theorem LegacyKey.takenOver_of_finish {w u v : World} {cache : SessionCache} {text : String}
    {key : Keys.PrivateKey} (hflag : w.store.flag? Flags.legacyPrivateKey = some text)
    (hparse : parse text = .ok key)
    (hflags : ∀ key ∉ Flags.describing, u.store.flag? key = w.store.flag? key)
    (hresets : u.resets = w.resets)
    (h : LegacyKey.finish ⟨key, w.store.legacyIdentifier key⟩ key.publicKeyHex u = (.ok (), v)) :
    TakenOver w { v with cache } key := by
  obtain ⟨hdenotes, hlength⟩ := Hex.decodeExact_ok (parse_ok hparse)
  obtain ⟨hkept, hmoved⟩ := finish_ok h
  -- What the flags of markers are after the move, told by what they were in the first world.
  have hmarker : ∀ identity, v.store.flag? (Flags.registered identity) =
      match w.store.flag? (Flags.registered (w.store.legacyIdentifier key)) with
      | none => w.store.flag? (Flags.registered identity)
      | some value =>
        if Flags.registered identity = Flags.registered key.publicKeyHex then some value
        else if Flags.registered identity = Flags.registered (w.store.legacyIdentifier key) then none
        else w.store.flag? (Flags.registered identity) := by
    intro identity
    have hnone : ¬(Flags.registered identity = Flags.legacyPrivateKey ∨
        Flags.registered identity = Flags.legacyPublicKey) :=
      not_or.mpr ⟨Flags.registered_ne_legacyPrivateKey _, Flags.registered_ne_legacyPublicKey _⟩
    rw [hmoved, if_neg hnone, hflags _ (Flags.registered_not_describing _),
      hflags _ (Flags.registered_not_describing _)]
  constructor
  · exact ⟨text, hflag, hlength.trans rfl, hdenotes⟩
  · exact (hmoved _).trans (if_pos (.inl rfl))
  · exact (hmoved _).trans (if_pos (.inr rfl))
  · intro value hvalue
    refine ⟨?_, fun hother => ?_⟩
    · rw [hmarker, hvalue]
      exact if_pos rfl
    · rw [hmarker, hvalue]
      exact (if_neg hother).trans (if_pos rfl)
  · intro hnone identity
    rw [hmarker, hnone]
  · intro identity hnew hold
    show v.store.flag? _ = _
    rw [hmarker]
    split
    · rfl
    · rw [if_neg hnew, if_neg hold]
  · exact hkept.trans hresets

namespace Vault

/-- Flags that name no stored vault are free. -/
theorem flagsFree_iff {store : Store} {id : String} (habsent : store.recordText? id = none) :
    store.FlagsFree id ↔ ¬store.NamesStored := by
  constructor
  · intro hfree hnames
    have hsome := hfree.isSome hnames
    rw [habsent] at hsome
    cases hsome
  · intro hnames active hactive
    refine .inr (Option.eq_none_iff_forall_ne_some.mpr fun text htext => hnames ⟨active, hactive, ?_⟩)
    rw [htext]
    rfl

/-- A vault that was made leaves this behind. -/
theorem create_leavesBehind {vault : Vault} {migrates : Bool} {w w' : World}
    {created : CreatedVault} (h : vault.create migrates w = (.ok created, w')) :
    LeavesBehind vault migrates w created w' := by
  obtain ⟨record, hmade⟩ := create_made h
  cases create_run h with
  | @done legacy draft session ready stored habsent hlegacy hready hdraft hpersist hsession =>
  obtain ⟨hrun⟩ := hdraft
  obtain ⟨hvalid, hrow⟩ := persist_ok hpersist
  have hcache := persist_cache hrun.id_eq hpersist
  -- The record in the row is the one of the draft.
  obtain rfl : record = draft.record := by
    obtain ⟨hstored, hparse⟩ := hmade.parse
    have hsame : record.toStored = draft.record.toStored := by
      rw [hmade.id_eq, ← hrun.id_eq] at hstored
      exact Option.some.inj (hstored.symm.trans hrow)
    rw [hsame, VaultRecord.ofStored_toStored hvalid] at hparse
    exact (Except.ok.inj hparse).symm
  obtain ⟨hversion, hsalt, hiv, -⟩ := VaultRecord.validate_eq_ok_iff.mp hvalid
  have hfree := flagsFree_iff habsent
  obtain ⟨described, hflags, hresets, hsettle⟩ := persist_settled hpersist
  subst hsession
  constructor
  · exact ⟨_, _, hrun.id_eq ▸ hrow, VaultRecord.ofStored_toStored hvalid, hrun.id_eq, hversion,
      hsalt, hiv, rfl, hrun.publicKeyHex_eq, fun hnames => hmade.taken (hfree.mpr hnames)⟩
  · exact fun id hid => (hmade.row id).trans (if_neg hid)
  · exact fun hnames => hmade.left fun hthere => hfree.mp hthere hnames
  · exact ⟨rfl, by rw [hcache, hready.cache]⟩
  · -- Whether a key is taken over is whether one was found.
    rcases LegacyKey.found_cases hlegacy with ⟨rfl, hnot⟩ | ⟨text, key, rfl, hflag, -, rfl⟩
    · exact iff_of_false Bool.false_ne_true hnot
    · exact iff_of_true rfl ⟨rfl, by rw [hflag]; rfl⟩
  · intro hmigrated
    rcases LegacyKey.found_cases hlegacy with ⟨rfl, -⟩ | ⟨text, key, rfl, hflag, hparse, rfl⟩
    · cases hmigrated
    · have hprimary : draft.bundle.primaryKey = key := hrun.primaryKey_eq key rfl
      have hhex : draft.record.publicKeyHex = key.publicKeyHex := by
        rw [hrun.publicKeyHex_eq, SecretBundle.publicKeyHex, hprimary]
      rw [settle, hhex] at hsettle
      show TakenOver w _ draft.bundle.primaryKey
      rw [hprimary]
      exact LegacyKey.takenOver_of_finish hflag hparse
        (fun key hkey => (hflags key hkey).trans (hready.flag? key))
        (hresets.trans hready.resets) hsettle
  · intro hmigrated
    rcases legacy with _ | legacy
    · have hreset := Counters.reset_ok hsettle
      subst hreset
      refine ⟨fun key hkey => (hflags key hkey).trans (hready.flag? key), ?_⟩
      show described.resets ++ _ = _
      rw [hresets, hready.resets, hrun.publicKeyHex_eq]
      rfl
    · cases hmigrated

end Vault

/-- A world with a legacy key in capital letters, with white space around it, that was registered
under its public key in capital letters. -/
def World.marked : World :=
  World.fresh.withFlags
    [(Flags.legacyPrivateKey, " 9D61B19DEFFD5A60BA844AF492EC2CC44449C5697B326919703BAC031CAE7F60\n"),
      (Flags.legacyPublicKey, "D75A980182B10AB7D54BFED3C964073A0EE172F3DAA62325AF021A68F707511A"),
      (Flags.registered "D75A980182B10AB7D54BFED3C964073A0EE172F3DAA62325AF021A68F707511A", "yes")]

/-- There a new vault takes over the key, and the marker goes to the public key in small letters. -/
theorem Vault.create_leavesBehind_marked : ∃ created w',
    (Vault.ofId "first").create true .marked = (.ok created, w') ∧
      LeavesBehind (.ofId "first") true .marked created w' ∧
      w'.store.flag? (Flags.registered
        "d75a980182b10ab7d54bfed3c964073a0ee172f3daa62325af021a68f707511a") = some "yes" := by
  have hok : ((Vault.ofId "first").create true .marked).1.isOk = true := by decide +kernel
  have hmoved : ((Vault.ofId "first").create true .marked).2.store.flag? (Flags.registered
      "d75a980182b10ab7d54bfed3c964073a0ee172f3daa62325af021a68f707511a") = some "yes" := by
    decide +kernel
  rcases hrun : (Vault.ofId "first").create true .marked with ⟨e | created, w'⟩ <;>
    rw [hrun] at hok hmoved
  · cases hok
  · exact ⟨created, w', rfl, create_leavesBehind hrun, hmoved⟩

end CredentialVault
