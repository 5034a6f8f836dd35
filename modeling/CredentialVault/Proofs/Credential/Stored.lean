import CredentialVault.Credential.Virtual
import CredentialVault.Proofs.Vault.Record

/-!
# The file of an authenticator is read back

The text that an authenticator keeps in its file reads as its credentials (`run_toJson`), so that
after the file was opened again each of them is there as before (`Holds.gather`).
-/

namespace CredentialVault

open Json

/-- A value that may be null is read back when it is not. -/
theorem Json.reads_optional {α : Type} {reader : Reader α} {value : α} {byte : UInt8}
    {bytes : Bytes} (h : Reads reader value (byte :: bytes)) (hspace : isSpace byte = false)
    (hnull : byte ≠ 110) : Reads (Reader.optional reader) (some value) (byte :: bytes) := by
  intro space rest hblank hends
  have hread := h [] rest isSpace_nil hends
  rw [List.nil_append] at hread
  unfold Reader.optional
  rw [List.cons_append, Reader.bind_of_ok (Reader.peek_append hblank hspace _),
    if_neg (by simpa using hnull), ← List.cons_append, Reader.bind_of_ok hread]
  rfl

namespace StoredCredential

/-- A credential is read back. -/
theorem reads_toJson (credential : StoredCredential) {bytes : Bytes}
    (h : Spells credential.toJson bytes) : Reads StoredCredential.reader credential bytes := by
  obtain ⟨rpId, userName, secret, largeBlob⟩ := credential
  unfold toJson at h
  -- The members that every credential has, before those that it may have.
  have hfirst : ∀ {spacing : Spacing} {items : List (String × Bytes)} {draft : Draft},
      MembersRead fields.member spacing ⟨some rpId, some userName, some secret, none⟩ items draft →
      MembersRead fields.member spacing ⟨none, none, none, none⟩
        (("rpId", Bytes.ofChars (quote rpId)) :: ("userName", Bytes.ofChars (quote userName)) ::
          ("secret", Bytes.ofChars (quote (Base64Url.encode secret))) :: items) draft := by
    intro spacing items draft hrest
    refine .cons (Fields.member_reads rfl rfl ((reads_text rpId).map _) spacing) ?_
    refine .cons (Fields.member_reads rfl rfl ((reads_text userName).map _) spacing) ?_
    exact .cons (Fields.member_reads rfl rfl ((reads_bytes secret).map _) spacing) hrest
  cases largeBlob with
  | none =>
    cases h with
    | object spacing hmembers =>
      obtain _ | ⟨hrp, _ | ⟨huser, _ | ⟨hsecret, ⟨⟩⟩⟩⟩ := hmembers
      cases hrp
      cases huser
      cases hsecret
      exact Reads.map (Fields.reads (hfirst (.nil _)) rfl) Draft.finish
  | some blob =>
    cases h with
    | object spacing hmembers =>
      obtain _ | ⟨hrp, _ | ⟨huser, _ | ⟨hsecret, _ | ⟨hblob, ⟨⟩⟩⟩⟩⟩ := hmembers
      cases hrp
      cases huser
      cases hsecret
      cases hblob
      -- The quote at the start tells the text from null.
      have hread := reads_text blob
      rw [ofChars_quote] at hread
      have hread := reads_optional hread (by decide) (by decide)
      rw [← ofChars_quote] at hread
      refine Reads.map (Fields.reads (hfirst ?_ : MembersRead _ spacing _ _
        (⟨some rpId, some userName, some secret, some (some blob)⟩ : Draft)) rfl) Draft.finish
      exact .cons (Fields.member_reads rfl rfl (hread.map _) spacing) (.nil _)

end StoredCredential

/-- A credential is known by the text of its name. -/
theorem CredentialId.text_inj {id other : CredentialId} (h : id.text = other.text) : id = other := by
  obtain ⟨bytes⟩ := id
  obtain ⟨others⟩ := other
  exact congrArg _ (Base64Url.encode_injective h)

namespace Credentials

/-- The credentials have one row for a key, with the given credential. -/
def Holds (credentials : Credentials) (key : String) (stored : StoredCredential) : Prop :=
  credentials.rows.filter (·.1 = key) = [(key, stored)]

/-- What is found under a key is in the rows of the key. -/
theorem lookup_filter_eq {α : Type} (key : String) (rows : List (String × α)) :
    rows.lookup key = (rows.filter (·.1 = key)).lookup key := by
  induction rows with
  | nil => rfl
  | cons row rows ih =>
    obtain ⟨k, value⟩ := row
    by_cases hk : k = key
    · rw [List.filter_cons_of_pos (by simpa using hk), hk, List.lookup_cons_self,
        List.lookup_cons_self]
    · rw [List.filter_cons_of_neg (by simpa using hk), List.lookup_cons,
        beq_false_of_ne (Ne.symm hk), ih]

/-- A credential that is held is found. -/
theorem Holds.get? {credentials : Credentials} {key : String} {stored : StoredCredential}
    (h : credentials.Holds key stored) : credentials.get? key = some stored := by
  show credentials.rows.lookup key = some stored
  rw [lookup_filter_eq, show credentials.rows.filter (·.1 = key) = [(key, stored)] from h,
    List.lookup_cons_self]

/-- A credential that was put into a table is held. -/
theorem holds_insert (credentials : Credentials) (key : String) (stored : StoredCredential) :
    Holds (credentials.insert key stored) key stored := by
  simp [Holds, Table.insert, Table.erase, List.filter_filter]

/-- A credential stays when another is put into the table. -/
theorem Holds.insert {credentials : Credentials} {key other : String}
    {stored new : StoredCredential} (h : credentials.Holds key stored) (hother : other ≠ key) :
    Holds (credentials.insert other new) key stored := by
  unfold Holds at h ⊢
  rw [Table.insert, List.filter_cons_of_neg (by simpa using hother), Table.erase, List.filter_filter,
    ← h]
  refine List.filter_congr fun row _ => ?_
  by_cases hrow : row.1 = key <;> simp [hrow, Ne.symm hother]

/-- The form of credentials is read back, with one row for each key. -/
theorem reads_toJson (credentials : Credentials) {bytes : Bytes}
    (h : Spells credentials.toJson bytes) :
    Reads reader ⟨Json.gather [] credentials.rows⟩ bytes := by
  unfold toJson at h
  cases h with
  | object spacing hmembers =>
    obtain _ | ⟨hrows, ⟨⟩⟩ := hmembers
    have htable := reads_dictionary (fun row _ _ => row.2.reads_toJson) hrows
    refine Reads.map (Fields.reads (?_ : MembersRead _ spacing _ _
      (some ⟨Json.gather [] credentials.rows⟩ : Option Credentials)) rfl) (·.getD .empty)
    exact .cons (Fields.member_reads rfl rfl (htable.map _) spacing) (.nil _)

/-- The text of credentials is read back. -/
theorem run_toJson (credentials : Credentials) :
    reader.run (Bytes.ofText credentials.toJson.indented) =
      .ok ⟨Json.gather [] credentials.rows⟩ :=
  (credentials.reads_toJson (spells_indented credentials.toJson)).run

/-- A credential that is held is held after the text was read back. -/
theorem Holds.gather {credentials : Credentials} {key : String} {stored : StoredCredential}
    (h : credentials.Holds key stored) : Holds ⟨Json.gather [] credentials.rows⟩ key stored :=
  Json.filter_gather h

/-- The text of credentials has two bytes at least. -/
theorem two_le_length_toJson (credentials : Credentials) :
    2 ≤ (Bytes.ofText credentials.toJson.indented).length := by
  have hspell := spells_indented credentials.toJson
  unfold toJson at hspell ⊢
  generalize Bytes.ofText _ = bytes at hspell ⊢
  cases hspell with
  | object spacing hmembers =>
    cases hmembers with
    | cons =>
      rw [objectBytes, List.length_cons]
      exact Nat.succ_le_succ (Nat.le_trans (by simp) (length_le_memberBytes spacing true _))

end Credentials

end CredentialVault
