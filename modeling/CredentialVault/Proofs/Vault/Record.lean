import CredentialVault.Proofs.Json.Object
import CredentialVault.Proofs.Text.Base64Url
import CredentialVault.Vault.Record

/-!
# Stored records are read back

The stored text of a valid record reads as the record (`ofStored_toStored`), whatever its id, its
bytes and its times are, and that of any other record is refused as the record is
(`storedText_roundtrips`). And a text is read as a record only if it says one that is valid
(`ofStored_eq_ok_iff`).
-/

namespace CredentialVault

open Json

/-- The base64 text of bytes is read back. -/
theorem Json.reads_bytes (bytes : Bytes) :
    Reads Json.Reader.bytes bytes (Bytes.ofChars (quote (Base64Url.encode bytes))) := by
  refine (reads_text (Base64Url.encode bytes)).bind ?_
  simp only [Base64Url.decode_encode]

/-- The name of a credential is read back. -/
theorem CredentialId.reads_toJson (id : CredentialId) {bytes : Bytes} (h : Spells id.toJson bytes) :
    Reads CredentialId.reader id bytes := by
  cases h with
  | text => exact (reads_bytes id.bytes).map CredentialId.mk

namespace Envelope

/-- An envelope is read back. -/
theorem reads_toJson (envelope : Envelope) {bytes : Bytes}
    (h : Spells envelope.toJson bytes) : Reads Envelope.reader envelope bytes := by
  obtain ⟨iv, ciphertext⟩ := envelope
  unfold Envelope.toJson at h
  cases h with
  | object spacing hmembers =>
    obtain _ | ⟨hiv, _ | ⟨hciphertext, ⟨⟩⟩⟩ := hmembers
    cases hiv
    cases hciphertext
    refine Reads.map (Fields.reads (?_ : MembersRead _ spacing _ _
      (⟨some iv, some ciphertext⟩ : Draft)) rfl) Draft.finish
    refine .cons (Fields.member_reads rfl rfl ((reads_bytes iv).map _) spacing) ?_
    refine .cons (Fields.member_reads rfl rfl ((reads_bytes ciphertext).map _) spacing) ?_
    exact .nil _

end Envelope

namespace VaultRecord

/-- A record is read back. -/
theorem reads_toJson (record : VaultRecord) {bytes : Bytes} (h : Spells record.toJson bytes) :
    Reads VaultRecord.reader record bytes := by
  obtain ⟨id, version, credentialId, salt, envelope, publicKeyHex, createdAtMs, updatedAtMs⟩ :=
    record
  unfold VaultRecord.toJson at h
  cases h with
  | object spacing hmembers =>
    obtain _ | ⟨hid, _ | ⟨hversion, _ | ⟨hcredential, _ | ⟨hsalt, _ | ⟨henvelope,
      _ | ⟨hkey, _ | ⟨hcreated, _ | ⟨hupdated, ⟨⟩⟩⟩⟩⟩⟩⟩⟩⟩ := hmembers
    have hcredential := credentialId.reads_toJson hcredential
    have henvelope := envelope.reads_toJson henvelope
    cases hid
    cases hversion
    cases hsalt
    cases hkey
    cases hcreated
    cases hupdated
    refine Reads.map (Fields.reads (?_ : MembersRead _ spacing _ _
      (⟨some id, some version, some credentialId, some salt, some envelope, some publicKeyHex,
        some createdAtMs, some updatedAtMs⟩ : Draft)) rfl) Draft.finish
    refine .cons (Fields.member_reads rfl rfl ((reads_text id).map _) spacing) ?_
    refine .cons (Fields.member_reads rfl rfl ((reads_natural32 version).map _) spacing) ?_
    refine .cons (Fields.member_reads rfl rfl (hcredential.map _) spacing) ?_
    refine .cons (Fields.member_reads rfl rfl ((reads_bytes salt).map _) spacing) ?_
    refine .cons (Fields.member_reads rfl rfl (henvelope.map _) spacing) ?_
    refine .cons (Fields.member_reads rfl rfl ((reads_text publicKeyHex).map _) spacing) ?_
    refine .cons (Fields.member_reads rfl rfl ((reads_integer64 createdAtMs).map _) spacing) ?_
    refine .cons (Fields.member_reads rfl rfl ((reads_integer64 updatedAtMs).map _) spacing) ?_
    exact .nil _

/-- The JSON form of a record, however it is laid out, reads as the record if that is valid, and is
refused as the record is if not. -/
theorem ofStored_of_spells {record : VaultRecord} {text : String}
    (h : Spells record.toJson (Bytes.ofText text)) :
    ofStored text = record.validate.map fun _ => record := by
  have hparsed : reader.run (Bytes.ofText text) = .ok record := (record.reads_toJson h).run
  rw [ofStored, hparsed]

/-- The stored text of a valid record reads as the record. -/
theorem ofStored_toStored {record : VaultRecord} (h : record.validate = .ok ()) :
    ofStored record.toStored = .ok record := by
  rw [toStored, ofStored_of_spells (spells_compact record.toJson), h]
  rfl

/-- A text says a record: it reads as the record, which has the version, the sizes and an id that
records must have. -/
structure WrittenIn (record : VaultRecord) (text : String) : Prop where
  /-- The text reads as the record. -/
  parsed : reader.run (Bytes.ofText text) = .ok record
  /-- The version is the only one that is known. -/
  version : record.version = 1
  /-- The salt has 32 bytes. -/
  salt : record.salt.length = 32
  /-- The initialisation vector has 12 bytes. -/
  iv : record.envelope.iv.length = 12
  /-- The id is not empty. -/
  id : record.id ≠ ""

/-- A record is valid exactly if it has the version, the sizes and an id that records must have. -/
theorem validate_eq_ok_iff {record : VaultRecord} :
    record.validate = .ok () ↔ record.version = 1 ∧ record.salt.length = 32 ∧
      record.envelope.iv.length = 12 ∧ record.id ≠ "" := by
  unfold validate currentVersion Keys.saltSize Gcm.ivSize
  grind

/-- A record is refused because its form is not known. -/
theorem validate_error {record : VaultRecord} {e : VaultError} (h : record.validate = .error e) :
    ∃ reason, e = .unsupportedSchema reason := by
  unfold validate at h
  repeat
    split at h
    · cases h
      exact ⟨_, rfl⟩
  cases h

/-- A text is read as a record exactly if it says it. -/
theorem ofStored_eq_ok_iff {text : String} {record : VaultRecord} :
    ofStored text = .ok record ↔ record.WrittenIn text := by
  unfold ofStored
  constructor
  · intro h
    rcases hparsed : reader.run (Bytes.ofText text) with e | found <;> rw [hparsed] at h
    · cases h
    · rcases hvalid : found.validate with e | _ <;> simp only [hvalid, Except.map] at h <;> cases h
      obtain ⟨hversion, hsalt, hiv, hid⟩ := validate_eq_ok_iff.mp hvalid
      exact ⟨hparsed, hversion, hsalt, hiv, hid⟩
  · intro h
    have hvalid := validate_eq_ok_iff.mpr ⟨h.version, h.salt, h.iv, h.id⟩
    rw [h.parsed]
    simp only [hvalid, Except.map]

/-- A text is refused because its form is not known. -/
theorem ofStored_error {text : String} {e : VaultError} (h : ofStored text = .error e) :
    ∃ reason, e = .unsupportedSchema reason := by
  unfold ofStored at h
  rcases hparsed : reader.run (Bytes.ofText text) with failure | record <;> rw [hparsed] at h
  · cases h
    exact ⟨_, rfl⟩
  · rcases hvalid : record.validate with failure | _ <;> simp only [hvalid, Except.map] at h <;>
      cases h
    exact validate_error hvalid

/-! ## The round trip -/

/-- The stored text of any record reads as the record if that is valid; if not, it is refused with
the very error of the record, which is one of its form. A text that is read as a record, however it
is laid out, gives a valid record, whose stored text reads as the same record again. -/
theorem storedText_roundtrips :
    (∀ record : VaultRecord, match record.validate with
      | .ok () => ofStored record.toStored = .ok record
      | .error e => ofStored record.toStored = .error e ∧ ∃ reason, e = .unsupportedSchema reason) ∧
    ∀ (text : String) (record : VaultRecord), ofStored text = .ok record →
      record.validate = .ok () ∧ ofStored record.toStored = .ok record := by
  constructor
  · intro record
    have hstored : ofStored record.toStored = record.validate.map fun _ => record :=
      ofStored_of_spells (spells_compact record.toJson)
    rcases hvalid : record.validate with e | _
    · rw [hvalid] at hstored
      exact ⟨hstored, validate_error hvalid⟩
    · exact ofStored_toStored hvalid
  · intro text record h
    obtain ⟨-, hversion, hsalt, hiv, hid⟩ := ofStored_eq_ok_iff.mp h
    have hvalid : record.validate = .ok () := validate_eq_ok_iff.mpr ⟨hversion, hsalt, hiv, hid⟩
    exact ⟨hvalid, ofStored_toStored hvalid⟩

/-- A record whose id is hard to write, and whose times are the first and the last there are. -/
def extreme : VaultRecord where
  id := "\"\\\n\x01é"
  version := 1
  credentialId := ⟨[]⟩
  salt := List.replicate 32 255
  envelope := ⟨List.replicate 12 0, [1]⟩
  publicKeyHex := ""
  createdAtMs := Int64.minValue
  updatedAtMs := Int64.maxValue

/-- It is so for a text with each member on a line of its own, which is not the stored text. -/
theorem storedText_roundtrips_lines :
    extreme.toJson.indented ≠ extreme.toStored ∧
      ofStored extreme.toJson.indented = .ok extreme ∧
      extreme.validate = .ok () ∧ ofStored extreme.toStored = .ok extreme := by
  have hread : ofStored extreme.toJson.indented = .ok extreme :=
    ofStored_of_spells (spells_indented extreme.toJson)
  have hlines : extreme.toJson.indented ≠ extreme.toStored := by
    intro hsame
    -- After the brace comes a line feed in one of them, and a quote in the other.
    have hsecond := congrArg (fun text : String => text.toList[1]?) hsame
    simp only [toStored, Json.Value.indented, Json.Value.compact, String.toList_ofList] at hsecond
    cases hsecond
  exact ⟨hlines, hread, storedText_roundtrips.2 _ _ hread⟩

end VaultRecord

end CredentialVault
