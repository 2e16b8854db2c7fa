import ComponentCatalog.Digest.Fingerprint
import ComponentCatalog.Metadata.Basic

/-!
# Stored metadata

What an analysis found is stored with the fingerprint of the source that it was found from, as one
JSON text. It counts only for a source of the same fingerprint.
-/

namespace ComponentCatalog.Store

/-- The metadata of a component as they are stored. -/
structure Entry where
  /-- Of the source as it is, before any step changes it. -/
  fingerprint : Fingerprint
  /-- When it was stored, in seconds. -/
  storedAt : Nat
  metadata : Metadata
  deriving Repr, DecidableEq, Inhabited

namespace Entry

def toJson (entry : Entry) : Json :=
  .object [("fingerprint", entry.fingerprint.toJson), ("stored_at", .int entry.storedAt),
    ("metadata", entry.metadata.toJson)]

def text (entry : Entry) : String := entry.toJson.compact

def decoder : Decoder Entry :=
  Doc.record "struct StoredEntry"
    [Doc.field "fingerprint" true Fingerprint.decoder fun fingerprint e => { e with fingerprint },
     Doc.field "stored_at" true Doc.asWord fun storedAt e => { e with storedAt },
     Doc.field "metadata" true Metadata.decoder fun metadata e => { e with metadata }]
    ⟨⟨0⟩, 0, {}⟩

def ofBytes (bytes : ByteArray) : Except JsonFault Entry := Doc.decodeBytes decoder bytes

/-- The metadata of stored bytes, if they are an entry for a source of the fingerprint. -/
def metadataFor? (fingerprint : Fingerprint) (bytes : ByteArray) : Option Metadata :=
  match ofBytes bytes with
  | .ok entry => if entry.fingerprint == fingerprint then some entry.metadata else none
  | .error _ => none

end Entry

end ComponentCatalog.Store
