/-!
# `Hash` — content addresses as an ideal hash

Every identifier and integrity field of the kernel is a SHA-256 of a canonical JSON value. The model
keeps the hashed value itself: a `Digest α` is the value it was taken of, so two digests agree exactly
when their preimages do. A stable identifier (`prefix_<32 hex digits>`) is the digest of its material;
the prefix is the material's type, so identifiers of different kinds never meet in one column.
-/

namespace WeFlow

/-- The SHA-256 digest of a canonical JSON value of type `α`. -/
structure Digest (α : Type) where
  preimage : α
  deriving DecidableEq, Repr

/-- The kernel's `_sha256`. -/
def sha256 {α : Type} (value : α) : Digest α := ⟨value⟩

@[simp] theorem sha256_inj {α : Type} {a b : α} : sha256 a = sha256 b ↔ a = b := by
  simp [sha256]

@[simp] theorem preimage_sha256 {α : Type} (a : α) : (sha256 a).preimage = a := rfl

/-- A stable identifier over material of type `α`. -/
structure StableId (α : Type) where
  digest : Digest α
  deriving DecidableEq, Repr

/-- The kernel's `_stable_identifier`; the prefix is fixed by the material's type. -/
def stableIdentifier {α : Type} (material : α) : StableId α := ⟨sha256 material⟩

@[simp] theorem stableIdentifier_inj {α : Type} {a b : α} :
    stableIdentifier a = stableIdentifier b ↔ a = b := by
  simp [stableIdentifier]

/-- A record together with the content hash it claims (`grant_sha256`, `content_sha256`, …). -/
structure Sealed (α : Type) where
  body : α
  hash : Digest α
  deriving DecidableEq, Repr

/-- The record with its own content hash. -/
def Sealed.of {α : Type} (body : α) : Sealed α := ⟨body, sha256 body⟩

/-- Whether the claimed hash is the content's. -/
def Sealed.intact {α : Type} [DecidableEq α] (r : Sealed α) : Bool := r.hash = sha256 r.body

@[simp] theorem Sealed.of_body {α : Type} (body : α) : (Sealed.of body).body = body := rfl

@[simp] theorem Sealed.of_hash {α : Type} (body : α) : (Sealed.of body).hash = sha256 body := rfl

@[simp] theorem Sealed.intact_of {α : Type} [DecidableEq α] (body : α) :
    (Sealed.of body).intact = true := by
  simp [Sealed.intact]

end WeFlow
