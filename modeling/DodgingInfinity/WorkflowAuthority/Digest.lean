import DodgingInfinity.Library.Checked
import DodgingInfinity.Library.Framing

/-!
# Framed digests

The digest of several byte strings, each framed by its length.
-/

namespace DodgingInfinity.WorkflowAuthority

open Framing

/-- SHA-256, in lowercase hex. -/
class Sha256 where
  sha256Hex : Bytes → String

export Sha256 (sha256Hex)

/-- The width of a length prefix. -/
def lengthPrefixBytes : Nat := 8

/-- The digest of framed parts; a length that does not fit its prefix is
refused. -/
def framedDigest [Sha256] (parts : List Bytes) : Option String :=
  if parts.length < 256 ^ lengthPrefixBytes ∧
      ∀ part ∈ parts, part.length < 256 ^ lengthPrefixBytes then
    some (sha256Hex (framed lengthPrefixBytes parts))
  else none

/-- Framed parts that have one digest are the same parts, where the hash has no
collision. -/
theorem framedDigest_inj [Sha256] (hsha : Function.Injective sha256Hex)
    {parts others : List Bytes} {digest : String} (h : framedDigest parts = some digest)
    (hother : framedDigest others = some digest) : parts = others := by
  unfold framedDigest at h hother
  split at h
  · rename_i hparts
    split at hother
    · rename_i hothers
      have hframes : framed lengthPrefixBytes parts = framed lengthPrefixBytes others :=
        hsha ((Option.some.inj h).trans (Option.some.inj hother).symm)
      exact framed_injective hparts.2 hothers.2 hparts.1 hothers.1 hframes
    · cases hother
  · cases h

end DodgingInfinity.WorkflowAuthority
