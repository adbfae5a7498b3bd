import PipelineSync.Digest.Sha256

/-!
# Fingerprints

A fingerprint is the SHA-256 digest, in hexadecimal, of the attributes that identify a material.
The attributes are written `key=value` and joined by `<|>`.
-/

namespace PipelineSync

open Std

/-- The stable identity of a material. -/
structure Fingerprint where
  hex : String
deriving DecidableEq, Repr, Inhabited

namespace Fingerprint

instance : Ord Fingerprint := ⟨compareOn Fingerprint.hex⟩

instance : TransOrd Fingerprint :=
  inferInstanceAs (TransCmp (compareOn Fingerprint.hex))

instance : LawfulEqOrd Fingerprint where
  compare_self := fun {a} => (ReflCmp.compare_self : compare a.hex a.hex = .eq)
  eq_of_compare {a b} h := by
    cases a
    cases b
    exact congrArg Fingerprint.mk (LawfulEqOrd.eq_of_compare (α := String) h)

/-- The first twelve characters, enough to tell materials apart. -/
def short (f : Fingerprint) : String :=
  String.ofList (f.hex.toList.take 12)

/-- What stands between two attributes. -/
def separator : String := "<|>"

/-- The text that is digested. -/
def projection (criteria : List (String × String)) : String :=
  String.intercalate separator (criteria.map fun (key, value) => key ++ "=" ++ value)

/-- The fingerprint of identifying attributes. -/
def ofCriteria (criteria : List (String × String)) : Fingerprint :=
  ⟨Digest.sha256Hex (projection criteria)⟩

end Fingerprint

end PipelineSync
