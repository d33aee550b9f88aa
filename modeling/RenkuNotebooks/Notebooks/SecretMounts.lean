import RenkuNotebooks.Notebooks.Errors
import RenkuNotebooks.Notebooks.ServerData

/-!
# Where user secrets may be mounted

`PathField` is to keep user secrets out of the system directories of a container. It compares the
first part of the path with their names, and the first part of an absolute path is its root.
-/

namespace RenkuNotebooks.Notebooks.SecretMounts

/-- `BLACKLISTED_PATHS` -/
def blacklistedPaths : List String := ["bin", "sbin", "usr", "dev", "proc", "sys", "lib", "var"]

/-- `path.parts`, with the root of an absolute path. -/
def pathParts (path : PosixPath) : List String :=
  if path.isAbsolute then (if path.twoSlashes then "//" else "/") :: path.parts else path.parts

/-- `PathField._deserialize` -/
def deserialize (value : String) : Except PyError String :=
  let path := PosixPath.ofString value
  if path.isAbsolute then
    match pathParts path with
    | [] => .error .indexError
    | first :: _ =>
      if first ∈ blacklistedPaths then
        .error (.validationError ("Secrets are not allowed to be mounted in " ++ first))
      else .ok path.asPosix
  else .error (.validationError "Path is not aboslute")

/-- What the path leads to. -/
def destination (value : String) : Directory :=
  (PosixPath.ofString value).resolve

/-- It is or lies below a blacklisted directory. -/
def Blacklisted (value : String) : Prop :=
  ∃ directory ∈ blacklistedPaths, Directory.Within [directory] (destination value)

instance (value : String) : Decidable (Blacklisted value) :=
  inferInstanceAs
    (Decidable (∃ directory ∈ blacklistedPaths, Directory.Within [directory] (destination value)))

def Rejected (value : String) : Prop := ∃ message, deserialize value = .error (.validationError message)

theorem root_not_blacklisted (twoSlashes : Bool) :
    (if twoSlashes then "//" else "/") ∉ blacklistedPaths := by
  cases twoSlashes <;> decide

/-- No absolute path is rejected. -/
theorem deserialize_absolute {value : String} (h : (PosixPath.ofString value).isAbsolute = true) :
    deserialize value = .ok (PosixPath.ofString value).asPosix := by
  unfold deserialize
  dsimp only
  rw [if_pos h, pathParts, if_pos h]
  exact if_neg (root_not_blacklisted _)

/-- The paths that are dealt with as they should be are the ones that are to be accepted. -/
theorem rejected_iff_blacklisted_iff {value : String}
    (h : (PosixPath.ofString value).isAbsolute = true) :
    (Rejected value ↔ Blacklisted value) ↔ ¬ Blacklisted value := by
  have haccepted : ¬ Rejected value := by
    rintro ⟨message, hmessage⟩
    cases (deserialize_absolute h).symm.trans hmessage
  constructor
  · exact fun hiff hblacklisted => haccepted (hiff.mpr hblacklisted)
  · exact fun hnot => ⟨fun hrejected => absurd hrejected haccepted, fun hyes => absurd hyes hnot⟩

theorem secrets_accepted :
    ¬ Blacklisted "/secrets/../run/secrets" ∧
      (Rejected "/secrets/../run/secrets" ↔ Blacklisted "/secrets/../run/secrets") := by
  have hnot : ¬ Blacklisted "/secrets/../run/secrets" := by decide +kernel
  exact ⟨hnot, (rejected_iff_blacklisted_iff (by decide +kernel)).mpr hnot⟩

/-- The path of the test with the local cluster. -/
theorem bin_not_rejected :
    ¬ ∀ value, (PosixPath.ofString value).isAbsolute = true →
      (Rejected value ↔ Blacklisted value) := by
  intro h
  obtain ⟨message, hmessage⟩ := (h "/bin/test/" (by decide +kernel)).mpr (by decide +kernel)
  have haccepted := @deserialize_absolute "/bin/test/" (by decide +kernel)
  cases haccepted.symm.trans hmessage

end RenkuNotebooks.Notebooks.SecretMounts
