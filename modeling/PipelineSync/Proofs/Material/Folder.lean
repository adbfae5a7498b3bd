import PipelineSync.Path
import PipelineSync.Scm.Basic

/-!
# Directories of working copies

A working copy lies in a directory whose name has a readable part, which comes from the address and
can be anything, and a digest. `Material.folderName_safe_and_own` says that the name leads nowhere
but to one directory, and that materials with different fingerprints have different ones: whatever
the readable parts are, the digests at the end have one length and tell the names apart.
-/

namespace PipelineSync

namespace Material

/-! ## Safe characters -/

/-- Letters and digits of every script, and `.`, `-` and `_`. -/
def IsFileSafe (c : Char) : Prop :=
  Text.isAlphanumeric c = true ∨ c = '.' ∨ c = '-' ∨ c = '_'

instance (c : Char) : Decidable (IsFileSafe c) :=
  inferInstanceAs (Decidable (_ ∨ _))

theorem IsFileSafe.ne_slash {c : Char} (h : IsFileSafe c) : c ≠ '/' ∧ c ≠ '\\' := by
  have hslash : ¬ IsFileSafe '/' ∧ ¬ IsFileSafe '\\' := by decide +kernel
  constructor
  · rintro rfl
    exact hslash.1 h
  · rintro rfl
    exact hslash.2 h

theorem isFileSafe_fileSafeChar (c : Char) : IsFileSafe (fileSafeChar c) := by
  unfold fileSafeChar
  split
  · exact Or.inr (Or.inr (Or.inl rfl))
  · split
    · next h => simpa [IsFileSafe, or_assoc] using h
    · exact Or.inr (Or.inr (Or.inr rfl))

theorem IsFileSafe.fileSafeChar_eq {c : Char} (h : IsFileSafe c) : fileSafeChar c = c := by
  have hslash : ¬ (c == '/' || c == '\\') = true := by simp [h.ne_slash]
  have hsafe : (Text.isAlphanumeric c || c == '.' || c == '-' || c == '_') = true := by
    simpa [IsFileSafe, or_assoc] using h
  rw [fileSafeChar, if_neg hslash, if_pos hsafe]

theorem isFileSafe_of_mem_fileSafe {s : String} {c : Char} (h : c ∈ (fileSafe s).toList) :
    IsFileSafe c := by
  rw [fileSafe, String.toList_ofList] at h
  obtain ⟨d, -, rfl⟩ := List.mem_map.1 h
  exact isFileSafe_fileSafeChar d

theorem fileSafe_eq_self {s : String} (h : ∀ c ∈ s.toList, IsFileSafe c) : fileSafe s = s := by
  have hmap : s.toList.map fileSafeChar = s.toList.map id :=
    List.map_congr_left fun c hc => (h c hc).fileSafeChar_eq
  rw [fileSafe, hmap, List.map_id, String.ofList_toList]

/-! ## Names of directories -/

variable {a b m : Material}

theorem length_fingerprint (m : Material) : m.fingerprint.hex.toList.length = 64 :=
  Digest.length_sha256Hex _

theorem isFileSafe_of_mem_fingerprint {c : Char} (h : c ∈ m.fingerprint.hex.toList) :
    IsFileSafe c := by
  have hdigits : "0123456789abcdef".toList.all (IsFileSafe ·) = true := by decide +kernel
  exact of_decide_eq_true (List.all_eq_true.1 hdigits c (Digest.mem_of_mem_hex h))

theorem toList_folderName (m : Material) :
    m.folderName.toList = (fileSafe m.displayName).toList ++ '-' :: m.fingerprint.hex.toList := by
  simp [folderName]

theorem isFileSafe_of_mem_folderName {c : Char} (h : c ∈ m.folderName.toList) : IsFileSafe c := by
  rw [toList_folderName, List.mem_append, List.mem_cons] at h
  rcases h with h | rfl | h
  · exact isFileSafe_of_mem_fileSafe h
  · exact Or.inr (Or.inr (Or.inl rfl))
  · exact isFileSafe_of_mem_fingerprint h

/-- The digest alone is longer than the names that lead elsewhere. -/
theorem isName_folderName (m : Material) : Path.IsName m.folderName := by
  have hlong : 64 < m.folderName.toList.length := by
    rw [toList_folderName, List.length_append, List.length_cons, length_fingerprint]
    omega
  refine ⟨?_, ?_, ?_, fun hslash => (isFileSafe_of_mem_folderName hslash).ne_slash.1 rfl⟩
  all_goals
    intro h
    rw [h] at hlong
    exact absurd hlong (by decide)

/-- The digest can be read off the end of the name. -/
theorem fingerprint_eq_of_folderName_eq (h : a.folderName = b.folderName) :
    a.fingerprint = b.fingerprint := by
  have hnames := congrArg String.toList h
  rw [toList_folderName, toList_folderName] at hnames
  obtain ⟨-, hdigests⟩ := List.append_inj' hnames
    (by rw [List.length_cons, List.length_cons, length_fingerprint, length_fingerprint])
  exact congrArg Fingerprint.mk (String.toList_inj.1 (List.cons.inj hdigests).2)

/-- The name is the last component of the directory. -/
theorem fingerprint_eq_of_folder_eq {w : WorkingCopies} (h : w.folder a = w.folder b) :
    a.fingerprint = b.fingerprint := by
  have hcomponents := congrArg Path.components h
  unfold WorkingCopies.folder at hcomponents
  rw [Path.components_join (isName_folderName a), Path.components_join (isName_folderName b)]
    at hcomponents
  have hlast := List.append_cancel_left hcomponents
  exact fingerprint_eq_of_folderName_eq (by simpa using hlast)

/-- The name of a working copy's directory is one component that holds safe characters only and
stays as it is when it is made safe again, so the directory lies right below the common one; and
materials with different fingerprints have different directories. -/
theorem folderName_safe_and_own :
    (∀ m : Material, (∀ c ∈ m.folderName.toList, IsFileSafe c) ∧
      m.folderName ≠ "." ∧ m.folderName ≠ ".." ∧
      Path.components m.folderName = [.named m.folderName] ∧
      (∀ w : WorkingCopies,
        Path.components (w.folder m) = Path.components w.directory ++ [.named m.folderName]) ∧
      fileSafe m.folderName = m.folderName) ∧
    ∀ a b : Material, a.fingerprint ≠ b.fingerprint →
      a.folderName ≠ b.folderName ∧ ∀ w : WorkingCopies, w.folder a ≠ w.folder b := by
  refine ⟨fun m => ⟨fun c hc => isFileSafe_of_mem_folderName hc, ?_, ?_, ?_, fun w => ?_, ?_⟩,
    fun a b hne => ⟨fun h => hne (fingerprint_eq_of_folderName_eq h),
      fun w h => hne (fingerprint_eq_of_folder_eq h)⟩⟩
  · exact (isName_folderName m).2.1
  · exact (isName_folderName m).2.2.1
  · have hjoin : Path.components (Path.join "" m.folderName) =
        Path.components "" ++ [.named m.folderName] := Path.components_join (isName_folderName m)
    have hempty : Path.components "" = [] := by decide
    simpa [Path.join, hempty] using hjoin
  · exact Path.components_join (isName_folderName m)
  · exact fileSafe_eq_self fun c hc => isFileSafe_of_mem_folderName hc

/-- Two repositories of one name in different places. -/
theorem folderName_own_samePart :
    let a : Material := { kind := .hg, url := "/a/site.git" }
    let b : Material := { kind := .hg, url := "/b/site.git" }
    a.displayName = "site" ∧ b.displayName = "site" ∧ a.fingerprint ≠ b.fingerprint ∧
      a.folderName ≠ b.folderName ∧ ∀ w : WorkingCopies, w.folder a ≠ w.folder b := by
  intro a b
  have hne : a.fingerprint ≠ b.fingerprint := by decide +kernel
  exact ⟨by decide +kernel, by decide +kernel, hne, folderName_safe_and_own.2 a b hne⟩

end Material

end PipelineSync
