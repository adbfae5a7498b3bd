import Mathlib
import PipelineSync.Configuration.Basic
import PipelineSync.Material.Codec
import PipelineSync.Proofs.Url.Written

/-!
# Renderings do not depend on passwords

A rendering of a versioned source shows no more than the source with its passwords masked, in its
address and beside it (`masked`). Two sources that differ in passwords only are the same when they
are masked, so no rendering tells them apart: `renderings_eq`.
-/

namespace PipelineSync

namespace Url

/-- Addresses that are the same but for a password that both of them hold. -/
def SameButPassword (s t : String) : Prop :=
  s = t ∨ ∃ u v, parse? s = some u ∧ parse? t = some v ∧ u.password.isSome ∧ v.password.isSome ∧
    { u with password := v.password } = v

theorem SameButPassword.maskPassword_eq {s t : String} (h : SameButPassword s t) :
    maskPassword s = maskPassword t := by
  rcases h with rfl | ⟨u, v, hs, ht, hu, hv, huv⟩
  · rfl
  · rw [maskPassword_of_parse? hs hu, maskPassword_of_parse? ht hv, ← huv]
    rfl

end Url

namespace Material

variable {a b m : Material}

/-- A material with its passwords masked. -/
def masked (m : Material) : Material :=
  { m with url := m.maskedUrl, password := m.password.map fun _ => Url.mask }

/-- Versioned sources that are the same but for the passwords that both of them have. -/
structure SameButPasswords (a b : Material) : Prop where
  isScm : a.kind.isScm = true
  url : Url.SameButPassword a.url b.url
  password : a.password.isSome = b.password.isSome
  others : { a with url := b.url, password := b.password } = b

theorem SameButPasswords.masked_eq (h : SameButPasswords a b) : a.masked = b.masked := by
  have hpassword : (a.password.map fun _ => Url.mask) = b.password.map fun _ => Url.mask := by
    have hsome := h.password
    generalize a.password = p at hsome ⊢
    generalize b.password = q at hsome ⊢
    cases p <;> cases q
    · rfl
    · cases hsome
    · cases hsome
    · rfl
  have hothers : b.masked =
      { a with url := b.maskedUrl, password := b.password.map fun _ => Url.mask } := by
    rw [← h.others]
    rfl
  rw [hothers, masked, maskedUrl, h.url.maskPassword_eq, hpassword]
  rfl

/-! ## Renderings of a masked material -/

section Masked

@[simp] theorem masked_kind (m : Material) : m.masked.kind = m.kind := rfl

@[simp] theorem masked_username (m : Material) : m.masked.username = m.username := rfl

@[simp] theorem masked_branch (m : Material) : m.masked.branch = m.branch := rfl

@[simp] theorem masked_stage (m : Material) : m.masked.stage = m.stage := rfl

@[simp] theorem masked_checkExternals (m : Material) :
    m.masked.checkExternals = m.checkExternals := rfl

@[simp] theorem masked_destination (m : Material) : m.masked.destination = m.destination := rfl

@[simp] theorem masked_filter (m : Material) : m.masked.filter = m.filter := rfl

/-- What is masked is masked. -/
@[simp] theorem maskedUrl_masked (m : Material) : m.masked.maskedUrl = m.maskedUrl :=
  Url.maskPassword_maskPassword m.url

@[simp] theorem effectiveBranch_masked (m : Material) :
    m.masked.effectiveBranch = m.effectiveBranch := rfl

theorem text_masked (m : Material) : m.masked.text = m.text := by
  simp only [text, maskedUrl_masked, masked_kind, masked_stage, masked_destination]

theorem showAttributes_masked (m : Material) : m.masked.showAttributes = m.showAttributes := by
  have hpassword : (m.masked.password.map fun _ => Url.mask) = m.password.map fun _ => Url.mask :=
    Option.map_map _ _ _
  unfold showAttributes
  rw [maskedUrl_masked, hpassword, masked_kind, masked_username, masked_branch, masked_stage,
    masked_checkExternals, masked_destination, masked_filter]

theorem longDescription_masked (h : m.kind.isScm = true) :
    m.masked.longDescription = m.longDescription := by
  simp only [longDescription, maskedUrl_masked, effectiveBranch_masked, masked_kind,
    masked_username, masked_checkExternals]
  cases hkind : m.kind with
  | dependency =>
    rw [hkind] at h
    cases h
  | _ => rfl

theorem ne_dependency_of_isScm (h : m.kind.isScm = true) : m.kind ≠ .dependency := by
  intro hkind
  rw [hkind] at h
  cases h

theorem displayName_masked (h : m.kind.isScm = true) : m.masked.displayName = m.displayName := by
  have hkind := ne_dependency_of_isScm h
  simp only [displayName, masked_kind, maskedUrl_masked, if_neg hkind]

theorem attributes_masked (h : m.kind.isScm = true) :
    m.masked.attributes false = m.attributes false := by
  simp only [attributes, masked_kind, masked_username, masked_checkExternals, masked_stage,
    maskedUrl_masked, effectiveBranch_masked]
  cases hkind : m.kind with
  | dependency => exact absurd hkind (ne_dependency_of_isScm h)
  | _ => rfl

end Masked

/-! ## Two materials -/

/-- What renders a masked source as it renders the source, renders alike what differs in passwords
only. -/
theorem SameButPasswords.eq_of_masked {α : Type} {f : Material → α} (h : SameButPasswords a b)
    (hf : ∀ m : Material, m.kind.isScm = true → f m.masked = f m) : f a = f b := by
  have hb : b.kind.isScm = true := by
    rw [← h.others]
    exact h.isScm
  rw [← hf a h.isScm, h.masked_eq, hf b hb]

/-- Two sources that differ in passwords only have the same renderings, and what is masked stays as it
is when it is masked again. -/
theorem renderings_eq_and_maskPassword_idem :
    (∀ (a b : Material) (revision : String), SameButPasswords a b →
      a.maskedUrl = b.maskedUrl ∧ a.text = b.text ∧ a.showAttributes = b.showAttributes ∧
        a.longDescription = b.longDescription ∧ a.displayName = b.displayName ∧
        a.attributes false = b.attributes false ∧
        (RepositoryOrigin.ofMaterial a revision).url =
          (RepositoryOrigin.ofMaterial b revision).url) ∧
      ∀ text, Url.maskPassword (Url.maskPassword text) = Url.maskPassword text := by
  refine ⟨fun a b revision h => ⟨?_, ?_, ?_, ?_, ?_, ?_, ?_⟩, Url.maskPassword_maskPassword⟩
  · exact h.url.maskPassword_eq
  · exact h.eq_of_masked fun m _ => text_masked m
  · exact h.eq_of_masked fun m _ => showAttributes_masked m
  · exact h.eq_of_masked fun m hm => longDescription_masked hm
  · exact h.eq_of_masked fun m hm => displayName_masked hm
  · exact h.eq_of_masked (f := fun m => m.attributes false) fun m hm => attributes_masked hm
  · exact h.url.maskPassword_eq

/-- A repository that is reached with this password, in its address and beside it. -/
def pushedWith (password : String) : Material where
  kind := .git
  url := "ssh://git:" ++ password ++ "@scm/repo.git"
  password := some password
  branch := some "main"

theorem pushedWith_renderings_eq :
    pushedWith "old" ≠ pushedWith "new" ∧ SameButPasswords (pushedWith "old") (pushedWith "new") ∧
      (pushedWith "old").maskedUrl = (pushedWith "new").maskedUrl ∧
        (pushedWith "old").text = (pushedWith "new").text ∧
        (pushedWith "old").showAttributes = (pushedWith "new").showAttributes ∧
        (pushedWith "old").longDescription = (pushedWith "new").longDescription ∧
        (pushedWith "old").displayName = (pushedWith "new").displayName ∧
        (pushedWith "old").attributes false = (pushedWith "new").attributes false ∧
        (RepositoryOrigin.ofMaterial (pushedWith "old") "r1").url =
          (RepositoryOrigin.ofMaterial (pushedWith "new") "r1").url := by
  have hurl : Url.SameButPassword (pushedWith "old").url (pushedWith "new").url :=
    Or.inr ⟨_, _, rfl, rfl, rfl, rfl, rfl⟩
  have hsame : SameButPasswords (pushedWith "old") (pushedWith "new") := ⟨rfl, hurl, rfl, rfl⟩
  exact ⟨by decide, hsame, renderings_eq_and_maskPassword_idem.1 _ _ "r1" hsame⟩

end Material

end PipelineSync
