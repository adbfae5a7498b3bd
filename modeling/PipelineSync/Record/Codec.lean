import PipelineSync.Configuration.Codec
import PipelineSync.Record.Basic

/-!
# Update records as data

The written form of records. What there is none of is left out.
-/

namespace PipelineSync

/-- A time is written as its text. -/
def Time.toData (t : Time) : Data := .text t.text

/-- Reads a time. -/
def Time.ofData? (d : Data) : Option Time := d.asText?.bind Time.ofText?

namespace Fault

/-- Writes a fault. -/
def toData (f : Fault) : Data :=
  .record [("message", .text f.message), ("description", .text f.description),
    ("at", f.at_.toData)]

/-- Reads a fault. -/
def ofData? (d : Data) : Option Fault := do
  let fs ← d.asFields? [["message"], ["description"], ["at"]]
  return {
    message := ← fs.required? "message" Data.asText?
    description := ← fs.required? "description" Data.asText?
    at_ := ← fs.required? "at" Time.ofData? }

end Fault

namespace UpdateRecord

/-- Writes a record. -/
def toData (r : UpdateRecord) : Data :=
  .record <| [("repository_key", r.key.toData)]
    ++ Data.optionalField "last_attempted_revision" (r.lastAttemptedRevision.map .text)
    ++ Data.optionalField "last_merged" (r.lastMerged.map Partial.toData)
    ++ Data.optionalField "last_fault" (r.lastFault.map Fault.toData)
    ++ Data.optionalField "last_checkout_fault" (r.lastCheckoutFault.map Fault.toData)
    ++ [("updated_at", r.updatedAt.toData)]

/-- Reads a record. -/
def ofData? (d : Data) : Option UpdateRecord := do
  let fs ← d.asFields? [["repository_key"], ["last_attempted_revision"], ["last_merged"],
    ["last_fault"], ["last_checkout_fault"], ["updated_at"]]
  return {
    key := ← fs.required? "repository_key" Fingerprint.ofData?
    lastAttemptedRevision := ← fs.optional? "last_attempted_revision" Data.asText?
    lastMerged := ← fs.optional? "last_merged" Partial.ofData?
    lastFault := ← fs.optional? "last_fault" Fault.ofData?
    lastCheckoutFault := ← fs.optional? "last_checkout_fault" Fault.ofData?
    updatedAt := ← fs.required? "updated_at" Time.ofData? }

end UpdateRecord

end PipelineSync
